import PhpBuildpack.Supply.Supplier
import PhpBuildpack.Go.Fmt

/-! The scripts `Run` writes last: the profile.d script that exports the runtime's variables
and runs `varify` on the run tree, and the start script that runs php-fpm and httpd. Both are
`fmt.Sprintf` of the source's formats. -/
namespace PhpBuildpack.Supply
open Go

/-- The format of `Supplier.WriteStartFile`. -/
def startFormat : String :=
  "#!/usr/bin/env bash\n" ++
  "# TODO real process management\n" ++
  "$DEPS_DIR/%s/php/sbin/php-fpm -p \"$DEPS_DIR/%s/php/etc\" -y \"$DEPS_DIR/%s/php/etc/php-fpm.conf\" -c \"$DEPS_DIR/%s/php/etc\" &\n" ++
  "$DEPS_DIR/%s/httpd/bin/apachectl -f \"$DEPS_DIR/%s/httpd/conf/httpd.conf\" -k start -DFOREGROUND\n"

/-- The start script for the dependency index `depsIdx`: the source passes it eight times. -/
def startScript (depsIdx : String) : String := sprintf startFormat (List.replicate 8 depsIdx)

/-- `Supplier.WriteStartFile`. -/
def writeStartFile (s : Supplier) : GoCall Unit :=
  writeFile (s.stager.depDir ++ ["bin", "php_buildpack_start"]) (startScript s.stager.depsIdx)

/-- `Supplier.WriteProfileD`, with `libbuildpack.FileExists` and `Stager.WriteProfileD` as
given. -/
def writeProfileD (fileExists : FilePath → Except GoError Bool)
    (stagerWriteProfileD : String → String → GoCall Unit) (s : Supplier) : GoCall Unit := do
  let script := sprintf "export PHPRC=$DEPS_DIR/%s/php/etc\n" [s.stager.depsIdx]
  let script := script ++ "export HTTPD_SERVER_ADMIN=admin@localhost\n"
  let found ← GoCall.ofExcept (fileExists (s.stager.depDir ++ ["php", "etc", "php.ini.d"]))
  let script := if found then
      script ++ sprintf "export PHP_INI_SCAN_DIR=$DEPS_DIR/%s/php/etc/php.ini.d\n"
        [s.stager.depsIdx]
    else script
  let script := script ++ sprintf "varify \"$DEPS_DIR/%s/php/etc/\" \"$DEPS_DIR/%s/httpd/conf/\""
    [s.stager.depsIdx, s.stager.depsIdx] ++ "\n"
  stagerWriteProfileD "bp_env_vars.sh" script

theorem writeProfileD_writesWithin {C : FilePath → Prop}
    (fileExists : FilePath → Except GoError Bool) {stagerWriteProfileD : String → String → GoCall Unit}
    (hw : ∀ name script, WritesWithin (stagerWriteProfileD name script) C) (s : Supplier) :
    WritesWithin (writeProfileD fileExists stagerWriteProfileD s) C := by
  unfold writeProfileD
  exact (writesWithin_ofExcept _).bind fun _ => hw _ _

-- The profile.d script for the dependency index `depsIdx`, line by line, exporting
-- `PHP_INI_SCAN_DIR` when `iniDir` holds.
def profileScript (depsIdx : String) (iniDir : Bool) : String :=
  "export PHPRC=$DEPS_DIR/" ++ depsIdx ++ "/php/etc\n" ++
    "export HTTPD_SERVER_ADMIN=admin@localhost\n" ++
    (if iniDir then "export PHP_INI_SCAN_DIR=$DEPS_DIR/" ++ depsIdx ++ "/php/etc/php.ini.d\n"
      else "") ++
    "varify \"$DEPS_DIR/" ++ depsIdx ++ "/php/etc/\" \"$DEPS_DIR/" ++ depsIdx ++ "/httpd/conf/\"\n"

/-- `WriteProfileD` hands `Stager.WriteProfileD` the script of `profileScript`: each format
gets as many arguments as it has verbs, so no `%!` text enters it, and `PHP_INI_SCAN_DIR`
is exported exactly when `php/etc/php.ini.d` exists under `DepDir`. An error of the
existence check is returned before anything is written. -/
theorem writeProfileD_script (fileExists : FilePath → Except GoError Bool)
    (stagerWriteProfileD : String → String → GoCall Unit) (s : Supplier) :
    writeProfileD fileExists stagerWriteProfileD s =
      match fileExists (s.stager.depDir ++ ["php", "etc", "php.ini.d"]) with
      | .ok found => stagerWriteProfileD "bp_env_vars.sh" (profileScript s.stager.depsIdx found)
      | .error e => GoCall.fail (.error e) := by
  have hrc : sprintf "export PHPRC=$DEPS_DIR/%s/php/etc\n" [s.stager.depsIdx] =
      "export PHPRC=$DEPS_DIR/" ++ s.stager.depsIdx ++ "/php/etc\n" :=
    String.ext (by simp only [String.data_append, List.append_assoc]; rfl)
  have hini : sprintf "export PHP_INI_SCAN_DIR=$DEPS_DIR/%s/php/etc/php.ini.d\n"
      [s.stager.depsIdx] =
      "export PHP_INI_SCAN_DIR=$DEPS_DIR/" ++ s.stager.depsIdx ++ "/php/etc/php.ini.d\n" :=
    String.ext (by simp only [String.data_append, List.append_assoc]; rfl)
  have hvarify : sprintf "varify \"$DEPS_DIR/%s/php/etc/\" \"$DEPS_DIR/%s/httpd/conf/\""
      [s.stager.depsIdx, s.stager.depsIdx] =
      "varify \"$DEPS_DIR/" ++ s.stager.depsIdx ++ "/php/etc/\" \"$DEPS_DIR/" ++
        s.stager.depsIdx ++ "/httpd/conf/\"" :=
    String.ext (by simp only [String.data_append, List.append_assoc]; rfl)
  unfold writeProfileD
  cases fileExists (s.stager.depDir ++ ["php", "etc", "php.ini.d"]) with
  | error e => rfl
  | ok found =>
    show stagerWriteProfileD _ _ = stagerWriteProfileD _ _
    rw [hrc, hini, hvarify]
    cases found <;> simp only [profileScript, String.append_assoc, if_true, if_false,
      Bool.false_eq_true, String.append_empty] <;> rfl

end PhpBuildpack.Supply
