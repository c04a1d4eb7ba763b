import PhpBuildpack.Supply.Supplier
import PhpBuildpack.Go.Fmt
import PhpBuildpack.Go.Replace

/-! The installer steps of `Supplier.Run` around the collaborators that fetch, unpack and
link the packages. `InstallHTTPD` rewrites the paths the httpd package's `apachectl` was
built with; `RunComposer` builds the composer environment and passes the GitHub token to
composer only when the rate-limit check accepts it. -/
namespace PhpBuildpack.Supply
open Go GoCall

/-- An `exec.Cmd` as `Command.Run` receives it; its output writers are left out. -/
structure Cmd where
  name : String
  args : List String
  env : List String
  dir : FilePath
  deriving DecidableEq

/-- What the installer steps call: the methods of `libbuildpack.Manifest`, `Stager` and
`Command`, `libbuildpack.FileExists` and `CopyFile`, the manifest's `RootDir`, `os.Environ()`,
and the GET of the GitHub rate limit with a given `Authorization` header, its body decoded as
a JSON object. -/
structure Installer where
  installOnlyVersion : String → FilePath → GoCall Unit
  installDependency : Dependency → FilePath → GoCall Unit
  fetchDependency : Dependency → FilePath → GoCall Unit
  linkDirectoryInDepDir : FilePath → String → GoCall Unit
  commandRun : Cmd → GoCall Unit
  fileExists : FilePath → Except GoError Bool
  copyFile : FilePath → FilePath → GoCall Unit
  rootDir : FilePath
  environ : List String
  rateLimit : String → Except GoError (GoMap String JsonVal)

variable (ins : Installer)

/-- The two `bytes.Replace` calls of `InstallHTTPD` on the text of `apachectl`. -/
def rewriteApachectl (depsIdx txt : String) : String :=
  let txt := replace txt "HTTPD=\x27/app/httpd/bin/httpd\x27" "HTTPD=\"/app/httpd/bin/httpd\""
  replace txt "/app/httpd/" (sprintf "$DEPS_DIR/%s/httpd/" [depsIdx])

/-- `Supplier.InstallHTTPD`. -/
def installHTTPD (s : Supplier) : GoCall Unit := do
  ins.installOnlyVersion "httpd" s.stager.depDir
  ["bin", "lib"].forM fun dir =>
    ins.linkDirectoryInDepDir (s.stager.depDir ++ ["httpd", dir]) dir
  let txt ← readFile (s.stager.depDir ++ ["httpd", "bin", "apachectl"])
  writeFile (s.stager.depDir ++ ["httpd", "bin", "apachectl"])
    (rewriteApachectl s.stager.depsIdx txt)

/-- `Supplier.InstallPHP`: the version `SetupPhpVersion` resolved. -/
def installPHP (s : Supplier) : GoCall Unit := do
  ins.installDependency ⟨"php", s.phpVersion⟩ s.stager.depDir
  ["bin", "lib"].forM fun dir =>
    ins.linkDirectoryInDepDir (s.stager.depDir ++ ["php", dir]) dir

/-- `Supplier.InstallComposer`: the manifest must list exactly one composer. -/
def installComposer (manifest : Manifest) (s : Supplier) : GoCall Unit :=
  let depVersions := manifest.allDependencyVersions "composer"
  if depVersions.length ≠ 1 then
    fail (.error (.other
      ("expected 1 version of composer, found " ++ toString depVersions.length)))
  else
    ins.fetchDependency ⟨"composer", depVersions[0]!⟩ (s.stager.depDir ++ ["bin", "composer"])

/-- `Supplier.InstallVarify`: a `varify` a build already put in place is kept. -/
def installVarify (s : Supplier) : GoCall Unit := do
  let found ← ofExcept (ins.fileExists (s.stager.depDir ++ ["bin", "varify"]))
  if found then pure ()
  else ins.copyFile (ins.rootDir ++ ["bin", "varify"]) (s.stager.depDir ++ ["bin", "varify"])

/-- `Supplier.isComposerTokenValid`: an error of the request or of the decoding counts as an
invalid token. -/
def isComposerTokenValid (token : String) : Bool :=
  match ins.rateLimit ("token " ++ token) with
  | .ok hash => (hash.get "resources").isSome
  | .error _ => false

/-- The environment of `RunComposer`'s commands. -/
def composerEnv (s : Supplier) : List String :=
  let env := ins.environ ++ ["COMPOSER_NO_INTERACTION=1",
    sprintf "COMPOSER_CACHE_DIR=%s/composer" [pathString s.stager.cacheDir],
    sprintf "COMPOSER_VENDOR_DIR=%s/vendor" [pathString s.stager.buildDir],
    sprintf "COMPOSER_BIN_DIR=%s/php/bin" [pathString s.stager.depDir],
    "PHPRC=/tmp/php_etc/php/etc", "TMPDIR=/tmp"]
  if s.composerPath ≠ "" then env ++ ["COMPOSER=" ++ s.composerPath] else env

/-- `Supplier.RunComposer`, with the supplier's `ComposerGithubToken` as
`composerGithubToken`. -/
def runComposer (composerGithubToken : String) (s : Supplier) : GoCall Unit := do
  let env := composerEnv ins s
  if composerGithubToken ≠ "" then
    if isComposerTokenValid ins composerGithubToken then
      ins.commandRun ⟨"php", [pathString (s.stager.depDir ++ ["bin", "composer"]), "config",
        "-g", "github-oauth.github.com", composerGithubToken], env, s.stager.buildDir⟩
  ins.commandRun ⟨"php", [pathString (s.stager.depDir ++ ["bin", "composer"]), "install",
    "--no-progress", "--no-dev"], env, s.stager.buildDir⟩

-- What the `apachectl` rewrite is for, as one left-to-right pass.
def apachectlRules (depsIdx : String) : List Rule :=
  [⟨"HTTPD=\x27/app/httpd/bin/httpd\x27".data,
      ("HTTPD=\"$DEPS_DIR/" ++ depsIdx ++ "/httpd/bin/httpd\"").data, by decide⟩,
    ⟨"/app/httpd/".data, ("$DEPS_DIR/" ++ depsIdx ++ "/httpd/").data, by decide⟩]

theorem sprintf_httpdDir (depsIdx : String) :
    sprintf "$DEPS_DIR/%s/httpd/" [depsIdx] = "$DEPS_DIR/" ++ depsIdx ++ "/httpd/" := by
  refine String.ext ?_
  simp only [String.data_append, List.append_assoc]
  rfl

theorem apachectl_nested :
    OnlyWhole "HTTPD=\"/app/httpd/bin/httpd\"".data "/app/httpd/".data ∧
      NoStartIn 1 "/app/httpd/".data "HTTPD=\"/app/httpd/bin/httpd\"".data ∧
      NoStartIn 1 "/app/httpd/".data "HTTPD=\x27/app/httpd/bin/httpd\x27".data := by
  decide

theorem substAll_httpd_assignment (r : List Char) (hr : "/app/httpd/".data ≠ []) :
    substAll [⟨"/app/httpd/".data, r, hr⟩] "HTTPD=\"/app/httpd/bin/httpd\"".data =
      "HTTPD=\"".data ++ r ++ "bin/httpd\"".data := by
  have hsplit : "HTTPD=\"/app/httpd/bin/httpd\"".data =
      "HTTPD=\"".data ++ ("/app/httpd/".data ++ "bin/httpd\"".data) := rfl
  have htail : substAll [⟨"/app/httpd/".data, r, hr⟩] "bin/httpd\"".data = "bin/httpd\"".data :=
    substAll_of_not_infix (by simp only [List.mem_singleton, forall_eq]; decide)
  rw [hsplit, substAll_append_of_noStart (by simp only [List.mem_singleton, forall_eq]; decide),
    @substAll_fire [⟨"/app/httpd/".data, r, hr⟩] _ ⟨"/app/httpd/".data, r, hr⟩
      (by simp [List.prefix_append]), List.drop_left' rfl, htail, List.append_assoc]

theorem rewriteApachectl_data (depsIdx txt : String) :
    (rewriteApachectl depsIdx txt).data = substAll (apachectlRules depsIdx) txt.data := by
  simp only [rewriteApachectl]
  rw [replace_data _ "/app/httpd/" _ (by decide),
    replace_data _ "HTTPD=\x27/app/httpd/bin/httpd\x27" _ (by decide), sprintf_httpdDir,
    substAll_single_substAll_nested fun x hx => by
      obtain rfl := List.mem_singleton.mp hx
      exact apachectl_nested]
  rw [List.map_singleton, List.singleton_append]
  dsimp only [Rule.andThen]
  rw [substAll_httpd_assignment]
  simp only [apachectlRules, String.data_append, List.append_assoc]
  rfl

theorem installComposer_eq (manifest : Manifest) (s : Supplier) (fs : Fs) :
    installComposer ins manifest s fs = match manifest.allDependencyVersions "composer" with
      | [v] => ins.fetchDependency ⟨"composer", v⟩ (s.stager.depDir ++ ["bin", "composer"]) fs
      | vs => (.error (.error (.other
          ("expected 1 version of composer, found " ++ toString vs.length))), fs) := by
  unfold installComposer
  rcases manifest.allDependencyVersions "composer" with _ | ⟨v, _ | ⟨w, vs⟩⟩ <;> rfl

theorem installHTTPD_eq_ok {s : Supplier} {fs fs' : Fs}
    (h : installHTTPD ins s fs = (.ok (), fs')) :
    ∃ fs₀ fs₁ txt, ins.installOnlyVersion "httpd" s.stager.depDir fs = (.ok (), fs₀) ∧
      (["bin", "lib"].forM fun dir =>
        ins.linkDirectoryInDepDir (s.stager.depDir ++ ["httpd", dir]) dir) fs₀ = (.ok (), fs₁) ∧
      fs₁.fileAt (s.stager.depDir ++ ["httpd", "bin", "apachectl"]) = some txt ∧
      Overwrites fs₁ fs' (Effect.single (s.stager.depDir ++ ["httpd", "bin", "apachectl"])
        (rewriteApachectl s.stager.depsIdx txt)) := by
  obtain ⟨⟨⟩, fs₀, h₀, h⟩ := GoCall.bind_eq_ok.mp h
  obtain ⟨⟨⟩, fs₁, h₁, h⟩ := GoCall.bind_eq_ok.mp h
  obtain ⟨txt, fs₂, hr, hw⟩ := GoCall.bind_eq_ok.mp h
  obtain ⟨htxt, hfs⟩ := readFile_eq_ok hr
  exact ⟨fs₀, fs₁, txt, h₀, h₁, htxt, hfs ▸ writeFile_overwrites hw⟩

/-- A completed `InstallHTTPD` leaves in `apachectl` the text the httpd package put there,
rewritten in the one left-to-right pass of `apachectlRules`, and every other file as the
installer and the links left it. -/
theorem installHTTPD_rewrites (s : Supplier) {fs fs' : Fs}
    (h : installHTTPD ins s fs = (.ok (), fs')) :
    ∃ fs₀ fs₁ txt, ins.installOnlyVersion "httpd" s.stager.depDir fs = (.ok (), fs₀) ∧
      (["bin", "lib"].forM fun dir =>
        ins.linkDirectoryInDepDir (s.stager.depDir ++ ["httpd", dir]) dir) fs₀ = (.ok (), fs₁) ∧
      fs₁.fileAt (s.stager.depDir ++ ["httpd", "bin", "apachectl"]) = some txt ∧
      Overwrites fs₁ fs' (Effect.single (s.stager.depDir ++ ["httpd", "bin", "apachectl"])
        (rewriteApachectl s.stager.depsIdx txt)) ∧
      (rewriteApachectl s.stager.depsIdx txt).data =
        substAll (apachectlRules s.stager.depsIdx) txt.data := by
  obtain ⟨fs₀, fs₁, txt, h₀, h₁, htxt, hw⟩ := installHTTPD_eq_ok ins h
  exact ⟨fs₀, fs₁, txt, h₀, h₁, htxt, hw, rewriteApachectl_data _ _⟩

def sampleInstaller : Installer where
  installOnlyVersion _ dir fs := (.ok (), fs.set (dir ++ ["httpd", "bin", "apachectl"])
    (some (.file ("HTTPD=\x27/app/httpd/bin/httpd\x27\n" ++
      "ENVVARS=\"/app/httpd/bin/envvars\"\n"))))
  installDependency _ _ := pure ()
  fetchDependency _ _ := pure ()
  linkDirectoryInDepDir _ _ := pure ()
  commandRun _ := pure ()
  fileExists _ := .ok false
  copyFile _ _ := pure ()
  rootDir := ["buildpack"]
  environ := []
  rateLimit _ := .error (.other "dial tcp: connection refused")

def depsZero : Supplier := Supplier.initial ⟨["app"], ["cache"], ["deps", "0"], ["deps"], "0"⟩

theorem installHTTPD_rewrites_sample :
    installHTTPD sampleInstaller depsZero (fun _ => none) =
      (.ok (), (installHTTPD sampleInstaller depsZero (fun _ => none)).2) ∧
    ∃ fs₀ fs₁ txt,
      sampleInstaller.installOnlyVersion "httpd" depsZero.stager.depDir (fun _ => none) =
        (.ok (), fs₀) ∧
      (["bin", "lib"].forM fun dir => sampleInstaller.linkDirectoryInDepDir
        (depsZero.stager.depDir ++ ["httpd", dir]) dir) fs₀ = (.ok (), fs₁) ∧
      fs₁.fileAt (depsZero.stager.depDir ++ ["httpd", "bin", "apachectl"]) = some txt ∧
      Overwrites fs₁ (installHTTPD sampleInstaller depsZero (fun _ => none)).2
        (Effect.single (depsZero.stager.depDir ++ ["httpd", "bin", "apachectl"])
          (rewriteApachectl depsZero.stager.depsIdx txt)) ∧
      (rewriteApachectl depsZero.stager.depsIdx txt).data =
        substAll (apachectlRules depsZero.stager.depsIdx) txt.data :=
  have h₁ : (installHTTPD sampleInstaller depsZero (fun _ => none)).1 = .ok () := rfl
  have hrun : installHTTPD sampleInstaller depsZero (fun _ => none) =
      (.ok (), (installHTTPD sampleInstaller depsZero (fun _ => none)).2) := by
    rw [← h₁]
  ⟨hrun, installHTTPD_rewrites sampleInstaller depsZero hrun⟩

-- Where the installer's collaborators write, whatever they are called with and however they end.
structure Installer.Confined (E L : FilePath → Prop) : Prop where
  installDependency : ∀ d p, WritesWithin (ins.installDependency d p) E
  linkDirectoryInDepDir : ∀ p n, WritesWithin (ins.linkDirectoryInDepDir p n) E
  fetchDependency : ∀ d p, WritesWithin (ins.fetchDependency d p) L
  commandRun : ∀ c, WritesWithin (ins.commandRun c) L
  copyFile : ∀ p q, WritesWithin (ins.copyFile p q) L

section
variable {ins} {E L : FilePath → Prop}

theorem installHTTPD_writesWithin (hiov : ∀ n p, WritesWithin (ins.installOnlyVersion n p) E)
    (hC : ins.Confined E L) (s : Supplier) :
    WritesWithin (installHTTPD ins s)
      fun q => E q ∨ q = s.stager.depDir ++ ["httpd", "bin", "apachectl"] := by
  unfold installHTTPD
  exact ((hiov _ _).mono fun _ => .inl).bind fun _ =>
    (writesWithin_forM fun _ _ => (hC.linkDirectoryInDepDir _ _).mono fun _ => .inl).bind
      fun _ => (writesWithin_readFile _).bind fun _ => (writesWithin_writeFile _ _).mono fun _ => .inr

theorem installPHP_writesWithin (hC : ins.Confined E L) (s : Supplier) :
    WritesWithin (installPHP ins s) E := by
  unfold installPHP
  exact (hC.installDependency _ _).bind fun _ =>
    writesWithin_forM fun _ _ => hC.linkDirectoryInDepDir _ _

theorem installComposer_writesWithin (hC : ins.Confined E L) (manifest : Manifest)
    (s : Supplier) : WritesWithin (installComposer ins manifest s) L := by
  unfold installComposer
  dsimp only
  split
  · exact writesWithin_fail _
  · exact hC.fetchDependency _ _

theorem installVarify_writesWithin (hC : ins.Confined E L) (s : Supplier) :
    WritesWithin (installVarify ins s) L := by
  unfold installVarify
  refine (writesWithin_ofExcept _).bind fun found => ?_
  cases found
  · exact hC.copyFile _ _
  · exact writesWithin_pure _

theorem runComposer_writesWithin (hC : ins.Confined E L) (token : String) (s : Supplier) :
    WritesWithin (runComposer ins token s) L := by
  unfold runComposer
  dsimp only
  split_ifs
  · exact (hC.commandRun _).bind fun _ => hC.commandRun _
  all_goals exact (writesWithin_pure _).bind fun _ => hC.commandRun _

end

end PhpBuildpack.Supply
