import PhpBuildpack.Supply.Scripts
import PhpBuildpack.Go.Map

/-! `finalize.Finalizer`: the start script written again at the same path, now running
`varify` before the servers, and the release's process types naming that script. The start
script of `supply` is this one without its `varify` line, followed by the `EXTRA` list
`fmt.Sprintf` prints for the two arguments its format has no verb for. -/
namespace PhpBuildpack.Finalize
open Go

/-- The directories `finalize.Stager` reports. -/
structure Stager where
  buildDir : FilePath
  depDir : FilePath
  depsIdx : String

/-- The format of `Finalizer.WriteStartFile`. -/
def startFormat : String :=
  "#!/usr/bin/env bash\n" ++
  "varify \"$DEPS_DIR/%s/php/etc/\" \"$DEPS_DIR/%s/httpd/conf/\"\n" ++
  "# TODO real process management\n" ++
  "$DEPS_DIR/%s/php/sbin/php-fpm -p \"$DEPS_DIR/%s/php/etc\" -y \"$DEPS_DIR/%s/php/etc/php-fpm.conf\" -c \"$DEPS_DIR/%s/php/etc\" &\n" ++
  "$DEPS_DIR/%s/httpd/bin/apachectl -f \"$DEPS_DIR/%s/httpd/conf/httpd.conf\" -k start -DFOREGROUND\n"

/-- The start script for the dependency index `depsIdx`: the source passes it eight times. -/
def startScript (depsIdx : String) : String := sprintf startFormat (List.replicate 8 depsIdx)

/-- `Finalizer.WriteStartFile`. -/
def writeStartFile (st : Stager) : GoCall Unit :=
  writeFile (st.depDir ++ ["bin", "php_buildpack_start"]) (startScript st.depsIdx)

/-- `Finalizer.GenerateReleaseYaml`, which never returns an error. -/
def generateReleaseYaml (st : Stager) : GoMap String (GoMap String String) :=
  GoMap.ofList [("default_process_types",
    GoMap.ofList [("web", sprintf "$DEPS_DIR/%s/bin/php_buildpack_start" [st.depsIdx])])]

/-- `Finalizer.Run`, with `libbuildpack.NewYAML().Write` as given. -/
def run (writeYaml : FilePath → GoMap String (GoMap String String) → GoCall Unit)
    (st : Stager) : GoCall Unit := do
  writeStartFile st
  let data := generateReleaseYaml st
  writeYaml ["tmp", "php-buildpack-release-step.yml"] data

-- The first line of both start scripts.
def shebang : List Char := "#!/usr/bin/env bash\n".data

-- The `varify` line of finalize's format.
def varifyFormat : List Char :=
  "varify \"$DEPS_DIR/%s/php/etc/\" \"$DEPS_DIR/%s/httpd/conf/\"\n".data

set_option maxRecDepth 4000 in
theorem startFormats :
    Supply.startFormat.data = shebang ++ Supply.startFormat.data.drop 20 ∧
      startFormat.data = shebang ++ (varifyFormat ++ Supply.startFormat.data.drop 20) := by
  decide

set_option maxRecDepth 4000 in
/-- The start script `supply` writes is finalize's without its `varify` line, followed by
`%!(EXTRA string=I, string=I)`: its format has six verbs for the eight arguments it is
given. Finalize writes the same file later, so the deployed script is finalize's. -/
theorem startScript_extra (depsIdx : String) :
    ∃ tail : String,
      startScript depsIdx = "#!/usr/bin/env bash\n" ++ "varify \"$DEPS_DIR/" ++ depsIdx ++
        "/php/etc/\" \"$DEPS_DIR/" ++ depsIdx ++ "/httpd/conf/\"\n" ++ tail ∧
      Supply.startScript depsIdx = "#!/usr/bin/env bash\n" ++ tail ++ "%!(EXTRA string=" ++
        depsIdx ++ ", string=" ++ depsIdx ++ ")" := by
  obtain ⟨hs, hf⟩ := startFormats
  have hsheb : ∀ as, fill shebang as = (shebang, as) := fun _ => rfl
  have hv : fill varifyFormat (List.replicate 8 depsIdx) =
      (("varify \"$DEPS_DIR/" ++ depsIdx ++ "/php/etc/\" \"$DEPS_DIR/" ++ depsIdx ++
        "/httpd/conf/\"\n").data, List.replicate 6 depsIdx) := by
    simp only [String.data_append, List.append_assoc]
    rfl
  have h₆ : fill (Supply.startFormat.data.drop 20) (List.replicate 6 depsIdx) =
      ((fill (Supply.startFormat.data.drop 20) (List.replicate 6 depsIdx)).1, []) := rfl
  have h₈ : fill (Supply.startFormat.data.drop 20) (List.replicate 8 depsIdx) =
      ((fill (Supply.startFormat.data.drop 20) (List.replicate 6 depsIdx)).1,
        [depsIdx, depsIdx]) := by
    rw [show List.replicate 8 depsIdx = List.replicate 6 depsIdx ++ [depsIdx, depsIdx] from rfl,
      fill_append_args _ _ _ (by rw [List.length_replicate]; decide), h₆]
    rfl
  refine ⟨⟨(fill (Supply.startFormat.data.drop 20) (List.replicate 6 depsIdx)).1⟩, ?_, ?_⟩
  · rw [startScript, sprintf, hf, fill_append _ _ _ (by decide), hsheb,
      fill_append _ _ _ (by decide), hv, h₆]
    exact String.ext (by simp [shebang])
  · rw [Supply.startScript, sprintf, hs, fill_append _ _ _ (by decide), hsheb, h₈]
    exact String.ext (by simp [shebang, String.intercalate, String.intercalate.go])

theorem generateReleaseYaml_web (st : Stager) :
    ((generateReleaseYaml st).get "default_process_types").bind (·.get "web") =
      some ("$DEPS_DIR/" ++ st.depsIdx ++ "/bin/php_buildpack_start") := by
  simp only [generateReleaseYaml, GoMap.ofList, List.foldl_cons, List.foldl_nil,
    GoMap.get_set_self, Option.some_bind, Option.some.injEq]
  refine String.ext ?_
  simp only [String.data_append, List.append_assoc]
  rfl

/-- Whatever the start file held before, a completed `Finalizer.Run` leaves finalize's
script there when the YAML writer leaves that file alone, and the release's web process
runs it. -/
theorem run_start_file
    (writeYaml : FilePath → GoMap String (GoMap String String) → GoCall Unit) (st : Stager)
    (hyaml : ∀ data fs fs', writeYaml ["tmp", "php-buildpack-release-step.yml"] data fs =
      (.ok (), fs') → fs'.fileAt (st.depDir ++ ["bin", "php_buildpack_start"]) =
        fs.fileAt (st.depDir ++ ["bin", "php_buildpack_start"]))
    {fs fs' : Fs} (h : run writeYaml st fs = (.ok (), fs')) :
    fs'.fileAt (st.depDir ++ ["bin", "php_buildpack_start"]) = some (startScript st.depsIdx) ∧
    ((generateReleaseYaml st).get "default_process_types").bind (·.get "web") =
      some ("$DEPS_DIR/" ++ st.depsIdx ++ "/bin/php_buildpack_start") := by
  obtain ⟨_, fs₁, h₁, h₂⟩ := GoCall.bind_eq_ok.mp h
  refine ⟨(hyaml _ _ _ h₂).trans ?_, generateReleaseYaml_web st⟩
  simpa [Effect.single] using writeFile_overwrites h₁ (st.depDir ++ ["bin", "php_buildpack_start"])

section
variable {C : FilePath → Prop} {writeYaml : FilePath → GoMap String (GoMap String String) → GoCall Unit}

theorem run_writesWithin (hyaml : ∀ p data, WritesWithin (writeYaml p data) C) (st : Stager) :
    WritesWithin (run writeYaml st)
      fun q => C q ∨ q = st.depDir ++ ["bin", "php_buildpack_start"] := by
  unfold run
  exact ((writesWithin_writeFile _ _).mono fun _ => .inr).bind fun _ =>
    (hyaml _ _).mono fun _ => .inl

theorem run_fileAt_start (hyaml : ∀ p data, WritesWithin (writeYaml p data) C) {st : Stager}
    (hstart : ¬ C (st.depDir ++ ["bin", "php_buildpack_start"])) {fs fs' : Fs}
    (h : run writeYaml st fs = (.ok (), fs')) :
    fs'.fileAt (st.depDir ++ ["bin", "php_buildpack_start"]) = some (startScript st.depsIdx) := by
  obtain ⟨⟨⟩, fs₁, h₁, h₂⟩ := GoCall.bind_eq_ok.mp h
  rw [(hyaml _ _).frame h₂ hstart, writeFile_fileAt h₁]

end

def sampleStager : Stager := ⟨["app"], ["deps", "0"], "0"⟩

theorem run_start_file_sample :
    (∀ data fs fs', (fun _ _ => pure () : FilePath → GoMap String (GoMap String String) →
        GoCall Unit) ["tmp", "php-buildpack-release-step.yml"] data fs = (.ok (), fs') →
      fs'.fileAt (sampleStager.depDir ++ ["bin", "php_buildpack_start"]) =
        fs.fileAt (sampleStager.depDir ++ ["bin", "php_buildpack_start"])) ∧
    run (fun _ _ => pure ()) sampleStager (fun _ => none) =
      (.ok (), (run (fun _ _ => pure ()) sampleStager (fun _ => none)).2) ∧
    (run (fun _ _ => pure ()) sampleStager (fun _ => none)).2.fileAt
        (sampleStager.depDir ++ ["bin", "php_buildpack_start"]) =
      some (startScript sampleStager.depsIdx) ∧
    ((generateReleaseYaml sampleStager).get "default_process_types").bind (·.get "web") =
      some ("$DEPS_DIR/" ++ sampleStager.depsIdx ++ "/bin/php_buildpack_start") :=
  have hyaml : ∀ data fs fs', (fun _ _ => pure () : FilePath → GoMap String (GoMap String String) →
      GoCall Unit) ["tmp", "php-buildpack-release-step.yml"] data fs = (.ok (), fs') →
      fs'.fileAt (sampleStager.depDir ++ ["bin", "php_buildpack_start"]) =
        fs.fileAt (sampleStager.depDir ++ ["bin", "php_buildpack_start"]) :=
    fun _ _ _ h => by rw [(Prod.mk.inj h).2]
  have h₁ : (run (fun _ _ => pure ()) sampleStager (fun _ => none)).1 = .ok () := rfl
  have hrun : run (fun _ _ => pure ()) sampleStager (fun _ => none) =
      (.ok (), (run (fun _ _ => pure ()) sampleStager (fun _ => none)).2) := by
    rw [← h₁]
  ⟨hyaml, hrun, run_start_file _ sampleStager hyaml hrun⟩

end PhpBuildpack.Finalize
