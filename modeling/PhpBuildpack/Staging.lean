import PhpBuildpack.Supply.Run
import PhpBuildpack.Supply.Install
import PhpBuildpack.Supply.Scripts
import PhpBuildpack.Finalize.Finalizer

/-! One staging as the platform runs it: `supply`'s `Run`, each step as this model translates
it, then `finalize`'s `Run` on the files it left, for the same stager. The package installers,
the links, composer, the copy of `varify`, `Stager.WriteProfileD` and the YAML writer are not
this repository's code: they enter through where they write, and the results say what the
buildpack's own code writes around them. -/
namespace PhpBuildpack
open Go Supply

/-- The steps of `Supplier.Run` as this model translates them, for a supplier whose
`ComposerGithubToken` is `composerGithubToken`. -/
def Supply.Installer.steps (ins : Installer) (manifest : Manifest) (composerGithubToken : String)
    (stagerWriteProfileD : String → String → GoCall Unit) : Collaborators :=
  ⟨installHTTPD ins, installPHP ins, installComposer ins manifest,
    runComposer ins composerGithubToken, installVarify ins,
    writeProfileD ins.fileExists stagerWriteProfileD, writeStartFile⟩

/-- One staging: `supply`'s `Run` on a fresh supplier, then `finalize`'s `Run`, for the same
stager. -/
def staging {Tmpl : Type} (inp : RunInputs Tmpl) (ins : Installer) (composerGithubToken : String)
    (stagerWriteProfileD : String → String → GoCall Unit)
    (writeYaml : FilePath → GoMap String (GoMap String String) → GoCall Unit) (st : Stager) :
    GoCall Unit := do
  Supply.run { inp with steps := ins.steps inp.manifest composerGithubToken stagerWriteProfileD }
    (Supplier.initial st)
  Finalize.run writeYaml ⟨st.buildDir, st.depDir, st.depsIdx⟩

-- The files the buildpack's own code writes.
def BuildpackFiles (depDir q : FilePath) : Prop :=
  q = depDir ++ ["httpd", "bin", "apachectl"] ∨ InOutputDirs depDir q ∨
    q = depDir ++ ["bin", "php_buildpack_start"]

theorem apachectl_ne_start (depDir : FilePath) :
    depDir ++ ["httpd", "bin", "apachectl"] ≠ depDir ++ ["bin", "php_buildpack_start"] := by
  simp

section
variable {Tmpl : Type} (inp : RunInputs Tmpl) {ins : Installer} (composerGithubToken : String)
  {stagerWriteProfileD : String → String → GoCall Unit} {E L : FilePath → Prop}

theorem steps_confined (hiov : ∀ n p, WritesWithin (ins.installOnlyVersion n p) E)
    (hins : ins.Confined E L)
    (hw : ∀ name script, WritesWithin (stagerWriteProfileD name script) L) (s : Supplier) :
    (ins.steps inp.manifest composerGithubToken stagerWriteProfileD).Confined s
      fun q => E q ∨ L q ∨ BuildpackFiles s.stager.depDir q :=
  ⟨(installHTTPD_writesWithin hiov hins s).mono fun _ => Or.imp_right fun h => .inr (.inl h),
    (installPHP_writesWithin hins s).mono fun _ => .inl,
    (installComposer_writesWithin hins _ s).mono fun _ h => .inr (.inl h),
    (runComposer_writesWithin hins _ s).mono fun _ h => .inr (.inl h),
    (installVarify_writesWithin hins s).mono fun _ h => .inr (.inl h),
    (writeProfileD_writesWithin _ hw s).mono fun _ h => .inr (.inl h),
    (writesWithin_writeFile _ _).mono fun _ h => .inr (.inr (.inr (.inr h)))⟩

/-- Whatever the documents, the manifest and the templates, and however it ends, `supply`'s
`Run` changes no file beyond what its collaborators write and the buildpack's own files:
`apachectl`, the files of the two output trees and the start script. A run that fails keeps
what the steps before the failure wrote, and no more. -/
theorem run_changes_only (hiov : ∀ n p, WritesWithin (ins.installOnlyVersion n p) E)
    (hins : ins.Confined E L)
    (hw : ∀ name script, WritesWithin (stagerWriteProfileD name script) L) (s : Supplier) :
    WritesWithin
      (Supply.run { inp with steps := ins.steps inp.manifest composerGithubToken stagerWriteProfileD } s)
      fun q => E q ∨ L q ∨ BuildpackFiles s.stager.depDir q :=
  run_writesWithin fun s₃ hc => by
    rw [← configure_stager hc]
    exact installAndRender_writesWithin (steps_confined inp composerGithubToken hiov hins hw s₃)
      fun _ h => .inr (.inr (.inr (.inl h)))

end

theorem run_changes_only_sample :
    (∀ n p, WritesWithin (sampleInstaller.installOnlyVersion n p)
      fun q => ∃ dir, q = dir ++ ["httpd", "bin", "apachectl"]) ∧
    sampleInstaller.Confined (fun q => ∃ dir, q = dir ++ ["httpd", "bin", "apachectl"])
      (fun _ => False) ∧
    (∀ _ _ : String, WritesWithin (pure () : GoCall Unit) fun _ => False) ∧
    WritesWithin (Supply.run { sampleRun noDocuments with
        steps := sampleInstaller.steps (sampleRun noDocuments).manifest "" fun _ _ => pure () }
        depsZero)
      fun q => (∃ dir, q = dir ++ ["httpd", "bin", "apachectl"]) ∨ False ∨
        BuildpackFiles depsZero.stager.depDir q :=
  have hiov : ∀ n p, WritesWithin (sampleInstaller.installOnlyVersion n p)
      fun q => ∃ dir, q = dir ++ ["httpd", "bin", "apachectl"] :=
    fun _ dir fs _ hq => Fs.fileAt_set_ne fs _ fun e => hq ⟨dir, e⟩
  have hins : sampleInstaller.Confined (fun q => ∃ dir, q = dir ++ ["httpd", "bin", "apachectl"])
      (fun _ => False) :=
    ⟨fun _ _ => writesWithin_pure _, fun _ _ => writesWithin_pure _,
      fun _ _ => writesWithin_pure _, fun _ => writesWithin_pure _, fun _ _ => writesWithin_pure _⟩
  have hw : ∀ _ _ : String, WritesWithin (pure () : GoCall Unit) fun _ => False :=
    fun _ _ => writesWithin_pure _
  ⟨hiov, hins, hw, run_changes_only (sampleRun noDocuments) "" hiov hins hw depsZero⟩

section
variable {Tmpl : Type} (inp : RunInputs Tmpl) {ins : Installer} (composerGithubToken : String)
  {stagerWriteProfileD : String → String → GoCall Unit} {E L : FilePath → Prop}

theorem finishRun_steps_writesWithin (hins : ins.Confined E L)
    (hw : ∀ name script, WritesWithin (stagerWriteProfileD name script) L) (s : Supplier) :
    WritesWithin
      (finishRun { inp with steps := ins.steps inp.manifest composerGithubToken stagerWriteProfileD } s)
      fun q => L q ∨ q = s.stager.depDir ++ ["bin", "php_buildpack_start"] :=
  finishRun_writesWithin ((installComposer_writesWithin hins _ s).mono fun _ => .inl)
    ((runComposer_writesWithin hins _ s).mono fun _ => .inl)
    ((installVarify_writesWithin hins s).mono fun _ => .inl)
    ((writeProfileD_writesWithin _ hw s).mono fun _ => .inl)
    ((writesWithin_writeFile _ _).mono fun _ => .inr)

theorem staging_eq_ok {writeYaml : FilePath → GoMap String (GoMap String String) → GoCall Unit}
    {st : Stager} {fs fs' : Fs}
    (h : staging inp ins composerGithubToken stagerWriteProfileD writeYaml st fs = (.ok (), fs')) :
    ∃ s₃ fs₁ fs₂ fs₃ fs₄, configure inp (Supplier.initial st) = .ok s₃ ∧ s₃.stager = st ∧
      installHTTPD ins s₃ fs = (.ok (), fs₁) ∧ installPHP ins s₃ fs₁ = (.ok (), fs₂) ∧
      writeConfigFiles inp.engine inp.box inp.app inp.orders s₃ fs₂ = (.ok (), fs₃) ∧
      finishRun { inp with steps := ins.steps inp.manifest composerGithubToken stagerWriteProfileD }
        s₃ fs₃ = (.ok (), fs₄) ∧
      Finalize.run writeYaml ⟨st.buildDir, st.depDir, st.depsIdx⟩ fs₄ = (.ok (), fs') := by
  obtain ⟨⟨⟩, fs₄, hsup, hfin⟩ := GoCall.bind_eq_ok.mp h
  cases hc : configure inp (Supplier.initial st) with
  | error f =>
    cases (run_of_configure_error ((congrFun (configure_with_steps _) _).trans hc) fs).symm.trans
      hsup
  | ok s₃ =>
    obtain ⟨fs₁, fs₂, fs₃, h₁, h₂, h₃, h₄⟩ := installAndRender_eq_ok
      ((run_of_configure_ok ((congrFun (configure_with_steps _) _).trans hc) fs).symm.trans hsup)
    exact ⟨s₃, fs₁, fs₂, fs₃, fs₄, rfl, configure_stager hc, h₁, h₂, h₃, h₄, hfin⟩

end

end PhpBuildpack
