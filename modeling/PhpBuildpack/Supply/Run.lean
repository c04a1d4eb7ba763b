import PhpBuildpack.Supply.ReadConfig
import PhpBuildpack.Supply.WriteConfig

/-! `Supplier.Run`: the configuration steps, the installers this model takes as given, the
rendering of the configuration trees and the composer steps, in the order of the source.
The first step that fails stops the run; the errors of the first five steps reach the caller
behind the step's label, those of the later steps as they were returned. -/
namespace PhpBuildpack.Supply
open Go GoCall

/-- `err.Error()`: an `*os.PathError` prints as `op path: reason`. -/
def errorText : GoError → String
  | .other text => text
  | .pathError op path reason => op ++ " " ++ pathString path ++ ": " ++ reason

/-- `fmt.Errorf(label + "%s", err)`: a new error, the label followed by the error's text. -/
def wrapError (label : String) (e : GoError) : GoError := .other (label ++ errorText e)

/-- A step whose returned error `Run` wraps with `label`; a panic passes through. -/
def labelled {α : Type} (label : String) (x : GoCall α) : GoCall α := fun fs =>
  match x fs with
  | (.error (.error e), fs') => (.error (.error (wrapError label e)), fs')
  | r => r

theorem labelled_of_ok {α : Type} {label : String} {x : GoCall α} {fs fs' : Fs} {a : α}
    (h : x fs = (.ok a, fs')) : labelled label x fs = (.ok a, fs') := by
  simp only [labelled, h]

theorem labelled_of_error {α : Type} {label : String} {x : GoCall α} {fs fs' : Fs}
    {e : GoError} (h : x fs = (.error (.error e), fs')) :
    labelled label x fs = (.error (.error (wrapError label e)), fs') := by
  simp only [labelled, h]

theorem labelled_eq_ok {α : Type} {label : String} {x : GoCall α} {fs fs' : Fs} {a : α}
    (h : labelled label x fs = (.ok a, fs')) : x fs = (.ok a, fs') := by
  rcases hx : x fs with ⟨(e | m) | b, fs''⟩ <;> simp_all [labelled]

theorem labelled_snd {α : Type} (label : String) (x : GoCall α) (fs : Fs) :
    (labelled label x fs).2 = (x fs).2 := by
  rcases hx : x fs with ⟨(e | m) | b, fs''⟩ <;> simp only [labelled, hx]

theorem labelled_writesWithin {α : Type} {label : String} {x : GoCall α} {W : FilePath → Prop}
    (h : WritesWithin x W) : WritesWithin (labelled label x) W := fun fs q hq => by
  rw [labelled_snd]
  exact h fs q hq

/-- The steps of `Run` this model takes as given, each a call on the supplier as the steps
before it left it. -/
structure Collaborators where
  installHTTPD : Supplier → GoCall Unit
  installPHP : Supplier → GoCall Unit
  installComposer : Supplier → GoCall Unit
  runComposer : Supplier → GoCall Unit
  installVarify : Supplier → GoCall Unit
  writeProfileD : Supplier → GoCall Unit
  writeStartFile : Supplier → GoCall Unit

-- The steps called on `s` change files only where `W` holds.
structure Collaborators.Confined (c : Collaborators) (s : Supplier) (W : FilePath → Prop) :
    Prop where
  installHTTPD : WritesWithin (c.installHTTPD s) W
  installPHP : WritesWithin (c.installPHP s) W
  installComposer : WritesWithin (c.installComposer s) W
  runComposer : WritesWithin (c.runComposer s) W
  installVarify : WritesWithin (c.installVarify s) W
  writeProfileD : WritesWithin (c.writeProfileD s) W
  writeStartFile : WritesWithin (c.writeStartFile s) W

/-- Everything `Run` consults besides the supplier and the file system. -/
structure RunInputs (Tmpl : Type) where
  config : ConfigSources
  manifest : Manifest
  findMatchingVersion : VersionMatcher
  requireOrder : RangeOrder (String × JsonVal)
  engine : TextTemplate Tmpl
  box : Box
  app : AppFiles
  orders : WriteOrders
  steps : Collaborators

variable {Tmpl : Type} (inp : RunInputs Tmpl)

/-- The first three steps of `Run`, which write nothing: `ReadConfig`, `SetupPhpVersion` and
`SetupExtensions`, an error wrapped with its step's label. `SetupExtensions` returns no
error; `none` is its panic. -/
def configure (s : Supplier) : Except Fault Supplier := do
  let s ← (readConfig inp.config s).mapError (.error ∘ wrapError "reading config: ")
  let s ← (setupPhpVersion inp.manifest inp.findMatchingVersion s).mapError
    (.error ∘ wrapError "Initialiizing: php version: ")
  match setupExtensions inp.requireOrder s with
  | some s => pure s
  | none => throw (.panic "slice bounds out of range")

/-- The steps of `Run` from `InstallHTTPD` on. -/
def installAndRender (s : Supplier) : GoCall Unit := do
  labelled "Installing HTTPD: " (inp.steps.installHTTPD s)
  labelled "Installing PHP: " (inp.steps.installPHP s)
  writeConfigFiles inp.engine inp.box inp.app inp.orders s
  if s.composerPath ≠ "" then
    inp.steps.installComposer s
    inp.steps.runComposer s
  inp.steps.installVarify s
  inp.steps.writeProfileD s
  inp.steps.writeStartFile s

/-- The steps of `Run` after `WriteConfigFiles`. -/
def finishRun (s : Supplier) : GoCall Unit := do
  if s.composerPath ≠ "" then
    inp.steps.installComposer s
    inp.steps.runComposer s
  inp.steps.installVarify s
  inp.steps.writeProfileD s
  inp.steps.writeStartFile s

theorem installAndRender_eq (s : Supplier) : installAndRender inp s = (do
    labelled "Installing HTTPD: " (inp.steps.installHTTPD s)
    labelled "Installing PHP: " (inp.steps.installPHP s)
    writeConfigFiles inp.engine inp.box inp.app inp.orders s
    finishRun inp s) :=
  rfl

/-- `Supplier.Run`. -/
def run (s : Supplier) : GoCall Unit := do
  let s ← ofFault (configure inp s)
  installAndRender inp s

section
variable {inp}

theorem configure_eq_ok {s s₃ : Supplier} :
    configure inp s = .ok s₃ ↔ ∃ s₁ s₂, readConfig inp.config s = .ok s₁ ∧
      setupPhpVersion inp.manifest inp.findMatchingVersion s₁ = .ok s₂ ∧
      setupExtensions inp.requireOrder s₂ = some s₃ := by
  unfold configure
  cases readConfig inp.config s with
  | error e => simp [Except.mapError, bind, Except.bind]
  | ok s₁ =>
    cases h₂ : setupPhpVersion inp.manifest inp.findMatchingVersion s₁ with
    | error e => simp [h₂, Except.mapError, bind, Except.bind]
    | ok s₂ =>
      cases h₃ : setupExtensions inp.requireOrder s₂ <;>
        simp [h₂, h₃, Except.mapError, bind, Except.bind, pure, Except.pure, throw, throwThe,
          MonadExceptOf.throw]

theorem configure_eq_error {s : Supplier} {f : Fault} :
    configure inp s = .error f ↔
      (∃ e, readConfig inp.config s = .error e ∧ f = .error (wrapError "reading config: " e)) ∨
      ∃ s₁ e, readConfig inp.config s = .ok s₁ ∧
        setupPhpVersion inp.manifest inp.findMatchingVersion s₁ = .error e ∧
        f = .error (wrapError "Initialiizing: php version: " e) := by
  unfold configure
  cases readConfig inp.config s with
  | error e => simp [Except.mapError, bind, Except.bind, eq_comm]
  | ok s₁ =>
    cases h₂ : setupPhpVersion inp.manifest inp.findMatchingVersion s₁ with
    | error e => simp [h₂, Except.mapError, bind, Except.bind, eq_comm]
    | ok s₂ =>
      obtain ⟨_, hs, -⟩ := setupExtensions_eq inp.requireOrder s₂
      simp [h₂, Except.mapError, bind, Except.bind, hs, pure, Except.pure]

theorem run_of_configure_error {s : Supplier} {f : Fault} (h : configure inp s = .error f)
    (fs : Fs) : run inp s fs = (.error f, fs) :=
  bind_of_error (by rw [h]; rfl)

theorem configure_with_steps (c : Collaborators) : configure { inp with steps := c } = configure inp :=
  rfl

theorem run_of_configure_ok {s s₃ : Supplier} (h : configure inp s = .ok s₃) (fs : Fs) :
    run inp s fs = installAndRender inp s₃ fs :=
  bind_of_ok (by rw [h]; rfl)

theorem installAndRender_eq_ok {s : Supplier} {fs fs' : Fs}
    (h : installAndRender inp s fs = (.ok (), fs')) :
    ∃ fs₁ fs₂ fs₃, inp.steps.installHTTPD s fs = (.ok (), fs₁) ∧
      inp.steps.installPHP s fs₁ = (.ok (), fs₂) ∧
      writeConfigFiles inp.engine inp.box inp.app inp.orders s fs₂ = (.ok (), fs₃) ∧
      finishRun inp s fs₃ = (.ok (), fs') := by
  rw [installAndRender_eq] at h
  obtain ⟨⟨⟩, fs₁, h₁, h⟩ := GoCall.bind_eq_ok.mp h
  obtain ⟨⟨⟩, fs₂, h₂, h⟩ := GoCall.bind_eq_ok.mp h
  obtain ⟨⟨⟩, fs₃, h₃, h⟩ := GoCall.bind_eq_ok.mp h
  exact ⟨fs₁, fs₂, fs₃, labelled_eq_ok h₁, labelled_eq_ok h₂, h₃, h⟩

theorem configure_stager {s s₃ : Supplier} (h : configure inp s = .ok s₃) :
    s₃.stager = s.stager := by
  obtain ⟨s₁, s₂, h₁, h₂, h₃⟩ := configure_eq_ok.mp h
  obtain ⟨_, _, _, _, -, -, -, -, rfl⟩ := readConfig_eq_ok.mp h₁
  obtain ⟨php, he, -⟩ := setupExtensions_eq inp.requireOrder s₂
  obtain rfl := Option.some.inj (he.symm.trans h₃)
  exact (congrArg Supplier.stager (setupPhpVersion_ok_eq h₂)).trans rfl

theorem run_writesWithin {s : Supplier} {W : FilePath → Prop}
    (h : ∀ s₃, configure inp s = .ok s₃ → WritesWithin (installAndRender inp s₃) W) :
    WritesWithin (run inp s) W := fun fs q hq => by
  cases hc : configure inp s with
  | error f => rw [run_of_configure_error hc]
  | ok s₃ =>
    rw [run_of_configure_ok hc]
    exact h s₃ hc fs q hq

section
variable {s : Supplier} {W : FilePath → Prop}

theorem finishRun_writesWithin (hc : WritesWithin (inp.steps.installComposer s) W)
    (hr : WritesWithin (inp.steps.runComposer s) W)
    (hv : WritesWithin (inp.steps.installVarify s) W)
    (hp : WritesWithin (inp.steps.writeProfileD s) W)
    (hs : WritesWithin (inp.steps.writeStartFile s) W) : WritesWithin (finishRun inp s) W := by
  unfold finishRun
  dsimp only
  split
  · exact hc.bind fun _ => hr.bind fun _ => hv.bind fun _ => hp.bind fun _ => hs
  · exact (writesWithin_pure _).bind fun _ => hv.bind fun _ => hp.bind fun _ => hs

theorem installAndRender_writesWithin (h : inp.steps.Confined s W)
    (hout : ∀ q, InOutputDirs s.stager.depDir q → W q) :
    WritesWithin (installAndRender inp s) W := by
  rw [installAndRender_eq]
  exact (labelled_writesWithin h.installHTTPD).bind fun _ =>
    (labelled_writesWithin h.installPHP).bind fun _ =>
      ((writeConfigFiles_writesWithin _ _ _ _ s).mono hout).bind fun _ =>
        finishRun_writesWithin h.installComposer h.runComposer h.installVarify h.writeProfileD
          h.writeStartFile

end

end

def php74Manifest : Manifest := ⟨fun _ => ["7.4.0"], fun _ => .ok ⟨"php", "7.4.0"⟩⟩

def quietSteps : Collaborators :=
  ⟨fun _ => pure (), fun _ => pure (), fun _ => pure (), fun _ => pure (), fun _ => pure (),
    fun _ => pure (), fun _ => pure ()⟩

def noDocuments : ConfigSources :=
  ⟨fun _ _ => .error (.pathError "open" ["app", ".bp-config", "options.json"]
      "no such file or directory"),
    fun _ => .ok false, []⟩

def sampleRun (config : ConfigSources) : RunInputs String :=
  ⟨config, php74Manifest, fun _ _ => .error (.other "no match found"), .inOrder, tmpdirEngine,
    tmpdirBox, phpOverrides (.dir (.ok [])), inOrderWrites, quietSteps⟩

def noDocumentsConfigured : Supplier :=
  { Supplier.initial appStager with phpVersion := "7.4.0", phpExtensions := defaultPhpExtensions }

/-- A failure of `ReadConfig` or `SetupPhpVersion` stops `Run` before it writes anything, with
the step's error behind its label, and every failure of the configuration steps is one of
these: `SetupExtensions` never fails. -/
theorem run_config_error (s : Supplier) (fs : Fs) :
    (∀ e, readConfig inp.config s = .error e →
      run inp s fs = (.error (.error (wrapError "reading config: " e)), fs)) ∧
    (∀ s₁ e, readConfig inp.config s = .ok s₁ →
      setupPhpVersion inp.manifest inp.findMatchingVersion s₁ = .error e →
      run inp s fs = (.error (.error (wrapError "Initialiizing: php version: " e)), fs)) ∧
    ∀ f, configure inp s = .error f → run inp s fs = (.error f, fs) ∧
      ((∃ e, readConfig inp.config s = .error e ∧ f = .error (wrapError "reading config: " e)) ∨
        ∃ s₁ e, readConfig inp.config s = .ok s₁ ∧
          setupPhpVersion inp.manifest inp.findMatchingVersion s₁ = .error e ∧
          f = .error (wrapError "Initialiizing: php version: " e)) :=
  ⟨fun e he => run_of_configure_error (configure_eq_error.mpr (.inl ⟨e, he, rfl⟩)) fs,
    fun s₁ e h₁ h₂ => run_of_configure_error (configure_eq_error.mpr (.inr ⟨s₁, e, h₁, h₂, rfl⟩)) fs,
    fun _ h => ⟨run_of_configure_error h fs, configure_eq_error.mp h⟩⟩

theorem run_config_error_malformed :
    readConfig (sampleRun malformedOptions).config (Supplier.initial appStager) =
      .error (.other "invalid character looking for beginning of value") ∧
    run (sampleRun malformedOptions) (Supplier.initial appStager) (fun _ => none) =
      (.error (.error (wrapError "reading config: "
        (.other "invalid character looking for beginning of value"))), fun _ => none) :=
  have h : readConfig (sampleRun malformedOptions).config (Supplier.initial appStager) =
      .error (.other "invalid character looking for beginning of value") := rfl
  ⟨h, (run_config_error (sampleRun malformedOptions) (Supplier.initial appStager)
    (fun _ => none)).1 _ h⟩

/-- A run from a fresh supplier that returns nil configured the supplier from the documents
`ReadConfig` loaded, and ran every later step on it, `WriteConfigFiles` on the files
`InstallPHP` left: the PHP version is the manifest's nonempty match of the documents'
candidate, else its default; the PHP extensions are those the documents name; the Zend
extensions are options.json's; every other field is as `ReadConfig` left it. -/
theorem run_renders_configured (st : Stager) {fs fs' : Fs}
    (h : run inp (Supplier.initial st) fs = (.ok (), fs')) :
    ∃ s₁ s₃, readConfig inp.config (Supplier.initial st) = .ok s₁ ∧
      configure inp (Supplier.initial st) = .ok s₃ ∧
      Except.ok s₃.phpVersion =
        (match (versionCandidate s₁.optionsJson s₁.composerJson).bind
            (lookupMatch inp.findMatchingVersion (inp.manifest.allDependencyVersions "php")) with
          | some v => .ok v
          | none => (inp.manifest.defaultVersion "php").map (·.version)) ∧
      (∀ e, e ∈ s₃.phpExtensions ↔ PhpExtensionOf s₁.optionsJson s₁.composerJson e) ∧
      s₃ = { s₁ with
        phpVersion := s₃.phpVersion
        phpExtensions := s₃.phpExtensions
        zendExtensions := fromOptionsArray s₁.optionsJson "ZEND_EXTENSIONS" ∅ } ∧
      ∃ fs₁ fs₂ fs₃, inp.steps.installHTTPD s₃ fs = (.ok (), fs₁) ∧
        inp.steps.installPHP s₃ fs₁ = (.ok (), fs₂) ∧
        writeConfigFiles inp.engine inp.box inp.app inp.orders s₃ fs₂ = (.ok (), fs₃) ∧
        finishRun inp s₃ fs₃ = (.ok (), fs') := by
  cases hc : configure inp (Supplier.initial st) with
  | error f => cases (run_of_configure_error hc fs).symm.trans h
  | ok s₃ =>
    obtain ⟨s₁, s₂, h₁, h₂, h₃⟩ := configure_eq_ok.mp hc
    have hv₁ : { s₁ with phpVersion := "" } = s₁ := by
      obtain ⟨-, -, -, -, -, -, -, -, rfl⟩ := readConfig_eq_ok.mp h₁
      rfl
    have hv := setupPhpVersion_version inp.manifest inp.findMatchingVersion s₁
    rw [hv₁, h₂] at hv
    obtain ⟨v, rfl⟩ : ∃ v, s₂ = { s₁ with phpVersion := v } := ⟨_, setupPhpVersion_ok_eq h₂⟩
    obtain ⟨php, hs, hphp⟩ := setupExtensions_eq inp.requireOrder { s₁ with phpVersion := v }
    obtain rfl := Option.some.inj (hs.symm.trans h₃)
    exact ⟨s₁, _, h₁, rfl, hv, hphp, rfl,
      installAndRender_eq_ok ((run_of_configure_ok hc fs).symm.trans h)⟩

theorem run_renders_configured_sample :
    run (sampleRun noDocuments) (Supplier.initial appStager) (fun _ => none) =
      (.ok (), (run (sampleRun noDocuments) (Supplier.initial appStager) (fun _ => none)).2) ∧
    ∃ s₁ s₃, readConfig (sampleRun noDocuments).config (Supplier.initial appStager) = .ok s₁ ∧
      configure (sampleRun noDocuments) (Supplier.initial appStager) = .ok s₃ ∧
      Except.ok s₃.phpVersion =
        (match (versionCandidate s₁.optionsJson s₁.composerJson).bind
            (lookupMatch (sampleRun noDocuments).findMatchingVersion
              ((sampleRun noDocuments).manifest.allDependencyVersions "php")) with
          | some v => .ok v
          | none => ((sampleRun noDocuments).manifest.defaultVersion "php").map (·.version)) ∧
      (∀ e, e ∈ s₃.phpExtensions ↔ PhpExtensionOf s₁.optionsJson s₁.composerJson e) ∧
      s₃ = { s₁ with
        phpVersion := s₃.phpVersion
        phpExtensions := s₃.phpExtensions
        zendExtensions := fromOptionsArray s₁.optionsJson "ZEND_EXTENSIONS" ∅ } ∧
      ∃ fs₁ fs₂ fs₃, (sampleRun noDocuments).steps.installHTTPD s₃ (fun _ => none) = (.ok (), fs₁) ∧
        (sampleRun noDocuments).steps.installPHP s₃ fs₁ = (.ok (), fs₂) ∧
        writeConfigFiles (sampleRun noDocuments).engine (sampleRun noDocuments).box
          (sampleRun noDocuments).app (sampleRun noDocuments).orders s₃ fs₂ = (.ok (), fs₃) ∧
        finishRun (sampleRun noDocuments) s₃ fs₃ =
          (.ok (), (run (sampleRun noDocuments) (Supplier.initial appStager) (fun _ => none)).2) :=
  have hconf : configure (sampleRun noDocuments) (Supplier.initial appStager) =
      .ok noDocumentsConfigured := rfl
  have h₁ : (run (sampleRun noDocuments) (Supplier.initial appStager) (fun _ => none)).1 =
      .ok () := by
    rw [run_of_configure_ok hconf]
    rfl
  have hrun : run (sampleRun noDocuments) (Supplier.initial appStager) (fun _ => none) =
      (.ok (), (run (sampleRun noDocuments) (Supplier.initial appStager) (fun _ => none)).2) := by
    rw [← h₁]
  ⟨hrun, run_renders_configured (sampleRun noDocuments) appStager hrun⟩

/-- With neither options.json nor composer.json, a run from a fresh supplier configures the
manifest's default PHP version, the four default extensions, no Zend extension and no web
directory, and never runs composer. -/
theorem run_without_documents (st : Stager) (d : Dependency)
    (hopt : ∃ e, inp.config.load (optionsFile (Supplier.initial st)) ∅ = .error e ∧
      isNotExist e = true)
    (hfound : ∀ p, inp.config.fileExists p = .ok false)
    (hd : inp.manifest.defaultVersion "php" = .ok d) :
    configure inp (Supplier.initial st) = .ok { Supplier.initial st with
      phpVersion := d.version
      phpExtensions := defaultPhpExtensions } ∧
    ∀ installComposer runComposer : Supplier → GoCall Unit,
      run { inp with steps := { inp.steps with
        installComposer := installComposer
        runComposer := runComposer } } (Supplier.initial st) = run inp (Supplier.initial st) := by
  obtain ⟨e, he, hne⟩ := hopt
  have hrc : readConfig inp.config (Supplier.initial st) = .ok (Supplier.initial st) := by
    refine readConfig_eq_ok.mpr ⟨∅, "", "", ∅, loadIfExists_eq_ok.mpr (.inr ⟨e, he, hne, rfl⟩),
      composerPathAt_eq_ok.mpr ⟨false, hfound _, rfl⟩, ?_, rfl, rfl⟩
    unfold composerPathFromEnv
    split_ifs
    · exact composerPathAt_eq_ok.mpr ⟨false, hfound _, rfl⟩
    · rfl
  have hv : setupPhpVersion inp.manifest inp.findMatchingVersion (Supplier.initial st) =
      .ok { Supplier.initial st with phpVersion := d.version } := by
    simp [setupPhpVersion, matchInManifest, fromComposer, fromOptions, composerPhp,
      composerRequire, Supplier.initial, hd, Except.map]
  have hconf : configure inp (Supplier.initial st) = .ok { Supplier.initial st with
      phpVersion := d.version
      phpExtensions := defaultPhpExtensions } :=
    configure_eq_ok.mpr ⟨_, _, hrc, hv, rfl⟩
  refine ⟨hconf, fun ic rc => funext fun fs => ?_⟩
  rw [run_of_configure_ok ((congrFun (configure_with_steps _) _).trans hconf),
    run_of_configure_ok hconf]
  rfl

theorem run_without_documents_sample :
    (∃ e, (sampleRun noDocuments).config.load (optionsFile (Supplier.initial appStager)) ∅ =
      .error e ∧ isNotExist e = true) ∧
    (∀ p, (sampleRun noDocuments).config.fileExists p = .ok false) ∧
    (sampleRun noDocuments).manifest.defaultVersion "php" = .ok ⟨"php", "7.4.0"⟩ ∧
    configure (sampleRun noDocuments) (Supplier.initial appStager) = .ok { Supplier.initial appStager with
      phpVersion := "7.4.0"
      phpExtensions := defaultPhpExtensions } ∧
    ∀ installComposer runComposer : Supplier → GoCall Unit,
      run { sampleRun noDocuments with steps := { (sampleRun noDocuments).steps with
        installComposer := installComposer
        runComposer := runComposer } } (Supplier.initial appStager) =
        run (sampleRun noDocuments) (Supplier.initial appStager) :=
  have hopt : ∃ e, (sampleRun noDocuments).config.load
      (optionsFile (Supplier.initial appStager)) ∅ = .error e ∧ isNotExist e = true :=
    ⟨_, rfl, rfl⟩
  have hfound : ∀ p, (sampleRun noDocuments).config.fileExists p = .ok false := fun _ => rfl
  ⟨hopt, hfound, rfl,
    run_without_documents (sampleRun noDocuments) appStager ⟨"php", "7.4.0"⟩ hopt hfound rfl⟩

def httpdMissing : RunInputs String :=
  { sampleRun noDocuments with steps := { quietSteps with
      installHTTPD := fun _ => GoCall.fail (.error (.other "dependency httpd not found")) } }

def phpMissing : RunInputs String :=
  { sampleRun noDocuments with steps := { quietSteps with
      installPHP := fun _ => GoCall.fail (.error (.other "dependency php not found")) } }

def boxMissing : RunInputs String :=
  { sampleRun noDocuments with box := ⟨fun p => .error (.pathError "open" p "file does not exist"),
      fun _ => .ok ""⟩ }

end PhpBuildpack.Supply
