import PhpBuildpack.Supply.Supplier

/-! `Supplier.ReadConfig`: the two JSON documents of the application, options.json and
composer.json, where a document that is missing is no error, and the choice of
composer.json between the build directory and `COMPOSER_PATH`. -/
namespace PhpBuildpack.Supply
open Go

/-- What `ReadConfig` consults: the `JSON` collaborator, `libbuildpack.FileExists`, and the
variable `COMPOSER_PATH` as the path components `filepath.Join` makes of it (`[]` when it is
unset or empty). -/
structure ConfigSources where
  /-- `s.JSON.Load(file, &m)`: the map it leaves in `m`, or the error it returns. -/
  load : String → GoMap String JsonVal → Except GoError (GoMap String JsonVal)
  fileExists : FilePath → Except GoError Bool
  /-- `COMPOSER_PATH`, as the components `filepath.Join` appends to the build directory; a
  value holding `..`, which the join would clean against the build directory, is not
  expressed. -/
  composerPathEnv : FilePath

/-- `os.IsNotExist(err)`: a path error whose cause is `ENOENT`. -/
def isNotExist : GoError → Bool
  | .pathError _ _ reason => reason == "no such file or directory"
  | .other _ => false

variable (src : ConfigSources)

/-- `if err := s.JSON.Load(file, &m); err != nil { if !os.IsNotExist(err) { return err } }`:
a missing document leaves `m` as it was. -/
def loadIfExists (file : String) (m : GoMap String JsonVal) :
    Except GoError (GoMap String JsonVal) :=
  match src.load file m with
  | .ok m' => .ok m'
  | .error e => if isNotExist e then .ok m else .error e

/-- `if found, err := libbuildpack.FileExists(p); err != nil { return err } else if found
{ s.ComposerPath = p }`. -/
def composerPathAt (p : FilePath) (composerPath : String) : Except GoError String := do
  let found ← src.fileExists p
  pure (if found then pathString p else composerPath)

/-- The options.json of the application. -/
def optionsFile (s : Supplier) : String :=
  pathString (s.stager.buildDir ++ [".bp-config", "options.json"])

/-- The composer.json at `COMPOSER_PATH` under the build directory. -/
def envComposerFile (s : Supplier) : FilePath :=
  s.stager.buildDir ++ src.composerPathEnv ++ ["composer.json"]

/-- The `COMPOSER_PATH` block: when the variable is set, a composer.json there is chosen. -/
def composerPathFromEnv (s : Supplier) (composerPath : String) : Except GoError String :=
  if src.composerPathEnv ≠ [] then composerPathAt src (envComposerFile src s) composerPath
  else pure composerPath

/-- The composer.json block: the document at a nonempty `ComposerPath` is loaded. -/
def loadComposer (composerPath : String) (composerJson : GoMap String JsonVal) :
    Except GoError (GoMap String JsonVal) :=
  if composerPath ≠ "" then loadIfExists src composerPath composerJson else pure composerJson

/-- `Supplier.ReadConfig`. -/
def readConfig (s : Supplier) : Except GoError Supplier := do
  let optionsJson ← loadIfExists src (optionsFile s) s.optionsJson
  let webDir := ((optionsJson.get "WEBDIR").bind JsonVal.asString).getD ""
  let composerPath ← composerPathAt src (s.stager.buildDir ++ ["composer.json"]) s.composerPath
  let composerPath ← composerPathFromEnv src s composerPath
  let composerJson ← loadComposer src composerPath s.composerJson
  pure { s with
    optionsJson := optionsJson
    webDir := webDir
    composerPath := composerPath
    composerJson := composerJson }

section
variable {src}

theorem loadIfExists_eq_error {file : String} {m : GoMap String JsonVal} {e : GoError} :
    loadIfExists src file m = .error e ↔ src.load file m = .error e ∧ isNotExist e = false := by
  unfold loadIfExists
  cases src.load file m with
  | ok => simp
  | error e' =>
    by_cases h : isNotExist e' <;> simp only [h, if_true, if_false] <;>
      constructor <;> rintro ⟨⟩ <;> simp_all

theorem loadIfExists_eq_ok {file : String} {m m' : GoMap String JsonVal} :
    loadIfExists src file m = .ok m' ↔
      src.load file m = .ok m' ∨ ∃ e, src.load file m = .error e ∧ isNotExist e ∧ m' = m := by
  unfold loadIfExists
  cases src.load file m with
  | ok => simp
  | error e => by_cases h : isNotExist e <;> simp [h, @eq_comm _ m]

theorem composerPathAt_eq_error {p : FilePath} {c : String} {e : GoError} :
    composerPathAt src p c = .error e ↔ src.fileExists p = .error e := by
  unfold composerPathAt
  cases src.fileExists p <;> simp [bind, Except.bind, pure, Except.pure]

theorem composerPathAt_eq_ok {p : FilePath} {c c' : String} :
    composerPathAt src p c = .ok c' ↔
      ∃ b, src.fileExists p = .ok b ∧ c' = if b then pathString p else c := by
  unfold composerPathAt
  cases src.fileExists p <;> simp [bind, Except.bind, pure, Except.pure, eq_comm]

theorem readConfig_eq_ok {s s' : Supplier} :
    readConfig src s = .ok s' ↔
      ∃ O P₁ P C, loadIfExists src (optionsFile s) s.optionsJson = .ok O ∧
        composerPathAt src (s.stager.buildDir ++ ["composer.json"]) s.composerPath = .ok P₁ ∧
        composerPathFromEnv src s P₁ = .ok P ∧ loadComposer src P s.composerJson = .ok C ∧
        s' = { s with
          optionsJson := O
          webDir := ((O.get "WEBDIR").bind JsonVal.asString).getD ""
          composerPath := P
          composerJson := C } := by
  simp only [readConfig, Except.bind_eq_ok]
  constructor
  · rintro ⟨O, hO, P₁, h₁, P, hP, C, hC, he⟩
    exact ⟨O, P₁, P, C, hO, h₁, hP, hC, (Except.ok.inj he).symm⟩
  · rintro ⟨O, P₁, P, C, hO, h₁, hP, hC, rfl⟩
    exact ⟨O, hO, P₁, h₁, P, hP, C, hC, rfl⟩

theorem composerPathFromEnv_eq_error {s : Supplier} {c : String} {e : GoError}
    (h : composerPathFromEnv src s c = .error e) : src.fileExists (envComposerFile src s) = .error e := by
  unfold composerPathFromEnv at h
  split_ifs at h
  · exact composerPathAt_eq_error.mp h
  · cases h

theorem loadComposer_eq_error {c : String} {m : GoMap String JsonVal} {e : GoError}
    (h : loadComposer src c m = .error e) : src.load c m = .error e ∧ isNotExist e = false := by
  unfold loadComposer at h
  split_ifs at h
  · exact loadIfExists_eq_error.mp h
  · cases h

/-- A missing options.json or composer.json never makes `ReadConfig` fail: it fails only with
an error `Load` returned for a document that is there, or an error of `FileExists`. -/
theorem readConfig_error_source (s : Supplier) {e : GoError} (h : readConfig src s = .error e) :
    (∃ file m, src.load file m = .error e ∧ isNotExist e = false) ∨
      ∃ p, src.fileExists p = .error e := by
  simp only [readConfig, Except.bind_eq_error, Except.bind_eq_ok] at h
  rcases h with h | ⟨_, -, h | ⟨_, -, h | ⟨_, -, h | ⟨_, -, h⟩⟩⟩⟩
  · exact .inl ⟨_, _, loadIfExists_eq_error.mp h⟩
  · exact .inr ⟨_, composerPathAt_eq_error.mp h⟩
  · exact .inr ⟨_, composerPathFromEnv_eq_error h⟩
  · exact .inl ⟨_, _, loadComposer_eq_error h⟩
  · cases h

def malformedOptions : ConfigSources :=
  ⟨fun _ _ => .error (.other "invalid character looking for beginning of value"),
    fun _ => .ok false, []⟩

def appStager : Stager := ⟨["app"], ["cache"], ["deps", "0"], ["deps"], "0"⟩

theorem readConfig_malformed_options :
    readConfig malformedOptions (Supplier.initial appStager) =
      .error (.other "invalid character looking for beginning of value") ∧
    ((∃ file m, malformedOptions.load file m =
        .error (.other "invalid character looking for beginning of value") ∧
        isNotExist (.other "invalid character looking for beginning of value") = false) ∨
      ∃ p, malformedOptions.fileExists p =
        .error (.other "invalid character looking for beginning of value")) :=
  ⟨rfl, readConfig_error_source (Supplier.initial appStager) rfl⟩

/-- Which composer.json `ReadConfig` takes: the one at `COMPOSER_PATH` when the variable is
set and the file exists, else the build directory's when it exists, else the `ComposerPath`
it had; a nonempty `ComposerPath` is loaded, and the document stays as it was otherwise. -/
theorem readConfig_composerPath (s s' : Supplier) (h : readConfig src s = .ok s') :
    ∃ b₁ b₂, src.fileExists (s.stager.buildDir ++ ["composer.json"]) = .ok b₁ ∧
      (src.composerPathEnv ≠ [] → src.fileExists (envComposerFile src s) = .ok b₂) ∧
      s'.composerPath =
        (if src.composerPathEnv ≠ [] ∧ b₂ = true then pathString (envComposerFile src s)
          else if b₁ then pathString (s.stager.buildDir ++ ["composer.json"])
          else s.composerPath) ∧
      (s'.composerPath ≠ "" → loadIfExists src s'.composerPath s.composerJson = .ok s'.composerJson) ∧
      (s'.composerPath = "" → s'.composerJson = s.composerJson) := by
  obtain ⟨O, P₁, P, C, -, h₁, hP, hC, rfl⟩ := readConfig_eq_ok.mp h
  obtain ⟨b₁, hb₁, rfl⟩ := composerPathAt_eq_ok.mp h₁
  have hC' : (P ≠ "" → loadIfExists src P s.composerJson = .ok C) ∧ (P = "" → C = s.composerJson) := by
    unfold loadComposer at hC
    split_ifs at hC with hp
    · exact ⟨fun _ => hC, fun e => absurd e hp⟩
    · exact ⟨fun e => absurd (not_not.mp hp) e, fun _ => (Except.ok.inj hC).symm⟩
  unfold composerPathFromEnv at hP
  by_cases henv : src.composerPathEnv ≠ []
  · rw [if_pos henv] at hP
    obtain ⟨b₂, hb₂, rfl⟩ := composerPathAt_eq_ok.mp hP
    exact ⟨b₁, b₂, hb₁, fun _ => hb₂, by cases b₂ <;> simp [henv], hC'⟩
  · rw [if_neg henv] at hP
    obtain rfl := Except.ok.inj hP
    exact ⟨b₁, false, hb₁, fun h => absurd h henv, by simp, hC'⟩

end

def twoComposerFiles : ConfigSources :=
  ⟨fun file m => if file = "/app/lib/composer.json" then .ok (m.set "name" (.string "lib"))
      else .error (.pathError "open" ["app", ".bp-config", "options.json"]
        "no such file or directory"),
    fun _ => .ok true, ["lib"]⟩

theorem readConfig_composerPath_env :
    ∃ s', readConfig twoComposerFiles (Supplier.initial appStager) = .ok s' ∧
      s'.composerPath = "/app/lib/composer.json" ∧
      ∃ b₁ b₂, twoComposerFiles.fileExists (appStager.buildDir ++ ["composer.json"]) = .ok b₁ ∧
        (twoComposerFiles.composerPathEnv ≠ [] →
          twoComposerFiles.fileExists
            (envComposerFile twoComposerFiles (Supplier.initial appStager)) = .ok b₂) ∧
        s'.composerPath =
          (if twoComposerFiles.composerPathEnv ≠ [] ∧ b₂ = true then
              pathString (envComposerFile twoComposerFiles (Supplier.initial appStager))
            else if b₁ then pathString (appStager.buildDir ++ ["composer.json"])
            else (Supplier.initial appStager).composerPath) ∧
        (s'.composerPath ≠ "" → loadIfExists twoComposerFiles s'.composerPath
            (Supplier.initial appStager).composerJson = .ok s'.composerJson) ∧
        (s'.composerPath = "" → s'.composerJson = (Supplier.initial appStager).composerJson) :=
  ⟨_, rfl, rfl, readConfig_composerPath (Supplier.initial appStager) _ rfl⟩

end PhpBuildpack.Supply
