import PhpBuildpack.Supply.Supplier
import PhpBuildpack.Go.Strings

/-! `SetupExtensions`: the PHP extensions are options.json's `PHP_EXTENSIONS` (or four
defaults) together with what composer.json's `require` object asks for; the Zend extensions
are options.json's `ZEND_EXTENSIONS` alone. -/
namespace PhpBuildpack.Supply
open Go

/-- The extensions `SetupExtensions` starts from. -/
def defaultPhpExtensions : GoMap String Bool :=
  GoMap.ofList [("bz2", true), ("zlib", true), ("curl", true), ("mcrypt", true)]

/-- `for _, val := range arr { if ext, ok := val.(string); ok { m[ext] = true } }`. -/
def addStrings (m : GoMap String Bool) : List JsonVal → GoMap String Bool
  | [] => m
  | val :: vals =>
    addStrings (match val.asString with
      | some ext => m.set ext true
      | none => m) vals

/-- An options.json block of `SetupExtensions`: an array under `key` replaces `m` by the set
of its strings. -/
def fromOptionsArray (optionsJson : GoMap String JsonVal) (key : String)
    (m : GoMap String Bool) : GoMap String Bool :=
  match (optionsJson.get key).bind JsonVal.asArray with
  | some arr => addStrings ∅ arr
  | none => m

/-- The body of the loop over composer.json's `require`; `none` where `k[4:]` would panic. -/
def requireStep (m : GoMap String Bool) (k : String) : Option (GoMap String Bool) := do
  let m ← if hasPrefix k "ext-" then (sliceFrom k 4).map fun ext => m.set ext true else pure m
  pure (if hasPrefix k "ext-pdo_" then m.set "pdo" true else m)

/-- `Supplier.SetupExtensions`, with `σ` the order in which it ranges over `require`; `none`
where it would panic. -/
def setupExtensions (σ : RangeOrder (String × JsonVal)) (s : Supplier) : Option Supplier := do
  let php := fromOptionsArray s.optionsJson "PHP_EXTENSIONS" defaultPhpExtensions
  let zend := fromOptionsArray s.optionsJson "ZEND_EXTENSIONS" ∅
  let php ← match composerRequire s.composerJson with
    | some requires => (requires.range σ).foldlM (fun m kv => requireStep m kv.1) php
    | none => pure php
  pure { s with phpExtensions := php, zendExtensions := zend }

-- The strings of options.json's array under `key`, or `dflt` when it holds no array.
def optionStrings (optionsJson : GoMap String JsonVal) (key : String) (dflt : List String) :
    List String :=
  match (optionsJson.get key).bind JsonVal.asArray with
  | some arr => arr.filterMap JsonVal.asString
  | none => dflt

-- The extension a key `k` of composer.json's `require` asks for.
def RequiredBy (k e : String) : Prop :=
  (hasPrefix k "ext-" ∧ e = ⟨k.data.drop 4⟩) ∨ (hasPrefix k "ext-pdo_" ∧ e = "pdo")

theorem mem_addStrings {m : GoMap String Bool} {vals : List JsonVal} {e : String} :
    e ∈ addStrings m vals ↔ e ∈ m ∨ e ∈ vals.filterMap JsonVal.asString := by
  induction vals generalizing m with
  | nil => simp [addStrings]
  | cons val vals ih =>
    rw [addStrings, ih]
    cases h : val.asString <;> simp [List.filterMap_cons, h, or_assoc, or_left_comm]

theorem mem_fromOptionsArray {O : GoMap String JsonVal} {key : String} {m : GoMap String Bool}
    {dflt : List String} (hm : ∀ e, e ∈ m ↔ e ∈ dflt) (e : String) :
    e ∈ fromOptionsArray O key m ↔ e ∈ optionStrings O key dflt := by
  unfold fromOptionsArray optionStrings
  split
  · simp [mem_addStrings]
  · exact hm e

theorem requireStep_spec (m : GoMap String Bool) (k : String) :
    ∃ m', requireStep m k = some m' ∧ ∀ e, e ∈ m' ↔ e ∈ m ∨ RequiredBy k e := by
  have hpdo : hasPrefix k "ext-pdo_" → hasPrefix k "ext-" := by
    simp only [hasPrefix_iff]
    exact fun h => List.IsPrefix.trans ⟨['p', 'd', 'o', '_'], rfl⟩ h
  by_cases h₁ : hasPrefix k "ext-"
  · have hs : sliceFrom k 4 = some ⟨k.data.drop 4⟩ := sliceFrom_of_hasPrefix h₁
    by_cases h₂ : hasPrefix k "ext-pdo_" <;>
      simp [requireStep, RequiredBy, h₁, h₂, hs, or_comm, or_assoc, or_left_comm]
  · have h₂ : ¬ hasPrefix k "ext-pdo_" := mt hpdo h₁
    simp [requireStep, RequiredBy, h₁, h₂]

theorem foldlM_requireStep (l : List (String × JsonVal)) (m : GoMap String Bool) :
    ∃ m', l.foldlM (fun m kv => requireStep m kv.1) m = some m' ∧
      ∀ e, e ∈ m' ↔ e ∈ m ∨ ∃ kv ∈ l, RequiredBy kv.1 e := by
  induction l generalizing m with
  | nil => exact ⟨m, rfl, by simp⟩
  | cons kv l ih =>
    obtain ⟨m₁, h₁, hm₁⟩ := requireStep_spec m kv.1
    obtain ⟨m₂, h₂, hm₂⟩ := ih m₁
    refine ⟨m₂, by simp [List.foldlM_cons, h₁, h₂], fun e => ?_⟩
    simp only [hm₂, hm₁, List.mem_cons, exists_eq_or_imp, or_assoc]

-- The extensions `SetupExtensions` ends with.
def PhpExtensionOf (optionsJson composerJson : GoMap String JsonVal) (e : String) : Prop :=
  e ∈ optionStrings optionsJson "PHP_EXTENSIONS" ["bz2", "zlib", "curl", "mcrypt"] ∨
    ∃ requires, composerRequire composerJson = some requires ∧ ∃ k ∈ requires, RequiredBy k e

theorem setupExtensions_eq (σ : RangeOrder (String × JsonVal)) (s : Supplier) :
    ∃ php, setupExtensions σ s = some { s with
        phpExtensions := php
        zendExtensions := fromOptionsArray s.optionsJson "ZEND_EXTENSIONS" ∅ } ∧
      ∀ e, e ∈ php ↔ PhpExtensionOf s.optionsJson s.composerJson e := by
  have hphp : ∀ e, e ∈ fromOptionsArray s.optionsJson "PHP_EXTENSIONS" defaultPhpExtensions ↔
      e ∈ optionStrings s.optionsJson "PHP_EXTENSIONS" ["bz2", "zlib", "curl", "mcrypt"] :=
    mem_fromOptionsArray fun e => by simp [defaultPhpExtensions, GoMap.mem_ofList]
  cases hr : composerRequire s.composerJson with
  | none =>
    exact ⟨fromOptionsArray s.optionsJson "PHP_EXTENSIONS" defaultPhpExtensions,
      by simp [setupExtensions, hr], fun e => by simp [PhpExtensionOf, hphp, hr]⟩
  | some requires =>
    obtain ⟨php, hfold, hmem⟩ := foldlM_requireStep (requires.range σ)
      (fromOptionsArray s.optionsJson "PHP_EXTENSIONS" defaultPhpExtensions)
    refine ⟨php, by simp [setupExtensions, hr, hfold], fun e => ?_⟩
    rw [hmem, hphp, @GoMap.exists_mem_range _ _ _ requires σ (RequiredBy · e)]
    simp [PhpExtensionOf, hr]

/-- `SetupExtensions` never panics, whatever the JSON and the order it ranges over
`require` in. The PHP extensions are options.json's `PHP_EXTENSIONS` strings (or the four
defaults) and every extension composer.json's `require` asks for; the Zend extensions are
options.json's `ZEND_EXTENSIONS` strings alone; nothing else changes. -/
theorem setupExtensions_sets (σ : RangeOrder (String × JsonVal)) (s : Supplier) :
    ∃ s', setupExtensions σ s = some s' ∧
      (∀ e, e ∈ s'.phpExtensions ↔
        e ∈ optionStrings s.optionsJson "PHP_EXTENSIONS" ["bz2", "zlib", "curl", "mcrypt"] ∨
          ∃ requires, composerRequire s.composerJson = some requires ∧
            ∃ k ∈ requires, RequiredBy k e) ∧
      (∀ e, e ∈ s'.zendExtensions ↔ e ∈ optionStrings s.optionsJson "ZEND_EXTENSIONS" []) ∧
      s' = { s with phpExtensions := s'.phpExtensions, zendExtensions := s'.zendExtensions } := by
  obtain ⟨php, h, hphp⟩ := setupExtensions_eq σ s
  exact ⟨_, h, hphp, mem_fromOptionsArray (by simp), rfl⟩

end PhpBuildpack.Supply
