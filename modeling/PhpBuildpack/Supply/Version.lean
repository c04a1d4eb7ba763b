import PhpBuildpack.Supply.Supplier
import PhpBuildpack.Go.Replace
import PhpBuildpack.Go.Strings

/-! `versionLine` and `SetupPhpVersion`: the version the buildpack installs is options.json's
(an alias `PHP_XY_LATEST` read as `X.Y.x`), overridden by composer.json's `require.php`, and
replaced by the manifest's default when it matches nothing. -/
namespace PhpBuildpack.Supply
open Go

/-- `versionLine(v)`: `v` with its last dot-separated component replaced by `x`; `none`
where the assignment `vs[len(vs)-1] = "x"` would panic. -/
def versionLine (v : String) : Option String := do
  let vs := split v '.'
  let vs ← setIndex vs (vs.length - 1) "x"
  pure (join vs '.')

-- The prefix of `l` up to and including its last `.`.
def lastDotPrefix (l : List Char) : List Char := (l.reverse.dropWhile (· ≠ '.')).reverse

theorem ne_dot_of_mem_reverse {b : List Char} (hb : '.' ∉ b) {c : Char} (hc : c ∈ b.reverse) :
    decide (c ≠ '.') = true :=
  decide_eq_true fun e => hb (by rw [← e]; exact List.mem_reverse.mp hc)

theorem lastDotPrefix_of_not_mem {b : List Char} (hb : '.' ∉ b) : lastDotPrefix b = [] := by
  rw [lastDotPrefix, List.reverse_eq_nil_iff, List.dropWhile_eq_nil_iff]
  exact fun c hc => ne_dot_of_mem_reverse hb hc

theorem lastDotPrefix_append {a b : List Char} (hb : '.' ∉ b) :
    lastDotPrefix (a ++ '.' :: b) = a ++ ['.'] := by
  have hall : ∀ c ∈ b.reverse, (decide (c ≠ '.')) = true := fun c hc =>
    ne_dot_of_mem_reverse hb hc
  rw [lastDotPrefix, List.reverse_append, List.reverse_cons, List.append_assoc,
    List.singleton_append, List.dropWhile_append_of_pos hall,
    List.dropWhile_cons_of_neg (by simp)]
  simp

theorem versionLine_of_not_mem {v : String} (h : '.' ∉ v.data) : versionLine v = some "x" := by
  simp [versionLine, split, splitOn_of_not_mem h, setIndex, join]
  rfl

theorem versionLine_of_last_dot {v : String} {a b : List Char} (hv : v.data = a ++ '.' :: b)
    (hb : '.' ∉ b) : versionLine v = some ⟨a ++ ['.', 'x']⟩ := by
  have hsplit : split v '.' = (a.splitOn '.').map String.mk ++ [⟨b⟩] := by
    simp [split, hv, splitOn_append_cons, splitOn_of_not_mem hb]
  have hset : setIndex (split v '.') ((split v '.').length - 1) "x" =
      some ((a.splitOn '.').map String.mk ++ ["x"]) := by
    rw [hsplit, setIndex, if_pos (by simp), List.length_append, List.length_singleton,
      Nat.add_sub_cancel, set_length_append_singleton]
  have hjoin : join ((a.splitOn '.').map String.mk ++ ["x"]) '.' = ⟨a ++ ['.', 'x']⟩ := by
    simp only [join, List.map_append, List.map_map, Function.comp_def, List.map_id',
      List.map_cons, List.map_nil]
    have hne : a.splitOn '.' ≠ [] := List.splitOnP_ne_nil _ a
    rw [intercalate_append_singleton _ _ hne, List.intercalate_splitOn]
    simp
  simp only [versionLine, hset, Option.bind_eq_bind, Option.some_bind, hjoin]
  rfl

theorem versionLine_eq (v : String) : versionLine v = some ⟨lastDotPrefix v.data ++ ['x']⟩ := by
  by_cases h : '.' ∈ v.data
  · obtain ⟨a, b, hv, hb⟩ := exists_last_sep h
    rw [versionLine_of_last_dot hv hb, hv, lastDotPrefix_append hb]
    simp
  · rw [versionLine_of_not_mem h, lastDotPrefix_of_not_mem h]
    rfl

theorem split_of_last_dot {v : String} {a b : List Char} (hv : v.data = a ++ '.' :: b)
    (hb : '.' ∉ b) : split v '.' = (a.splitOn '.').map String.mk ++ [⟨b⟩] := by
  simp [split, hv, splitOn_append_cons, splitOn_of_not_mem hb]

/-- `versionLine` never panics: the index `len(vs)-1` is always in range. It keeps `v` up to
and including its last `.` and puts `x` after it, so it is idempotent and keeps every
dot-separated component of `v` but the last. -/
theorem versionLine_total_idempotent (v : String) :
    versionLine v = some ⟨lastDotPrefix v.data ++ ['x']⟩ ∧
    (versionLine v).bind versionLine = versionLine v ∧
    (versionLine v).map (split · '.') = some ((split v '.').dropLast ++ ["x"]) := by
  refine ⟨versionLine_eq v, ?_⟩
  have hx : '.' ∉ ['x'] := by decide
  by_cases h : '.' ∈ v.data
  · obtain ⟨a, b, hv, hb⟩ := exists_last_sep h
    have hw : (⟨a ++ ['.', 'x']⟩ : String).data = a ++ '.' :: ['x'] := rfl
    rw [versionLine_of_last_dot hv hb, Option.some_bind, versionLine_of_last_dot hw hx,
      Option.map_some', split_of_last_dot hw hx, split_of_last_dot hv hb, List.dropLast_concat]
    exact ⟨rfl, rfl⟩
  · rw [versionLine_of_not_mem h, Option.some_bind, versionLine_of_not_mem hx, Option.map_some']
    refine ⟨rfl, ?_⟩
    simp only [split, splitOn_of_not_mem h]
    rfl

/-- The digits of `PHP_(\d)(\d)_LATEST` matched at the start of `l`. -/
def aliasAt (l : List Char) : Option (Char × Char) :=
  match l.drop 4 with
  | a :: b :: rest =>
    if "PHP_".data.isPrefixOf l && a.isDigit && b.isDigit && "_LATEST".data.isPrefixOf rest then
      some (a, b)
    else none
  | _ => none

/-- The digits of the leftmost match of `PHP_(\d)(\d)_LATEST`, the two groups
`regexp.FindStringSubmatch` returns. -/
def latestAlias : List Char → Option (Char × Char)
  | [] => none
  | c :: cs =>
    match aliasAt (c :: cs) with
    | some ab => some ab
    | none => latestAlias cs

/-- options.json's version with an alias `PHP_XY_LATEST` read as `X.Y.x`. -/
def expandLatest (version : String) : String :=
  match latestAlias version.data with
  | some (a, b) => ⟨[a, '.', b, '.', 'x']⟩
  | none => version

theorem aliasAt_alias {a b : Char} (ha : a.isDigit) (hb : b.isDigit) (w : List Char) :
    aliasAt ("PHP_".data ++ a :: b :: ("_LATEST".data ++ w)) = some (a, b) := by
  simp [aliasAt, ha, hb]

theorem latestAlias_of_aliasAt {l : List Char} {ab : Char × Char} (h : aliasAt l = some ab) :
    latestAlias l = some ab := by
  cases l with
  | nil => cases h
  | cons c cs => rw [latestAlias, h]

theorem latestAlias_append {u r : List Char}
    (hu : ∀ i < u.length, aliasAt ((u ++ r).drop i) = none) : latestAlias (u ++ r) = latestAlias r := by
  induction u with
  | nil => rfl
  | cons c u ih =>
    rw [List.cons_append, latestAlias, show aliasAt (c :: (u ++ r)) = none from hu 0 (Nat.succ_pos _)]
    exact ih fun i hi => hu (i + 1) (Nat.succ_lt_succ hi)

theorem expandLatest_of_none {v : String} (h : latestAlias v.data = none) : expandLatest v = v := by
  simp only [expandLatest, h]

/-- The leftmost alias `PHP_XY_LATEST` of options.json's version reads as `X.Y.x`, and the
expansion holds no alias, so expanding it again changes nothing. -/
theorem expandLatest_idempotent (o : String) :
    (∀ u a b w, a.isDigit → b.isDigit →
      o.data = u ++ ("PHP_".data ++ a :: b :: ("_LATEST".data ++ w)) →
      (∀ i < u.length, aliasAt (o.data.drop i) = none) →
      expandLatest o = ⟨[a, '.', b, '.', 'x']⟩) ∧
    latestAlias (expandLatest o).data = none ∧ expandLatest (expandLatest o) = expandLatest o := by
  have hnf : latestAlias (expandLatest o).data = none := by
    cases h : latestAlias o.data with
    | none => rwa [expandLatest_of_none h]
    | some ab => simp only [expandLatest, h]; rfl
  refine ⟨fun u a b w ha hb ho hu => ?_, hnf, expandLatest_of_none hnf⟩
  rw [ho] at hu
  have h : latestAlias o.data = some (a, b) := by
    rw [ho, latestAlias_append hu, latestAlias_of_aliasAt (aliasAt_alias ha hb w)]
  simp only [expandLatest, h]

/-- `libbuildpack.FindMatchingVersion(constraint, versions)`, a parameter of the model. -/
abbrev VersionMatcher := String → List String → Except GoError String

/-- composer.json's `require.php`, when `require` is an object holding a string there. -/
def composerPhp (composerJson : GoMap String JsonVal) : Option String :=
  (composerRequire composerJson).bind fun require => (require.get "php").bind JsonVal.asString

/-- The options.json block of `SetupPhpVersion`: a nonempty `PHP_VERSION` replaces `v`. -/
def fromOptions (optionsJson : GoMap String JsonVal) (v : String) : String :=
  match (optionsJson.get "PHP_VERSION").bind JsonVal.asString with
  | some version => if version ≠ "" then expandLatest version else v
  | none => v

/-- The composer.json block: a nonempty `require.php` replaces `v`, `>=` read as `~>`. -/
def fromComposer (composerJson : GoMap String JsonVal) (v : String) : String :=
  match composerPhp composerJson with
  | some version => if version ≠ "" then replace version ">=" "~>" else v
  | none => v

/-- The manifest block: a nonempty `v` becomes the version the manifest matches, or `""`
when none matches. -/
def matchInManifest (manifest : Manifest) (findMatchingVersion : VersionMatcher)
    (v : String) : String :=
  if v ≠ "" then
    match findMatchingVersion v (manifest.allDependencyVersions "php") with
    | .error _ => ""
    | .ok v => v
  else v

/-- `Supplier.SetupPhpVersion`: the three blocks assign `s.PhpVersion` in turn, and an empty
result takes the manifest's default version. -/
def setupPhpVersion (manifest : Manifest) (findMatchingVersion : VersionMatcher)
    (s : Supplier) : Except GoError Supplier :=
  let v := matchInManifest manifest findMatchingVersion
    (fromComposer s.composerJson (fromOptions s.optionsJson s.phpVersion))
  if v = "" then
    (manifest.defaultVersion "php").map fun dep => { s with phpVersion := dep.version }
  else .ok { s with phpVersion := v }

-- The candidate the version is looked up with.
def versionCandidate (optionsJson composerJson : GoMap String JsonVal) : Option String :=
  match composerPhp composerJson with
  | some v => if v ≠ "" then some (replace v ">=" "~>") else optionsCandidate
  | none => optionsCandidate
where
  optionsCandidate : Option String :=
    match (optionsJson.get "PHP_VERSION").bind JsonVal.asString with
    | some o => if o ≠ "" then some (expandLatest o) else none
    | none => none

-- What the manifest lookup makes of a candidate.
def lookupMatch (findMatchingVersion : VersionMatcher) (versions : List String) (c : String) :
    Option String :=
  match findMatchingVersion c versions with
  | .ok v => if v = "" then none else some v
  | .error _ => none

theorem expandLatest_ne_empty {o : String} (h : o ≠ "") : expandLatest o ≠ "" := by
  unfold expandLatest
  split
  · exact fun e => by simp [String.ext_iff] at e
  · exact h

theorem versionCandidate_ne_empty {O C : GoMap String JsonVal} {c : String}
    (h : versionCandidate O C = some c) : c ≠ "" := by
  unfold versionCandidate versionCandidate.optionsCandidate at h
  split at h <;> (try split_ifs at h) <;> (try split at h) <;> (try split_ifs at h) <;>
    cases h
  all_goals first
    | exact replace_ne_empty ‹_› (by decide) (by decide)
    | exact expandLatest_ne_empty ‹_›

theorem fromComposer_fromOptions (O C : GoMap String JsonVal) :
    fromComposer C (fromOptions O "") = (versionCandidate O C).getD "" := by
  have ho : fromOptions O "" = (versionCandidate.optionsCandidate O).getD "" := by
    unfold fromOptions versionCandidate.optionsCandidate
    split
    · split_ifs <;> rfl
    · rfl
  rw [ho]
  unfold fromComposer versionCandidate
  split
  · split_ifs <;> rfl
  · rfl

theorem setupPhpVersion_version (manifest : Manifest) (fmv : VersionMatcher) (s : Supplier) :
    (setupPhpVersion manifest fmv { s with phpVersion := "" }).map (·.phpVersion) =
      match (versionCandidate s.optionsJson s.composerJson).bind
          (lookupMatch fmv (manifest.allDependencyVersions "php")) with
      | some v => .ok v
      | none => (manifest.defaultVersion "php").map (·.version) := by
  simp only [setupPhpVersion, fromComposer_fromOptions]
  cases hc : versionCandidate s.optionsJson s.composerJson with
  | none => cases manifest.defaultVersion "php" <;> rfl
  | some c =>
    simp only [Option.getD_some, Option.some_bind, matchInManifest, lookupMatch,
      if_pos (versionCandidate_ne_empty hc)]
    cases fmv c (manifest.allDependencyVersions "php") with
    | error e => cases manifest.defaultVersion "php" <;> rfl
    | ok v =>
      by_cases hv : v = ""
      · simp only [hv, if_true]
        cases manifest.defaultVersion "php" <;> rfl
      · simp only [hv, if_false]
        rfl

theorem setupPhpVersion_ok_eq {manifest : Manifest} {fmv : VersionMatcher} {s s' : Supplier}
    (h : setupPhpVersion manifest fmv s = .ok s') : s' = { s with phpVersion := s'.phpVersion } := by
  simp only [setupPhpVersion] at h
  split_ifs at h
  · cases hd : manifest.defaultVersion "php" <;> simp only [hd, Except.map, reduceCtorEq] at h
    obtain rfl := Except.ok.inj h
    rfl
  · obtain rfl := Except.ok.inj h
    rfl

theorem versionCandidate_of_composer {O C : GoMap String JsonVal} {v : String}
    (h : composerPhp C = some v) (hv : v ≠ "") :
    versionCandidate O C = some (replace v ">=" "~>") := by
  simp [versionCandidate, h, hv]

theorem lookupMatch_mem {fmv : VersionMatcher} {K : List String}
    (hK : ∀ c v, fmv c K = .ok v → v ∈ K) {c v : String} (h : lookupMatch fmv K c = some v) :
    v ∈ K := by
  unfold lookupMatch at h
  split at h
  · split_ifs at h
    cases h
    exact hK c _ ‹_›
  · cases h

/-- `SetupPhpVersion` from an empty version takes the manifest's nonempty match of the
candidate, else the default version: the result is in the catalog or is the default, a
candidate that matches nothing never aborts, and once composer.json names a version the
options file plays no part. -/
theorem setupPhpVersion_resolves (manifest : Manifest) (fmv : VersionMatcher)
    (hK : ∀ c v, fmv c (manifest.allDependencyVersions "php") = .ok v →
      v ∈ manifest.allDependencyVersions "php")
    (s : Supplier) :
    (setupPhpVersion manifest fmv { s with phpVersion := "" }).map (·.phpVersion) =
      (match (versionCandidate s.optionsJson s.composerJson).bind
          (lookupMatch fmv (manifest.allDependencyVersions "php")) with
        | some v => .ok v
        | none => (manifest.defaultVersion "php").map (·.version)) ∧
    (∀ s', setupPhpVersion manifest fmv { s with phpVersion := "" } = .ok s' →
      s'.phpVersion ∈ manifest.allDependencyVersions "php" ∨
        ∃ dep, manifest.defaultVersion "php" = .ok dep ∧ s'.phpVersion = dep.version) ∧
    ((∃ dep, manifest.defaultVersion "php" = .ok dep) →
      ∃ s', setupPhpVersion manifest fmv { s with phpVersion := "" } = .ok s') ∧
    (∀ v, composerPhp s.composerJson = some v → v ≠ "" → ∀ O : GoMap String JsonVal,
      (setupPhpVersion manifest fmv { s with phpVersion := "", optionsJson := O }).map
          (·.phpVersion) =
        (setupPhpVersion manifest fmv { s with phpVersion := "" }).map (·.phpVersion)) := by
  have hv := setupPhpVersion_version manifest fmv s
  refine ⟨hv, fun s' hs' => ?_, fun ⟨dep, hdep⟩ => ?_, fun v hc hne O => ?_⟩
  · rw [hs'] at hv
    revert hv
    cases hm : (versionCandidate s.optionsJson s.composerJson).bind
        (lookupMatch fmv (manifest.allDependencyVersions "php")) with
    | some v =>
      obtain ⟨c, -, hc⟩ := Option.bind_eq_some.mp hm
      rintro ⟨⟩
      exact .inl (lookupMatch_mem hK hc)
    | none =>
      cases hd : manifest.defaultVersion "php" with
      | error e => rintro ⟨⟩
      | ok dep => exact fun h => .inr ⟨dep, rfl, Except.ok.inj h⟩
  · revert hv
    cases setupPhpVersion manifest fmv { s with phpVersion := "" } with
    | ok s' => exact fun _ => ⟨s', rfl⟩
    | error e =>
      split <;> simp [hdep, Except.map]
  · have h₁ := setupPhpVersion_version manifest fmv { s with optionsJson := O }
    simp only at h₁
    rw [h₁, hv, versionCandidate_of_composer hc hne, versionCandidate_of_composer hc hne]

theorem setupPhpVersion_resolves_first :
    (∀ c v, (fun _ K => match K with
        | v :: _ => .ok v
        | [] => .error (.other "no match") : VersionMatcher) c ["7.4.0"] = .ok v →
      v ∈ ["7.4.0"]) ∧
    (setupPhpVersion ⟨fun _ => ["7.4.0"], fun _ => .ok ⟨"php", "7.3.0"⟩⟩
        (fun _ K => match K with
          | v :: _ => .ok v
          | [] => .error (.other "no match"))
        ⟨⟨[], [], [], [], "0"⟩, "", "", ∅, GoMap.ofList [("PHP_VERSION", .string "7.4.x")], ∅, ∅,
          ""⟩).map (·.phpVersion) = .ok "7.4.0" :=
  have hK : ∀ c v, (fun _ K => match K with
        | v :: _ => .ok v
        | [] => .error (.other "no match") : VersionMatcher) c ["7.4.0"] = .ok v →
      v ∈ ["7.4.0"] := fun _ _ h => by cases h; exact List.mem_singleton_self _
  ⟨hK, (setupPhpVersion_resolves ⟨fun _ => ["7.4.0"], fun _ => .ok ⟨"php", "7.3.0"⟩⟩ _ hK
    ⟨⟨[], [], [], [], "0"⟩, "", "", ∅, GoMap.ofList [("PHP_VERSION", .string "7.4.x")], ∅, ∅,
      ""⟩).1⟩

/-- A catalog matching the candidate with the empty string: the code reads the match as
none and installs the default version. -/
theorem setupPhpVersion_empty_match :
    versionCandidate ∅ (GoMap.ofList [("require", .object [("php", .string "7")])]) = some "7" ∧
    "" ∈ [""] ∧
    (setupPhpVersion ⟨fun _ => [""], fun _ => .ok ⟨"php", "7.4.0"⟩⟩ (fun _ _ => .ok "")
        ⟨⟨[], [], [], [], "0"⟩, "", "", GoMap.ofList [("require", .object [("php", .string "7")])],
          ∅, ∅, ∅, ""⟩).map (·.phpVersion) = .ok "7.4.0" :=
  ⟨rfl, List.mem_singleton_self _, rfl⟩

end PhpBuildpack.Supply
