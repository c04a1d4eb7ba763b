import Mathlib.Data.List.Basic

/-! The rest of Go's `strings` package the buildpack calls, on the characters of a string:
`HasPrefix`, slicing `s[i:]`, and `Split`/`Join` with a one-byte separator. Every prefix,
index and separator the code uses is ASCII, so characters and bytes agree. -/
namespace PhpBuildpack.Go

/-- `strings.HasPrefix(s, prefix)`. -/
def hasPrefix (s pre : String) : Bool := pre.data.isPrefixOf s.data

/-- `s[i:]`; `none` where Go panics with a slice bounds out of range. -/
def sliceFrom (s : String) (i : Nat) : Option String :=
  if i ≤ s.length then some ⟨s.data.drop i⟩ else none

/-- `strings.Split(s, sep)` for a one-byte separator. -/
def split (s : String) (sep : Char) : List String := (s.data.splitOn sep).map String.mk

/-- `strings.Join(elems, sep)` for a one-byte separator. -/
def join (elems : List String) (sep : Char) : String :=
  ⟨[sep].intercalate (elems.map String.data)⟩

/-- `vs[i] = x`; `none` where Go panics with an index out of range. -/
def setIndex {α : Type} (vs : List α) (i : Nat) (x : α) : Option (List α) :=
  if i < vs.length then some (vs.set i x) else none

theorem hasPrefix_iff (s pre : String) : hasPrefix s pre ↔ pre.data <+: s.data := by
  simp [hasPrefix, List.isPrefixOf_iff_prefix]

theorem sliceFrom_of_hasPrefix {s pre : String} (h : hasPrefix s pre) :
    sliceFrom s pre.length = some ⟨s.data.drop pre.data.length⟩ :=
  if_pos ((hasPrefix_iff s pre).mp h).length_le

section
variable {x : Char}

theorem intercalate_cons_cons (sep a b : List Char) (l : List (List Char)) :
    sep.intercalate (a :: b :: l) = a ++ sep ++ sep.intercalate (b :: l) := by
  simp [List.intercalate, List.intersperse]

theorem intercalate_append_singleton (sep z : List Char) :
    ∀ {ls : List (List Char)}, ls ≠ [] →
      sep.intercalate (ls ++ [z]) = sep.intercalate ls ++ sep ++ z
  | [a], _ => by simp [List.intercalate, List.intersperse]
  | a :: b :: l, _ => by
    rw [List.cons_append, List.cons_append, intercalate_cons_cons, ← List.cons_append,
      intercalate_append_singleton sep z (List.cons_ne_nil b l), intercalate_cons_cons]
    simp

theorem splitOn_append_cons (a b : List Char) :
    (a ++ x :: b).splitOn x = a.splitOn x ++ b.splitOn x := by
  induction a with
  | nil => simp [List.splitOn, List.splitOnP_cons]
  | cons c a ih =>
    simp only [List.splitOn, List.cons_append, List.splitOnP_cons] at ih ⊢
    split
    · rw [ih]; rfl
    · rw [ih]
      obtain ⟨p, ps, hp⟩ := List.exists_cons_of_ne_nil (List.splitOnP_ne_nil (· == x) a)
      simp [hp]

theorem splitOn_of_not_mem {b : List Char} (h : x ∉ b) : b.splitOn x = [b] :=
  List.splitOnP_eq_single _ _ fun y hy hyx => h (by rwa [← eq_of_beq hyx])

theorem exists_last_sep {l : List Char} (h : x ∈ l) : ∃ a b, l = a ++ x :: b ∧ x ∉ b := by
  induction l with
  | nil => simp at h
  | cons c cs ih =>
    by_cases hx : x ∈ cs
    · obtain ⟨a, b, rfl, hb⟩ := ih hx
      exact ⟨c :: a, b, rfl, hb⟩
    · obtain rfl : x = c := by simpa [hx] using h
      exact ⟨[], cs, rfl, hx⟩

theorem set_length_append_singleton {α : Type} (l : List α) (b y : α) :
    (l ++ [b]).set l.length y = l ++ [y] := by
  induction l <;> simp_all

end

end PhpBuildpack.Go
