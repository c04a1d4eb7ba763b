import Mathlib.Data.List.AList

/-! Go maps and the values `encoding/json` decodes. A map's keys are unique (Mathlib's
`AList`); `range` over a map visits its entries in an order Go leaves unspecified, which
the model takes as an explicit `RangeOrder`. -/
namespace PhpBuildpack.Go

/-- A Go `map[κ]α`. -/
abbrev GoMap (κ α : Type) := AList fun _ : κ => α

/-- One choice of Go's unspecified iteration order: any permutation of what is visited. -/
structure RangeOrder (α : Type) where
  arrange : List α → List α
  perm : ∀ l, (arrange l).Perm l

def RangeOrder.inOrder {α : Type} : RangeOrder α := ⟨id, List.Perm.refl⟩

def RangeOrder.reversed {α : Type} : RangeOrder α := ⟨List.reverse, List.reverse_perm⟩

namespace GoMap
variable {κ α : Type}

/-- The entries as pairs. -/
def pairs (m : GoMap κ α) : List (κ × α) := m.entries.map fun e => (e.1, e.2)

/-- `for k, v := range m`, in the iteration order `σ`. -/
def range (m : GoMap κ α) (σ : RangeOrder (κ × α)) : List (κ × α) := σ.arrange m.pairs

theorem range_keys_perm (m : GoMap κ α) (σ : RangeOrder (κ × α)) :
    ((m.range σ).map Prod.fst).Perm m.keys := by
  have : m.pairs.map Prod.fst = m.keys := by simp [pairs, AList.keys, Function.comp_def]; rfl
  exact this ▸ (σ.perm _).map Prod.fst

theorem range_keys_nodup (m : GoMap κ α) (σ : RangeOrder (κ × α)) :
    ((m.range σ).map Prod.fst).Nodup :=
  (range_keys_perm m σ).nodup_iff.mpr m.keys_nodup

@[simp] theorem not_mem_empty (k : κ) : k ∉ (∅ : GoMap κ α) := AList.not_mem_empty k

variable [DecidableEq κ]

/-- `m[k]`, `none` for a missing key. -/
def get (m : GoMap κ α) (k : κ) : Option α := m.lookup k

/-- `m[k] = v`. -/
def set (m : GoMap κ α) (k : κ) (v : α) : GoMap κ α := m.insert k v

/-- A map literal, or a decoded JSON object: entries are set in order, a later key
overwriting an earlier one. -/
def ofList (l : List (κ × α)) : GoMap κ α := l.foldl (fun m p => m.set p.1 p.2) ∅

@[simp] theorem get_set_self (m : GoMap κ α) (k : κ) (v : α) : (m.set k v).get k = some v :=
  AList.lookup_insert m

@[simp] theorem get_set_of_ne (m : GoMap κ α) {k k' : κ} (v : α) (h : k' ≠ k) :
    (m.set k v).get k' = m.get k' :=
  AList.lookup_insert_ne h

theorem get_set (m : GoMap κ α) (k k' : κ) (v : α) :
    (m.set k v).get k' = if k' = k then some v else m.get k' := by
  split_ifs with h
  · subst h; simp
  · simp [h]

@[simp] theorem get_empty (k : κ) : (∅ : GoMap κ α).get k = none := rfl

theorem mem_pairs {m : GoMap κ α} {p : κ × α} : p ∈ m.pairs ↔ m.get p.1 = some p.2 := by
  simp only [pairs, List.mem_map, get, ← Option.mem_def, AList.mem_lookup_iff]
  constructor
  · rintro ⟨⟨a, b⟩, h, rfl⟩
    exact h
  · exact fun h => ⟨_, h, rfl⟩

theorem mem_range {m : GoMap κ α} {σ : RangeOrder (κ × α)} {p : κ × α} :
    p ∈ m.range σ ↔ m.get p.1 = some p.2 := by
  rw [range, (σ.perm _).mem_iff, mem_pairs]

theorem mem_iff_get {m : GoMap κ α} {k : κ} : k ∈ m ↔ ∃ v, m.get k = some v := by
  rw [← AList.lookup_isSome, Option.isSome_iff_exists]
  rfl

theorem exists_mem_range {m : GoMap κ α} {σ : RangeOrder (κ × α)} {P : κ → Prop} :
    (∃ p ∈ m.range σ, P p.1) ↔ ∃ k ∈ m, P k := by
  constructor
  · rintro ⟨p, hp, hP⟩
    exact ⟨p.1, mem_iff_get.mpr ⟨p.2, mem_range.mp hp⟩, hP⟩
  · rintro ⟨k, hk, hP⟩
    obtain ⟨v, hv⟩ := mem_iff_get.mp hk
    exact ⟨(k, v), mem_range.mpr hv, hP⟩

@[simp] theorem mem_set {m : GoMap κ α} {k k' : κ} {v : α} : k' ∈ m.set k v ↔ k' = k ∨ k' ∈ m :=
  AList.mem_insert m

theorem mem_foldl_set {l : List (κ × α)} {m : GoMap κ α} {k : κ} :
    k ∈ l.foldl (fun m p => m.set p.1 p.2) m ↔ k ∈ m ∨ k ∈ l.map Prod.fst := by
  induction l generalizing m with
  | nil => simp
  | cons p l ih => simp only [List.foldl_cons, ih, mem_set, List.map_cons, List.mem_cons]; tauto

theorem mem_ofList {l : List (κ × α)} {k : κ} : k ∈ ofList l ↔ k ∈ l.map Prod.fst := by
  simp [ofList, mem_foldl_set]

theorem get_foldl_set_of_not_mem {l : List (κ × α)} {m : GoMap κ α} {k : κ}
    (hk : k ∉ l.map Prod.fst) : (l.foldl (fun m p => m.set p.1 p.2) m).get k = m.get k := by
  induction l generalizing m with
  | nil => rfl
  | cons p l ih =>
    simp only [List.map_cons, List.mem_cons, not_or] at hk
    rw [List.foldl_cons, ih hk.2, get_set_of_ne _ _ hk.1]

theorem get_foldl_set_of_mem {l : List (κ × α)} {m : GoMap κ α} {p : κ × α}
    (hl : (l.map Prod.fst).Nodup) (hp : p ∈ l) :
    (l.foldl (fun m p => m.set p.1 p.2) m).get p.1 = some p.2 := by
  induction l generalizing m with
  | nil => simp at hp
  | cons q l ih =>
    rw [List.map_cons, List.nodup_cons] at hl
    rw [List.foldl_cons]
    rcases List.mem_cons.mp hp with rfl | hp
    · rw [get_foldl_set_of_not_mem hl.1, get_set_self]
    · exact ih hl.2 hp

theorem get_ofList_range (m : GoMap κ α) (σ : RangeOrder (κ × α)) (k : κ) :
    (ofList (m.range σ)).get k = m.get k := by
  cases h : m.get k with
  | some v =>
    exact get_foldl_set_of_mem (range_keys_nodup m σ) (mem_range.mpr h : (k, v) ∈ m.range σ)
  | none =>
    have hk : k ∉ (m.range σ).map Prod.fst := fun hk =>
      absurd (mem_iff_get.mp ((range_keys_perm m σ).mem_iff.mp hk)) (by simp [h])
    exact get_foldl_set_of_not_mem hk

end GoMap

/-- A JSON document as `encoding/json` decodes it into `interface{}`. Numbers keep their
text: no code of the buildpack reads one. -/
inductive JsonVal where
  | null
  | bool (b : Bool)
  | number (text : String)
  | string (s : String)
  | array (items : List JsonVal)
  | object (fields : List (String × JsonVal))

namespace JsonVal

/-- `v.(string)`. -/
def asString : JsonVal → Option String
  | string s => some s
  | _ => none

/-- `v.([]interface{})`. -/
def asArray : JsonVal → Option (List JsonVal)
  | array items => some items
  | _ => none

/-- `v.(map[string]interface{})`: the decoder sets the fields in document order. -/
def asObject : JsonVal → Option (GoMap String JsonVal)
  | object fields => some (GoMap.ofList fields)
  | _ => none

end JsonVal

end PhpBuildpack.Go
