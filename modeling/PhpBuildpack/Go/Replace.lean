import Mathlib.Data.List.Infix
import Mathlib.Data.List.Pairwise
import Mathlib.Data.List.Perm.Basic
import Mathlib.Data.Nat.Defs

/-! `strings.Replace(s, old, new, -1)` as Go scans it, and `substAll`, one left-to-right
pass applying several rules at once. Replacing one rule after another is that one pass
when no token can start inside another rule's token or replacement (`chain_eq_substAll`). -/
namespace PhpBuildpack.Go

/-- The scan of `strings.Replace(s, old, new, -1)`: `skip` counts the characters of the
last match still to pass over (Go's `start` index). -/
def replaceScan (old new : List Char) : Nat → List Char → List Char
  | _, [] => []
  | k+1, _ :: cs => replaceScan old new k cs
  | 0, c :: cs =>
    if old <+: c :: cs then new ++ replaceScan old new (old.length - 1) cs
    else c :: replaceScan old new 0 cs

/-- `strings.Replace(s, old, new, -1)`. An empty `old` matches before every character and
at the end, as in Go. -/
def replace (s old new : String) : String :=
  if old.data = [] then ⟨new.data ++ s.data.flatMap (· :: new.data)⟩
  else ⟨replaceScan old.data new.data 0 s.data⟩

theorem replaceScan_skip (old new : List Char) (k : Nat) (s : List Char) (h : k ≤ s.length) :
    replaceScan old new k s = replaceScan old new 0 (s.drop k) := by
  induction s generalizing k with
  | nil => cases k <;> rfl
  | cons c cs ih =>
    cases k with
    | zero => rfl
    | succ k => simpa [replaceScan] using ih k (by simpa using h)

-- A substitution rule.
structure Rule where
  token : List Char
  repl : List Char
  token_ne : token ≠ []

-- One left-to-right pass applying `rules` at once.
def substAll (rules : List Rule) : List Char → List Char
  | [] => []
  | c :: cs => match rules.find? (fun r => r.token <+: c :: cs) with
    | some r => r.repl ++ substAll rules ((c :: cs).drop r.token.length)
    | none => c :: substAll rules cs
termination_by s => s.length
decreasing_by
  all_goals simp_wf
  have := List.length_pos.mpr r.token_ne
  omega

-- Replacing one rule after another, as a sequence of `strings.Replace` calls does.
def chain (rules : List Rule) (s : List Char) : List Char :=
  rules.foldl (fun acc r => substAll [r] acc) s

-- `a` and `b` agree on their common length.
def Clash (a b : List Char) : Prop := a <+: b ∨ b <+: a

instance (a b : List Char) : Decidable (Clash a b) := inferInstanceAs (Decidable (_ ∨ _))

-- No occurrence of `t` starts at a position `k`, `lo ≤ k < u.length`, of a text that begins with
-- `u`.
def NoStartIn (lo : Nat) (u t : List Char) : Prop :=
  ∀ k, lo ≤ k → k < u.length → ¬ Clash (u.drop k) t

instance (lo : Nat) (u t : List Char) : Decidable (NoStartIn lo u t) :=
  inferInstanceAs (Decidable (∀ k, lo ≤ k → k < u.length → ¬ Clash (u.drop k) t))

-- Rule `y` run after rule `x` cannot tell `x`'s output from its input.
def Separated (x y : Rule) : Prop :=
  NoStartIn 0 x.repl y.token ∧ NoStartIn 1 y.token x.repl ∧ NoStartIn 1 y.token x.token

instance (x y : Rule) : Decidable (Separated x y) := inferInstanceAs (Decidable (_ ∧ _ ∧ _))

-- Wherever `t` can start in a text that begins with `u`, a whole occurrence of `t` lies inside
-- `u`.
def OnlyWhole (u t : List Char) : Prop :=
  ∀ k, k < u.length → Clash (u.drop k) t → t <+: u.drop k

instance (u t : List Char) : Decidable (OnlyWhole u t) :=
  inferInstanceAs (Decidable (∀ k, k < u.length → Clash (u.drop k) t → t <+: u.drop k))

-- Rule `y` run after rule `x` finds its token in `x.repl` only whole, never across either end, and
-- neither `x.repl` nor `x.token` starts strictly inside `y.token`.
def Nested (x y : Rule) : Prop :=
  OnlyWhole x.repl y.token ∧ NoStartIn 1 y.token x.repl ∧ NoStartIn 1 y.token x.token

-- Rule `x` with its replacement rewritten by the pass of `y`.
def Rule.andThen (x y : Rule) : Rule := ⟨x.token, substAll [y] x.repl, x.token_ne⟩

theorem Clash.symm {a b : List Char} (h : Clash a b) : Clash b a := Or.symm h

theorem clash_of_prefix_append {t a w : List Char} (h : t <+: a ++ w) : Clash a t :=
  List.prefix_or_prefix_of_prefix (List.prefix_append a w) h

theorem drop_prefix_of_prefix_append {t p w : List Char} (h : t <+: p ++ w)
    (hl : p.length ≤ t.length) : t.drop p.length <+: w := by
  have hp : p <+: t := List.prefix_of_prefix_length_le (List.prefix_append p w) h hl
  obtain ⟨z, hz⟩ := h
  refine ⟨z, List.append_cancel_left (?_ : p ++ _ = p ++ _)⟩
  rw [← List.append_assoc, List.prefix_iff_eq_append.mp hp, hz]

theorem NoStartIn.mono {lo lo' : Nat} {u t : List Char} (hl : lo ≤ lo') (h : NoStartIn lo u t) :
    NoStartIn lo' u t := fun k hk => h k (by omega)

theorem NoStartIn.cons {lo : Nat} {c : Char} {u t : List Char} (h : NoStartIn (lo+1) (c :: u) t) :
    NoStartIn lo u t := fun k hk hku =>
  by simpa using h (k+1) (by omega) (by simpa using hku)

theorem NoStartIn.not_prefix_append {u t w : List Char} (h : NoStartIn 0 u t) (hu : u ≠ []) :
    ¬ t <+: u ++ w := fun ht =>
  h 0 le_rfl (List.length_pos.mpr hu) (by simpa using clash_of_prefix_append ht)

theorem infix_append_cases {t a w : List Char} (h : t <:+: a ++ w) :
    t <:+: w ∨ ∃ k < a.length, t <+: a.drop k ++ w := by
  obtain ⟨s, u, hsu⟩ := h
  rw [List.append_assoc, List.append_eq_append_iff] at hsu
  rcases hsu with ⟨a', rfl, h2⟩ | ⟨c', rfl, h2⟩
  · cases a' with
    | nil => exact .inl ⟨[], u, by simpa using h2⟩
    | cons x a' => exact .inr ⟨s.length, by simp, u, by simpa using h2⟩
  · exact .inl ⟨c', u, by simp [h2]⟩

section
variable {rules : List Rule}

@[simp] theorem substAll_nil : substAll rules [] = [] := by
  rw [substAll]

theorem substAll_fire {s : List Char} {r : Rule}
    (h : rules.find? (fun r => r.token <+: s) = some r) :
    substAll rules s = r.repl ++ substAll rules (s.drop r.token.length) := by
  cases s with
  | nil => simpa [r.token_ne] using List.find?_some h
  | cons c cs => rw [substAll, h]

theorem substAll_pass {c : Char} {cs : List Char}
    (h : rules.find? (fun r => r.token <+: c :: cs) = none) :
    substAll rules (c :: cs) = c :: substAll rules cs := by
  rw [substAll, h]

theorem substAll_nil_rules (s : List Char) : substAll [] s = s := by
  induction s using substAll.induct [] with
  | case1 => exact substAll_nil
  | case2 c cs r h _ => simp at h
  | case3 c cs h ih => rw [substAll_pass h, ih]

theorem substAll_append_of_noStart {u : List Char} (hu : ∀ r ∈ rules, NoStartIn 0 u r.token)
    (w : List Char) : substAll rules (u ++ w) = u ++ substAll rules w := by
  induction u with
  | nil => rfl
  | cons c u ih =>
    have hnone : rules.find? (fun r => r.token <+: c :: (u ++ w)) = none :=
      List.find?_eq_none.mpr fun r hr hp =>
        (hu r hr).not_prefix_append (List.cons_ne_nil c u) (by simpa using hp)
    rw [List.cons_append, substAll_pass hnone,
      ih fun r hr => ((hu r hr).mono (Nat.zero_le 1)).cons]
    rfl

theorem prefix_of_find?_eq_some {s : List Char} {r : Rule}
    (h : rules.find? (fun r => r.token <+: s) = some r) : r ∈ rules ∧ r.token <+: s :=
  ⟨List.mem_of_find?_eq_some h, by simpa using List.find?_some h⟩

theorem OnlyWhole.drop {u t : List Char} (h : OnlyWhole u t) (n : Nat) : OnlyWhole (u.drop n) t :=
  fun k hk hc => by
    rw [List.drop_drop] at hc ⊢
    exact h (n + k) (by simp at hk; omega) hc

theorem substAll_append_of_onlyWhole {y : Rule} {u : List Char} (hu : OnlyWhole u y.token)
    (w : List Char) : substAll [y] (u ++ w) = substAll [y] u ++ substAll [y] w := by
  induction u using substAll.induct [y] with
  | case1 => simp
  | case2 c cs r h ih =>
    obtain ⟨hr, hp⟩ := prefix_of_find?_eq_some h
    obtain rfl : r = y := by simpa using hr
    have hw : [r].find? (fun r => r.token <+: c :: cs ++ w) = some r := by
      simpa using hp.trans (List.prefix_append _ w)
    rw [substAll_fire hw, substAll_fire h, List.drop_append_of_le_length hp.length_le,
      ih (hu.drop _), List.append_assoc]
  | case3 c cs h ih =>
    have hw : [y].find? (fun r => r.token <+: c :: (cs ++ w)) = none := by
      refine List.find?_eq_none.mpr fun r hr hp => ?_
      obtain rfl : r = y := by simpa using hr
      have hc := clash_of_prefix_append (by simpa using hp : r.token <+: (c :: cs) ++ w)
      exact List.find?_eq_none.mp h r (by simp) (by simpa using hu 0 (by simp) (by simpa using hc))
    rw [List.cons_append, substAll_pass hw, ih (hu.drop 1), substAll_pass h, List.cons_append]

theorem substAll_eq_or_split (s : List Char) :
    substAll rules s = s ∨ ∃ u x rest, x ∈ rules ∧ s = u ++ x.token ++ rest ∧
      substAll rules s = u ++ x.repl ++ substAll rules rest := by
  induction s using substAll.induct rules with
  | case1 => exact .inl substAll_nil
  | case2 c cs r h _ =>
    obtain ⟨hr, hp⟩ := prefix_of_find?_eq_some h
    exact .inr ⟨[], r, _, hr, (List.prefix_iff_eq_append.mp hp).symm, substAll_fire h⟩
  | case3 c cs h ih =>
    rw [substAll_pass h]
    rcases ih with ih | ⟨u, x, rest, hx, hs, he⟩
    · exact .inl (by rw [ih])
    · exact .inr ⟨c :: u, x, rest, hx, by simp [hs], by simp [he]⟩

theorem prefix_of_prefix_substAll {t : List Char} {c : Char} {cs : List Char}
    (ht : ∀ x ∈ rules, NoStartIn 1 t x.repl) (h : t <+: c :: substAll rules cs) :
    t <+: c :: cs := by
  rcases substAll_eq_or_split cs with he | ⟨u, x, rest, hx, rfl, he⟩
  · rwa [he] at h
  rw [he] at h
  by_cases hl : t.length ≤ u.length + 1
  · have hu : t <+: c :: u := List.prefix_of_prefix_length_le h (by simp) (by simpa using hl)
    exact hu.trans (by simp [List.append_assoc])
  · have hd := @drop_prefix_of_prefix_append t (c :: u) (x.repl ++ substAll rules rest)
      (by simpa using h) (by simp; omega)
    exact absurd (clash_of_prefix_append hd).symm (ht x hx _ (by simp) (by simp; omega))

end

section
variable {rules : List Rule} {y : Rule}

theorem substAll_single_substAll_nested (hsep : ∀ x ∈ rules, Nested x y) (s : List Char) :
    substAll [y] (substAll rules s) = substAll (rules.map (·.andThen y) ++ [y]) s := by
  have hfind (s : List Char) : (rules.map (·.andThen y)).find? (fun r => r.token <+: s) =
      (rules.find? (fun r => r.token <+: s)).map (·.andThen y) := List.find?_map _ _
  induction s using substAll.induct (rules.map (·.andThen y) ++ [y]) with
  | case1 => simp
  | case2 c cs x hx ih =>
    rw [substAll_fire hx, ← ih]
    rw [List.find?_append, hfind] at hx
    cases hr : rules.find? (fun r => r.token <+: c :: cs) with
    | some x' =>
      obtain rfl : x'.andThen y = x := by simpa [hr] using hx
      rw [substAll_fire hr, substAll_append_of_onlyWhole (hsep x' (prefix_of_find?_eq_some hr).1).1]
      rfl
    | none =>
      obtain ⟨hp, rfl⟩ : y.token <+: c :: cs ∧ y = x := by simpa [hr] using hx
      obtain ⟨a, t', ht'⟩ := List.exists_cons_of_ne_nil y.token_ne
      obtain ⟨rfl, ht⟩ := List.cons_prefix_cons.mp (ht' ▸ hp)
      have hquiet : ∀ r ∈ rules, NoStartIn 0 t' r.token := fun r hr =>
        (by simpa [ht'] using (hsep r hr).2.2 : NoStartIn 1 (_ :: t') r.token).cons
      rw [substAll_pass hr, ← List.prefix_iff_eq_append.mp ht,
        substAll_append_of_noStart hquiet, ← List.cons_append, ← ht',
        @substAll_fire _ _ y (by simp [List.prefix_append]), List.drop_left, ht']
      simp
  | case3 c cs h ih =>
    have hr : rules.find? (fun r => r.token <+: c :: cs) = none := by
      rw [List.find?_append, hfind] at h
      cases hr : rules.find? (fun r => r.token <+: c :: cs) <;> simp_all
    have hy0 : ¬ y.token <+: c :: cs := by simpa [List.find?_append, hfind, hr] using h
    have hy : ¬ y.token <+: c :: substAll rules cs := fun hp =>
      hy0 (prefix_of_prefix_substAll (fun x hx => (hsep x hx).2.1) hp)
    rw [substAll_pass hr, @substAll_pass [y] _ _ (by simpa using hy), ih, substAll_pass h]

theorem substAll_single_substAll (hsep : ∀ x ∈ rules, Separated x y) (s : List Char) :
    substAll [y] (substAll rules s) = substAll (rules ++ [y]) s := by
  have hkeep : ∀ x ∈ rules, x.andThen y = x := fun x hx => by
    have h := @substAll_append_of_noStart [y] x.repl (by simpa using (hsep x hx).1) []
    rw [List.append_nil, substAll_nil, List.append_nil] at h
    simp only [Rule.andThen, h]
  rw [substAll_single_substAll_nested fun x hx => ⟨fun k hk hc =>
      absurd hc ((hsep x hx).1 k (Nat.zero_le k) hk), (hsep x hx).2⟩,
    List.map_congr_left hkeep, List.map_id']

end

theorem chain_eq_substAll {rules : List Rule} (h : ∀ x ∈ rules, ∀ y ∈ rules, Separated x y)
    (s : List Char) : chain rules s = substAll rules s := by
  induction rules using List.reverseRecOn with
  | nil => exact (substAll_nil_rules s).symm
  | append_singleton rules y ih =>
    simp only [chain, List.foldl_append, List.foldl_cons, List.foldl_nil] at ih ⊢
    rw [ih fun x hx y hy => h x (by simp [hx]) y (by simp [hy]),
      substAll_single_substAll fun x hx => h x (by simp [hx]) y (by simp)]

theorem not_infix_substAll {rules : List Rule} (h : ∀ x ∈ rules, ∀ y ∈ rules, Separated x y)
    {y : Rule} (hy : y ∈ rules) (s : List Char) : ¬ y.token <:+: substAll rules s := by
  induction s using substAll.induct rules with
  | case1 => simpa using y.token_ne
  | case2 c cs x hx ih =>
    rw [substAll_fire hx]
    intro hi
    rcases infix_append_cases hi with hi | ⟨k, hk, hp⟩
    · exact ih hi
    · exact (h x (prefix_of_find?_eq_some hx).1 y hy).1 k (Nat.zero_le k) hk
        (clash_of_prefix_append hp)
  | case3 c cs hn ih =>
    rw [substAll_pass hn]
    intro hi
    rcases @infix_append_cases _ [c] _ hi with hi | ⟨k, hk, hp⟩
    · exact ih hi
    · obtain rfl : k = 0 := by simpa using hk
      have := prefix_of_prefix_substAll (fun x hx => (h x hx y hy).2.1) (by simpa using hp)
      exact List.find?_eq_none.mp hn y hy (decide_eq_true this)

theorem substAll_of_not_infix {rules : List Rule} {s : List Char}
    (h : ∀ r ∈ rules, ¬ r.token <:+: s) : substAll rules s = s := by
  induction s using substAll.induct rules with
  | case1 => simp
  | case2 c cs r hr _ =>
    obtain ⟨hmem, hp⟩ := prefix_of_find?_eq_some hr
    exact absurd hp.isInfix (h r hmem)
  | case3 c cs hn ih =>
    rw [substAll_pass hn, ih fun r hr hi => h r hr (hi.trans (List.suffix_cons c cs).isInfix)]

theorem find?_perm {α : Type} {p : α → Bool} {l l' : List α} (hp : l.Perm l')
    (hu : l.Pairwise fun a b => ¬ (p a ∧ p b)) : l.find? p = l'.find? p := by
  cases h : l.find? p with
  | none =>
    exact (List.find?_eq_none.mpr fun a ha => List.find?_eq_none.mp h a (hp.mem_iff.mpr ha)).symm
  | some a =>
    have ha := List.mem_of_find?_eq_some h
    obtain ⟨b, hb⟩ : ∃ b, l'.find? p = some b := Option.isSome_iff_exists.mp
      (List.find?_isSome.mpr ⟨a, hp.mem_iff.mp ha, List.find?_some h⟩)
    rw [hb]
    by_contra hab
    have hsymm : Symmetric fun a b => ¬ (p a ∧ p b) := fun _ _ h hba => h hba.symm
    exact hu.forall hsymm ha (hp.mem_iff.mpr (List.mem_of_find?_eq_some hb))
      (fun e => hab (congrArg some e)) ⟨List.find?_some h, List.find?_some hb⟩

theorem substAll_perm {rules rules' : List Rule} (hp : rules.Perm rules')
    (hd : rules.Pairwise fun x y => ¬ Clash x.token y.token) (s : List Char) :
    substAll rules s = substAll rules' s := by
  have hfind (s : List Char) : rules.find? (fun r => r.token <+: s) =
      rules'.find? (fun r => r.token <+: s) :=
    find?_perm hp (hd.imp fun hc ⟨ha, hb⟩ =>
      hc (List.prefix_or_prefix_of_prefix (of_decide_eq_true ha) (of_decide_eq_true hb)))
  induction s using substAll.induct rules with
  | case1 => simp
  | case2 c cs r h ih => rw [substAll_fire h, ih, substAll_fire ((hfind (c :: cs)).symm.trans h)]
  | case3 c cs h ih => rw [substAll_pass h, ih, substAll_pass ((hfind (c :: cs)).symm.trans h)]

theorem replaceScan_eq_substAll (r : Rule) (s : List Char) :
    replaceScan r.token r.repl 0 s = substAll [r] s := by
  induction s using substAll.induct [r] with
  | case1 => simp [replaceScan]
  | case2 c cs x hx ih =>
    obtain ⟨hxr, hp⟩ := prefix_of_find?_eq_some hx
    obtain rfl : x = r := by simpa using hxr
    obtain ⟨n, hn⟩ : ∃ n, x.token.length = n + 1 :=
      Nat.exists_eq_succ_of_ne_zero (by simpa using x.token_ne)
    have hlen : n ≤ cs.length := by simpa [hn] using hp.length_le
    rw [substAll_fire hx, ← ih, replaceScan, if_pos hp, hn, Nat.add_sub_cancel,
      replaceScan_skip _ _ _ _ hlen, List.drop_succ_cons]
  | case3 c cs hn ih =>
    rw [substAll_pass hn, ← ih, replaceScan, if_neg (by simpa using hn)]

theorem replace_data (s old new : String) (h : old.data ≠ []) :
    (replace s old new).data = substAll [⟨old.data, new.data, h⟩] s.data := by
  simp only [replace, h, if_false]
  exact replaceScan_eq_substAll ⟨old.data, new.data, h⟩ s.data

-- The arguments `(old, new)` of the `strings.Replace` call a rule stands for.
def Rule.call (r : Rule) : String × String := (⟨r.token⟩, ⟨r.repl⟩)

theorem replace_call_data (s : String) (r : Rule) :
    (replace s r.call.1 r.call.2).data = substAll [r] s.data :=
  replace_data s ⟨r.token⟩ ⟨r.repl⟩ r.token_ne

theorem substAll_ne_nil {rules : List Rule} (h : ∀ r ∈ rules, r.repl ≠ []) {s : List Char}
    (hs : s ≠ []) : substAll rules s ≠ [] := by
  cases s with
  | nil => exact absurd rfl hs
  | cons c cs =>
    cases hf : rules.find? (fun r => r.token <+: c :: cs) with
    | some r =>
      rw [substAll_fire hf]
      exact fun e => h r (prefix_of_find?_eq_some hf).1 (List.append_eq_nil.mp e).1
    | none => rw [substAll_pass hf]; exact List.cons_ne_nil _ _

theorem replace_ne_empty {s old new : String} (hs : s ≠ "") (hold : old ≠ "") (hnew : new ≠ "") :
    replace s old new ≠ "" := by
  have hold' : old.data ≠ [] := fun e => hold (String.ext e)
  intro e
  have := congrArg String.data e
  rw [replace_data s old new hold'] at this
  exact substAll_ne_nil (by simpa using fun e => hnew (String.ext e)) (fun e => hs (String.ext e)) this

end PhpBuildpack.Go
