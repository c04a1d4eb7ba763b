import Mathlib.Data.List.Basic

/-! `fmt.Sprintf` for the buildpack's formats, whose only verb is `%s`, with string
arguments. A verb with no argument left prints `%!s(MISSING)`; arguments left over after
the last verb are listed after the text as `%!(EXTRA string=a, string=b)`. -/
namespace PhpBuildpack.Go

/-- The text of a format with its verbs `%s` filled in order from `args`, and the arguments
no verb used. -/
def fill : List Char → List String → List Char × List String
  | [], as => ([], as)
  | '%' :: 's' :: cs, a :: as => let r := fill cs as; (a.data ++ r.1, r.2)
  | '%' :: 's' :: cs, [] => let r := fill cs []; ("%!s(MISSING)".data ++ r.1, r.2)
  | c :: cs, as => let r := fill cs as; (c :: r.1, r.2)

/-- `fmt.Sprintf(format, args...)` for a format whose only verb is `%s`, with string
arguments. -/
def sprintf (format : String) (args : List String) : String :=
  match fill format.data args with
  | (text, []) => ⟨text⟩
  | (text, extra) =>
    ⟨text⟩ ++ "%!(EXTRA " ++ ", ".intercalate (extra.map ("string=" ++ ·)) ++ ")"

-- The number of verbs `%s` of a format.
def verbs : List Char → Nat
  | [] => 0
  | '%' :: 's' :: cs => verbs cs + 1
  | _ :: cs => verbs cs

theorem fill_append_args (l : List Char) (as bs : List String) (h : verbs l ≤ as.length) :
    fill l (as ++ bs) = ((fill l as).1, (fill l as).2 ++ bs) := by
  induction l, as using fill.induct with
  | case1 as => rfl
  | case2 cs a as ih =>
    rw [verbs, List.length_cons] at h
    rw [List.cons_append, fill.eq_2, fill.eq_2, ih (by omega)]
  | case3 cs ih => simp [verbs] at h
  | case4 c cs as h₁ h₂ ih =>
    have hv : ¬ (c = '%' ∧ ∃ cs', cs = 's' :: cs') := by
      rintro ⟨hc, cs', rfl⟩
      cases as with
      | nil => exact h₂ cs' hc rfl rfl
      | cons a as => exact h₁ cs' a as hc rfl rfl
    have hcs : verbs (c :: cs) = verbs cs := verbs.eq_3 c cs fun cs' hc e => hv ⟨hc, cs', e⟩
    rw [fill.eq_4 (as ++ bs) c cs (fun cs' _ _ hc e _ => hv ⟨hc, cs', e⟩)
      (fun cs' hc e _ => hv ⟨hc, cs', e⟩), fill.eq_4 as c cs h₁ h₂, ih (hcs ▸ h)]

theorem getLast?_ne_of_cons {c x : Char} {cs : List Char} (h : (c :: cs).getLast? ≠ some x) :
    cs.getLast? ≠ some x := by
  cases cs with
  | nil => simp
  | cons c' cs => simpa [List.getLast?_cons_cons] using h

theorem fill_append (p q : List Char) (as : List String) (hp : p.getLast? ≠ some '%') :
    fill (p ++ q) as = ((fill p as).1 ++ (fill q (fill p as).2).1, (fill q (fill p as).2).2) := by
  induction p, as using fill.induct with
  | case1 as => rfl
  | case2 cs a as ih =>
    have hcs := getLast?_ne_of_cons (getLast?_ne_of_cons hp)
    rw [List.cons_append, List.cons_append, fill.eq_2, fill.eq_2, ih hcs, List.append_assoc]
  | case3 cs ih =>
    have hcs := getLast?_ne_of_cons (getLast?_ne_of_cons hp)
    rw [List.cons_append, List.cons_append, fill.eq_3, fill.eq_3, ih hcs, List.append_assoc]
  | case4 c cs as h₁ h₂ ih =>
    have hcs := getLast?_ne_of_cons hp
    have hne : ∀ cs', c = '%' → cs ++ q ≠ 's' :: cs' := by
      rintro cs' rfl e
      cases cs with
      | nil => simp at hp
      | cons c' cs =>
        obtain ⟨rfl, rfl⟩ := List.cons_eq_cons.mp e
        cases as with
        | nil => exact h₂ cs rfl rfl rfl
        | cons a as => exact h₁ cs a as rfl rfl rfl
    rw [List.cons_append, fill.eq_4 as c (cs ++ q) (fun cs' _ _ hc e _ => hne cs' hc e)
      (fun cs' hc e _ => hne cs' hc e), fill.eq_4 as c cs h₁ h₂, ih hcs, List.cons_append]

end PhpBuildpack.Go
