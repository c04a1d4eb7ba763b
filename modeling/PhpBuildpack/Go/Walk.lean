import PhpBuildpack.Go.Fs

/-! `filepath.Walk` over a directory tree: the visits it makes, in order, and the walk as
its callback run on each visit until one returns an error. A successful run of calls
overwrites the files each call wrote, later calls hiding earlier ones (`forM_overwrites`). -/
namespace PhpBuildpack.Go

/-- What `os.Lstat` reports of an entry. -/
inductive Kind where
  | file
  | dir
  deriving DecidableEq

/-- A directory tree as `filepath.Walk` finds it: a file, a directory with the outcome of
reading its names, or an entry whose `Lstat` fails. -/
inductive Node where
  | file
  | dir (listing : Except GoError (List (String × Node)))
  | broken (err : GoError)

/-- One call of the walk function: the path, its `FileInfo` (`none` is a nil one) and the
error the walk reports with it. -/
structure Visit where
  path : FilePath
  info : Option Kind
  err : Option GoError

mutual
/-- The visits of `filepath.Walk` from `p`: a directory whose names cannot be read is
visited with that error and its contents are skipped; an entry whose `Lstat` fails is
visited with a nil `FileInfo`. -/
def Node.visits (p : FilePath) : Node → List Visit
  | .file => [⟨p, some .file, none⟩]
  | .broken e => [⟨p, none, some e⟩]
  | .dir (.error e) => [⟨p, some .dir, some e⟩]
  | .dir (.ok cs) => ⟨p, some .dir, none⟩ :: childVisits p cs

/-- The visits below the entries of a directory, in the order of its listing. -/
def childVisits (p : FilePath) : List (String × Node) → List Visit
  | [] => []
  | (n, c) :: cs => c.visits (p ++ [n]) ++ childVisits p cs
end

-- The visit without the error of a directory whose names could not be read.
def Visit.dropDirError (v : Visit) : Visit :=
  match v.info with
  | some .dir => { v with err := none }
  | _ => v

mutual
-- The tree with every directory whose names cannot be read taken as empty.
def Node.readable : Node → Node
  | .file => .file
  | .broken e => .broken e
  | .dir (.error _) => .dir (.ok [])
  | .dir (.ok cs) => .dir (.ok (readableChildren cs))

-- The entries of a directory, each made readable.
def readableChildren : List (String × Node) → List (String × Node)
  | [] => []
  | (n, c) :: cs => (n, c.readable) :: readableChildren cs
end

mutual
theorem Node.visits_readable (p : FilePath) :
    ∀ n : Node, n.readable.visits p = (n.visits p).map Visit.dropDirError
  | .file | .broken _ | .dir (.error _) => rfl
  | .dir (.ok cs) => by
    rw [Node.readable, Node.visits, Node.visits, childVisits_readable p cs]
    rfl

theorem childVisits_readable (p : FilePath) :
    ∀ cs, childVisits p (readableChildren cs) = (childVisits p cs).map Visit.dropDirError
  | [] => rfl
  | (n, c) :: cs => by
    rw [readableChildren, childVisits, childVisits, List.map_append, c.visits_readable,
      childVisits_readable p cs]
end

/-- `filepath.Walk(root, fn)`: `fn` runs on each visit in turn and the walk stops at the
first error it returns. The buildpack's callbacks never return `filepath.SkipDir`, so the
visits that follow do not depend on what `fn` returned before. -/
def walk (fn : Visit → GoCall Unit) (root : FilePath) (n : Node) : GoCall Unit :=
  (n.visits root).forM fn

mutual
theorem Node.prefix_of_mem_visits (p : FilePath) :
    ∀ (n : Node) {v : Visit}, v ∈ n.visits p → p <+: v.path
  | .file, _, h | .broken _, _, h | .dir (.error _), _, h => by
    simp [Node.visits] at h; simp [h]
  | .dir (.ok cs), v, h => by
    simp only [Node.visits, List.mem_cons] at h
    rcases h with rfl | h
    · exact List.prefix_refl _
    · exact prefix_of_mem_childVisits p cs h

theorem prefix_of_mem_childVisits (p : FilePath) :
    ∀ (cs : List (String × Node)) {v : Visit}, v ∈ childVisits p cs → p <+: v.path
  | [], _, h => by simp [childVisits] at h
  | (n, c) :: cs, v, h => by
    simp only [childVisits, List.mem_append] at h
    rcases h with h | h
    · exact (List.prefix_append p [n]).trans (c.prefix_of_mem_visits (p ++ [n]) h)
    · exact prefix_of_mem_childVisits p cs h
end

-- The effect of calls in sequence, each with its own effect.
def seqEffect {γ : Type} (eff : γ → Effect) : List γ → Effect
  | [] => fun _ => none
  | x :: xs => (eff x).andThen (seqEffect eff xs)

section
variable {γ : Type} {f : γ → GoCall Unit} {eff : γ → Effect}

theorem forM_overwrites :
    ∀ {l : List γ} {fs fs' : Fs},
      (∀ x ∈ l, ∀ fs fs', f x fs = (.ok (), fs') → Overwrites fs fs' (eff x)) →
      l.forM f fs = (.ok (), fs') → Overwrites fs fs' (seqEffect eff l)
  | [], fs, fs', _, h => by
    obtain rfl : fs = fs' := congrArg Prod.snd h
    exact Overwrites.rfl
  | x :: xs, fs, fs', hf, h => by
    obtain ⟨_, fs₁, h₁, h₂⟩ := GoCall.bind_eq_ok.mp h
    exact (hf x (List.mem_cons_self x xs) fs fs₁ h₁).trans
      (forM_overwrites (fun y hy => hf y (List.mem_cons_of_mem x hy)) h₂)

theorem forM_ok_of_mem :
    ∀ {l : List γ} {fs fs' : Fs}, l.forM f fs = (.ok (), fs') →
      ∀ x ∈ l, ∃ fs₁ fs₂, f x fs₁ = (.ok (), fs₂)
  | [], _, _, _, x, hx => absurd hx (List.not_mem_nil x)
  | y :: ys, fs, _, h, x, hx => by
    obtain ⟨_, fs₁, h₁, h₂⟩ := GoCall.bind_eq_ok.mp h
    rcases List.mem_cons.mp hx with rfl | hx
    · exact ⟨fs, fs₁, h₁⟩
    · exact forM_ok_of_mem h₂ x hx

theorem seqEffect_eq_some_mem {l : List γ} {q : FilePath} {d : String}
    (h : seqEffect eff l q = some d) : ∃ x ∈ l, eff x q = some d := by
  induction l with
  | nil => cases h
  | cons x xs ih =>
    simp only [seqEffect, Effect.andThen] at h
    cases hxs : seqEffect eff xs q with
    | some d' =>
      rw [hxs] at h
      obtain ⟨y, hy, e⟩ := ih (h ▸ hxs)
      exact ⟨y, List.mem_cons_of_mem x hy, e⟩
    | none =>
      rw [hxs, Option.none_or] at h
      exact ⟨x, List.mem_cons_self x xs, h⟩

theorem seqEffect_eq_none {l : List γ} {q : FilePath} (h : ∀ x ∈ l, eff x q = none) :
    seqEffect eff l q = none := by
  induction l with
  | nil => rfl
  | cons x xs ih =>
    simp only [seqEffect, Effect.andThen, h x (List.mem_cons_self x xs),
      ih fun y hy => h y (List.mem_cons_of_mem x hy), Option.none_or]

theorem seqEffect_eq_some {l : List γ} {q : FilePath} {d : String}
    (h : ∀ x ∈ l, eff x q = none ∨ eff x q = some d) (hw : ∃ x ∈ l, eff x q = some d) :
    seqEffect eff l q = some d := by
  induction l with
  | nil => simp at hw
  | cons x xs ih =>
    have h' : ∀ y ∈ xs, eff y q = none ∨ eff y q = some d := fun y hy =>
      h y (List.mem_cons_of_mem x hy)
    simp only [seqEffect, Effect.andThen]
    by_cases hxs : ∃ y ∈ xs, eff y q = some d
    · rw [ih h' hxs]; rfl
    · rw [seqEffect_eq_none fun y hy => (h' y hy).resolve_right fun e => hxs ⟨y, hy, e⟩]
      obtain ⟨y, hy, e⟩ := hw
      rcases List.mem_cons.mp hy with rfl | hy
      · simpa using e
      · exact absurd ⟨y, hy, e⟩ hxs

theorem seqEffect_eq_of_mem {l : List γ} {q : FilePath} {x : γ} (hx : x ∈ l)
    (h : ∀ y ∈ l, eff y q = none ∨ eff y q = eff x q) : seqEffect eff l q = eff x q := by
  cases hxq : eff x q with
  | none => exact seqEffect_eq_none fun y hy => (h y hy).elim id (·.trans hxq)
  | some d => exact seqEffect_eq_some (fun y hy => hxq ▸ h y hy) ⟨x, hx, hxq⟩

theorem forM_map_eq {δ : Type} {l : List δ} {g : δ → γ} {f' : δ → GoCall Unit}
    (h : ∀ x ∈ l, f (g x) = f' x) : (l.map g).forM f = l.forM f' := by
  induction l with
  | nil => rfl
  | cons x xs ih =>
    simp only [List.map_cons, List.forM_cons', h x (List.mem_cons_self x xs),
      ih fun y hy => h y (List.mem_cons_of_mem x hy)]

end

end PhpBuildpack.Go
