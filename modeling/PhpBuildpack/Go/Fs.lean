import Mathlib.Logic.Function.Basic
import Mathlib.Data.List.Infix

/-! The output side of the file system: a path is the list of its components, the tree
maps paths to files and directories, and a call that writes into it (`GoCall`) ends with a
value, a returned error or a panic, keeping whatever it wrote before it stopped. -/
namespace PhpBuildpack.Go

/-- A cleaned path, as its components: `filepath.Join` is concatenation. -/
abbrev FilePath := List String

/-- A Go `error`, by what the buildpack's code shows of it. -/
inductive GoError where
  /-- An error produced outside the model (a reader, a parser, a collaborator). -/
  | other (text : String)
  /-- An `*os.PathError`. -/
  | pathError (op : String) (path : FilePath) (reason : String)
  deriving DecidableEq

/-- How a Go call stops early: it returns a non-nil error, or it panics. -/
inductive Fault where
  | error (e : GoError)
  | panic (reason : String)
  deriving DecidableEq

/-- An entry of the output tree. -/
inductive Entry where
  | file (data : String)
  | dir
  deriving DecidableEq

/-- The file system the buildpack writes into. -/
def Fs := FilePath → Option Entry

def Fs.fileAt (fs : Fs) (p : FilePath) : Option String :=
  match fs p with
  | some (.file d) => some d
  | _ => none

def Fs.set (fs : Fs) (p : FilePath) (e : Option Entry) : Fs := Function.update fs p e

/-- A call that may write into the file system. -/
def GoCall (α : Type) : Type := Fs → Except Fault α × Fs

namespace GoCall

instance : Monad GoCall where
  pure a fs := (.ok a, fs)
  bind x f fs := match x fs with
    | (.ok a, fs') => f a fs'
    | (.error e, fs') => (.error e, fs')

/-- Stops with `e`. -/
def fail {α : Type} (e : Fault) : GoCall α := fun fs => (.error e, fs)

/-- A call that cannot write: its error, if any, is returned. -/
def ofExcept {α : Type} : Except GoError α → GoCall α
  | .ok a => pure a
  | .error e => fail (.error e)

variable {α β : Type}

@[simp] theorem pure_apply (a : α) (fs : Fs) : (pure a : GoCall α) fs = (.ok a, fs) := rfl

@[simp] theorem fail_apply (e : Fault) (fs : Fs) : (fail e : GoCall α) fs = (.error e, fs) := rfl

theorem bind_apply (x : GoCall α) (f : α → GoCall β) (fs : Fs) :
    (x >>= f) fs = match x fs with
      | (.ok a, fs') => f a fs'
      | (.error e, fs') => (.error e, fs') := rfl

theorem bind_eq_ok {x : GoCall α} {f : α → GoCall β} {fs fs'' : Fs} {b : β} :
    (x >>= f) fs = (.ok b, fs'') ↔ ∃ a fs', x fs = (.ok a, fs') ∧ f a fs' = (.ok b, fs'') := by
  rw [bind_apply]
  rcases x fs with ⟨_ | a, fs'⟩
  · simp
  · exact ⟨fun h => ⟨a, fs', rfl, h⟩, fun ⟨_, _, he, h⟩ => by cases he; exact h⟩

theorem bind_of_ok {x : GoCall α} {f : α → GoCall β} {fs fs' : Fs} {a : α}
    (h : x fs = (.ok a, fs')) : (x >>= f) fs = f a fs' := by
  rw [bind_apply, h]

theorem bind_of_error {x : GoCall α} {f : α → GoCall β} {fs fs' : Fs} {e : Fault}
    (h : x fs = (.error e, fs')) : (x >>= f) fs = (.error e, fs') := by
  rw [bind_apply, h]

theorem ofExcept_eq_ok {x : Except GoError α} {a : α} {fs fs' : Fs}
    (h : ofExcept x fs = (.ok a, fs')) : x = .ok a ∧ fs' = fs := by
  cases x <;> simp_all [ofExcept]

/-- A computation that cannot write, with its returned error or panic. -/
def ofFault {α : Type} : Except Fault α → GoCall α
  | .ok a => pure a
  | .error f => fail f

end GoCall

namespace Except
variable {ε α β : Type}

theorem bind_eq_ok {x : Except ε α} {f : α → Except ε β} {b : β} :
    x >>= f = .ok b ↔ ∃ a, x = .ok a ∧ f a = .ok b := by
  cases x <;> simp [bind, Except.bind]

theorem bind_eq_error {x : Except ε α} {f : α → Except ε β} {e : ε} :
    x >>= f = .error e ↔ x = .error e ∨ ∃ a, x = .ok a ∧ f a = .error e := by
  cases x <;> simp [bind, Except.bind]

end Except

open GoCall

/-- `os.MkdirAll(p, 0755)`: `p` and each ancestor must be a directory or absent, and the
absent ones become directories; a file on the way is `ENOTDIR`. -/
def mkdirAll (p : FilePath) : GoCall Unit := fun fs =>
  match p.inits.tail.find? (fun q => (fs.fileAt q).isSome) with
  | some q => (.error (.error (.pathError "mkdir" q "not a directory")), fs)
  | none => (.ok (), fun q => if q ∈ p.inits.tail ∧ fs q = none then some .dir else fs q)

/-- `os.Create(p)`: truncates or creates the file `p`; a directory there is `EISDIR`. -/
def create (p : FilePath) : GoCall Unit := fun fs =>
  if p = [] ∨ fs p = some .dir then (.error (.error (.pathError "open" p "is a directory")), fs)
  else (.ok (), fs.set p (some (.file "")))

/-- A write of `data` through the handle of the file `p`. -/
def writeHandle (p : FilePath) (data : String) : GoCall Unit := fun fs =>
  match fs.fileAt p with
  | some d => (.ok (), fs.set p (some (.file (d ++ data))))
  | none => (.error (.error (.pathError "write" p "file already closed")), fs)

/-- `ioutil.WriteFile(p, data, perm)`: `p` truncated or created, then `data` written. -/
def writeFile (p : FilePath) (data : String) : GoCall Unit := do
  create p
  writeHandle p data

/-- `ioutil.ReadFile(p)`: the contents of the file `p`; a directory or a missing path is an
`*os.PathError`. -/
def readFile (p : FilePath) : GoCall String := fun fs =>
  match fs p with
  | some (.file d) => (.ok d, fs)
  | some .dir => (.error (.error (.pathError "read" p "is a directory")), fs)
  | none => (.error (.error (.pathError "open" p "no such file or directory")), fs)

theorem readFile_eq_ok {p : FilePath} {d : String} {fs fs' : Fs}
    (h : readFile p fs = (.ok d, fs')) : fs.fileAt p = some d ∧ fs' = fs := by
  unfold readFile at h
  split at h <;> simp_all [Fs.fileAt]

-- What a run overwrote.
abbrev Effect := FilePath → Option String

-- `fs'` is `fs` with the files `eff` names overwritten, every other file as before.
def Overwrites (fs fs' : Fs) (eff : Effect) : Prop :=
  ∀ q, fs'.fileAt q = (eff q).or (fs.fileAt q)

-- Effects in sequence.
def Effect.andThen (e₁ e₂ : Effect) : Effect := fun q => (e₂ q).or (e₁ q)

@[simp] theorem Effect.none_andThen (e : Effect) : Effect.andThen (fun _ => none) e = e :=
  funext fun _ => Option.or_none

-- Writing `d` to the file `p` and nothing else.
def Effect.single (p : FilePath) (d : String) : Effect := fun q => if q = p then some d else none

@[simp] theorem Fs.fileAt_set_self (fs : Fs) (p : FilePath) (d : String) :
    (fs.set p (some (.file d))).fileAt p = some d := by
  simp [Fs.fileAt, Fs.set]

theorem Fs.fileAt_set_ne (fs : Fs) {p q : FilePath} (v : Option Entry) (h : q ≠ p) :
    (fs.set p v).fileAt q = fs.fileAt q := by
  simp [Fs.fileAt, Fs.set, Function.update_noteq h]

section
variable {fs fs₁ fs₂ : Fs} {e₁ e₂ : Effect}

theorem Overwrites.rfl : Overwrites fs fs fun _ => none := fun _ => Eq.refl _

theorem Overwrites.trans (h₁ : Overwrites fs fs₁ e₁) (h₂ : Overwrites fs₁ fs₂ e₂) :
    Overwrites fs fs₂ (e₁.andThen e₂) := fun q => by
  rw [h₂ q, h₁ q, Effect.andThen, Option.or_assoc]

theorem mkdirAll_overwrites {p : FilePath} (h : mkdirAll p fs = (.ok (), fs₁)) :
    Overwrites fs fs₁ fun _ => none := fun q => by
  unfold mkdirAll at h
  split at h
  · cases h
  · cases h
    simp only [Fs.fileAt, Option.none_or]
    split_ifs with hq
    · simp [hq.2]
    · rfl

theorem create_overwrites {p : FilePath} (h : create p fs = (.ok (), fs₁)) :
    Overwrites fs fs₁ (Effect.single p "") := fun q => by
  unfold create at h
  split_ifs at h
  · simp at h
  · simp only [Prod.mk.injEq, true_and] at h
    subst h
    by_cases hq : q = p
    · subst hq; simp [Effect.single]
    · simp [Effect.single, hq, Fs.fileAt_set_ne _ _ hq]

theorem create_write_overwrites {p : FilePath} {d : String} (h₁ : create p fs = (.ok (), fs₁))
    (h₂ : writeHandle p d fs₁ = (.ok (), fs₂)) : Overwrites fs fs₂ (Effect.single p d) := by
  have hc := create_overwrites h₁
  have hp : fs₁.fileAt p = some "" := by simpa [Effect.single] using hc p
  simp only [writeHandle, hp, Prod.mk.injEq, true_and] at h₂
  subst h₂
  intro q
  by_cases hq : q = p
  · subst hq; simp [Effect.single, String.ext_iff]
  · simpa [Effect.single, hq, Fs.fileAt_set_ne _ _ hq] using hc q

theorem writeFile_overwrites {p : FilePath} {d : String} (h : writeFile p d fs = (.ok (), fs₂)) :
    Overwrites fs fs₂ (Effect.single p d) := by
  obtain ⟨_, fs₁, h₁, h₂⟩ := GoCall.bind_eq_ok.mp h
  exact create_write_overwrites h₁ h₂

theorem writeFile_fileAt {p : FilePath} {d : String} (h : writeFile p d fs = (.ok (), fs₂)) :
    fs₂.fileAt p = some d := by
  simpa [Effect.single] using writeFile_overwrites h p

end

-- The footprint of a call.
def WritesWithin {α : Type} (x : GoCall α) (W : FilePath → Prop) : Prop :=
  ∀ fs q, ¬ W q → (x fs).2.fileAt q = fs.fileAt q

section
variable {α β : Type} {W W' : FilePath → Prop}

theorem WritesWithin.mono {x : GoCall α} (h : WritesWithin x W) (hW : ∀ q, W q → W' q) :
    WritesWithin x W' := fun fs q hq => h fs q (mt (hW q) hq)

theorem WritesWithin.frame {x : GoCall α} (h : WritesWithin x W) {fs fs' : Fs}
    {r : Except Fault α} (hx : x fs = (r, fs')) {q : FilePath} (hq : ¬ W q) :
    fs'.fileAt q = fs.fileAt q := by
  simpa only [hx] using h fs q hq

theorem WritesWithin.bind {x : GoCall α} {f : α → GoCall β} (hx : WritesWithin x W)
    (hf : ∀ a, WritesWithin (f a) W) : WritesWithin (x >>= f) W := fun fs q hq => by
  have h := hx fs q hq
  rw [GoCall.bind_apply]
  revert h
  cases x fs with
  | mk r fs' =>
    cases r with
    | error e => exact id
    | ok a => exact (hf a fs' q hq).trans

theorem writesWithin_pure (a : α) : WritesWithin (pure a : GoCall α) W := fun _ _ _ => rfl

theorem writesWithin_fail (e : Fault) : WritesWithin (GoCall.fail e : GoCall α) W :=
  fun _ _ _ => rfl

theorem writesWithin_ofExcept (x : Except GoError α) : WritesWithin (GoCall.ofExcept x) W := by
  cases x <;> exact fun _ _ _ => rfl

theorem writesWithin_ofFault (x : Except Fault α) : WritesWithin (GoCall.ofFault x) W := by
  cases x <;> exact fun _ _ _ => rfl

theorem writesWithin_forM {l : List α} {f : α → GoCall PUnit}
    (hf : ∀ a ∈ l, WritesWithin (f a) W) : WritesWithin (l.forM f) W := by
  induction l with
  | nil => exact writesWithin_pure _
  | cons a l ih =>
    exact (hf a (List.mem_cons_self a l)).bind fun _ =>
      ih fun b hb => hf b (List.mem_cons_of_mem a hb)

theorem writesWithin_mkdirAll (p : FilePath) : WritesWithin (mkdirAll p) W := fun fs q _ => by
  rcases h : mkdirAll p fs with ⟨_ | ⟨⟩, fs'⟩
  · unfold mkdirAll at h
    split at h <;> cases h
    rfl
  · simpa using mkdirAll_overwrites h q

theorem writesWithin_create (p : FilePath) : WritesWithin (create p) (· = p) := fun fs q hq => by
  unfold create
  split_ifs
  · rfl
  · exact Fs.fileAt_set_ne fs _ hq

theorem writesWithin_writeHandle (p : FilePath) (d : String) :
    WritesWithin (writeHandle p d) (· = p) := fun fs q hq => by
  unfold writeHandle
  split
  · exact Fs.fileAt_set_ne fs _ hq
  · rfl

theorem writesWithin_writeFile (p : FilePath) (d : String) :
    WritesWithin (writeFile p d) (· = p) :=
  (writesWithin_create p).bind fun _ => writesWithin_writeHandle p d

theorem writesWithin_readFile (p : FilePath) : WritesWithin (readFile p) W := fun fs q _ => by
  unfold readFile
  split <;> rfl

end

end PhpBuildpack.Go
