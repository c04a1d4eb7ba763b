import PhpBuildpack.Supply.Handler
import PhpBuildpack.Supply.Version
import Mathlib.Data.List.ProdSigma

/-! `WriteConfigFiles`: the default templates of the embedded `config` box and then the
application's overrides under `.bp-config` are walked with the handler, which renders each
template into the run tree under `DepDir` and into the staging tree under `/tmp/php_etc`.
A run that succeeds leaves in each output directory the override of every template the
walk of the override tree reaches, and the default of every other: the templates inside an
override directory that cannot be listed are never reached, and their defaults stay. -/
namespace PhpBuildpack.Supply
open Go

/-- The embedded `config` box: the tree `box.Walk` finds under a path, or the error of
opening it, and `box.Bytes`. The box is compiled into the buildpack, so its walk makes the
visits of `filepath.Walk`. -/
structure Box where
  find : FilePath → Except GoError Node
  bytes : FilePath → Except GoError String

/-- The application's files as `WriteConfigFiles` reads them: `libbuildpack.FileExists`,
the tree `filepath.Walk` finds under a path, and `ioutil.ReadFile`. The run writes
elsewhere, so its walks see the files as they were. -/
structure AppFiles where
  fileExists : FilePath → Except GoError Bool
  tree : FilePath → Node
  readFile : FilePath → Except GoError String

/-- The orders one run ranges over its maps in: the contexts', the two loops over template
trees, and the handler's loop over the output trees, which may change from call to call and
is given per visited path. -/
structure WriteOrders where
  contexts : ContextOrders
  boxes : RangeOrder (FilePath × FilePath)
  overrides : RangeOrder (FilePath × FilePath)
  targets : FilePath → RangeOrder (FilePath × GoMap String String)

/-- `box.Walk(src, fn)`: opening `src` fails before any call, or its tree is walked. -/
def boxWalk (box : Box) (fn : Visit → GoCall Unit) (src : FilePath) : GoCall Unit :=
  match box.find src with
  | .ok n => walk fn src n
  | .error e => GoCall.fail (.error e)

/-- The default template trees in the box, each with its output directory. -/
def boxDirs (phpVersionLine : String) : GoMap FilePath FilePath :=
  GoMap.ofList [(["php", phpVersionLine], ["php", "etc"]), (["httpd"], ["httpd", "conf"])]

/-- The override trees under the build directory, each with its output directory. -/
def overrideDirs (s : Supplier) : GoMap FilePath FilePath :=
  GoMap.ofList [(s.stager.buildDir ++ [".bp-config", "php"], ["php", "etc"]),
    (s.stager.buildDir ++ [".bp-config", "httpd"], ["httpd", "conf"])]

/-- One turn of the loop over the override trees: a tree that exists is walked. -/
def walkOverride (app : AppFiles) (fn : FilePath → FilePath → Visit → GoCall Unit)
    (srcDest : FilePath × FilePath) : GoCall Unit := do
  let found ← GoCall.ofExcept (app.fileExists srcDest.1)
  if found then walk (fn srcDest.1 srcDest.2) srcDest.1 (app.tree srcDest.1) else pure ()

variable {Tmpl : Type}

/-- `Supplier.WriteConfigFiles`. -/
def writeConfigFiles (eng : TextTemplate Tmpl) (box : Box) (app : AppFiles) (ω : WriteOrders)
    (s : Supplier) : GoCall Unit := do
  let tgts := targets s (ctxRun ω.contexts s) (ctxStage ω.contexts s)
  let phpVersionLine ← match versionLine s.phpVersion with
    | some l => pure l
    | none => GoCall.fail (.panic "index out of range")
  ((boxDirs phpVersionLine).range ω.boxes).forM fun srcDest =>
    boxWalk box (handler eng tgts ω.targets srcDest.1 srcDest.2 box.bytes) srcDest.1
  ((overrideDirs s).range ω.overrides).forM
    (walkOverride app fun src dest => handler eng tgts ω.targets src dest app.readFile)

-- The output directories.
def outputDirs (depDir : FilePath) : List (FilePath × FilePath) :=
  [(depDir, ["php", "etc"]), (depDir, ["httpd", "conf"]), (["tmp", "php_etc"], ["php", "etc"]),
    (["tmp", "php_etc"], ["httpd", "conf"])]

-- One path is the other or lies inside it.
def Nested (a b : FilePath) : Prop := a <+: b ∨ b <+: a

instance (a b : FilePath) : Decidable (Nested a b) := inferInstanceAs (Decidable (_ ∨ _))

-- The four output directories are distinct and none lies inside another.
def OutputDirsApart (depDir : FilePath) : Prop :=
  (outputDirs depDir).Pairwise fun x y => ¬ Nested (x.1 ++ x.2) (y.1 ++ y.2)

instance (depDir : FilePath) : Decidable (OutputDirsApart depDir) :=
  inferInstanceAs (Decidable (List.Pairwise _ _))

theorem OutputDirsApart.eq {depDir : FilePath} (h : OutputDirsApart depDir)
    {x y : FilePath × FilePath} (hx : x ∈ outputDirs depDir) (hy : y ∈ outputDirs depDir)
    {P P' : FilePath} (e : x.1 ++ x.2 ++ P = y.1 ++ y.2 ++ P') : x = y ∧ P = P' := by
  have hn : Nested (x.1 ++ x.2) (y.1 ++ y.2) := List.prefix_or_prefix_of_prefix ⟨P, e⟩ ⟨P', rfl⟩
  have hsymm : Symmetric fun x y : FilePath × FilePath => ¬ Nested (x.1 ++ x.2) (y.1 ++ y.2) :=
    fun _ _ hxy hyx => hxy (Or.symm hyx)
  obtain rfl : x = y := by_contra fun hne => h.forall hsymm hx hy hne hn
  exact ⟨rfl, List.append_cancel_left e⟩

theorem targets_get (s : Supplier) (run stage : GoMap String String) (b : FilePath) :
    (targets s run stage).get b =
      if b = ["tmp", "php_etc"] then some stage else if b = s.stager.depDir then some run
      else none := by
  simp only [targets, GoMap.ofList, List.foldl_cons, List.foldl_nil, GoMap.get_set,
    GoMap.get_empty]

theorem outputDirs_mem_of_targets {s : Supplier} {run stage : GoMap String String}
    {b : FilePath} {ctx : GoMap String String} (hb : (targets s run stage).get b = some ctx)
    {d : FilePath} (hd : d = ["php", "etc"] ∨ d = ["httpd", "conf"]) :
    (b, d) ∈ outputDirs s.stager.depDir := by
  rw [targets_get] at hb
  split_ifs at hb <;> rcases hd with rfl | rfl <;> simp_all [outputDirs]

theorem mem_boxDirs_range {l : String} {σ : RangeOrder (FilePath × FilePath)}
    {x : FilePath × FilePath} :
    x ∈ (boxDirs l).range σ ↔ x = (["php", l], ["php", "etc"]) ∨ x = (["httpd"], ["httpd", "conf"]) := by
  obtain ⟨k, d⟩ := x
  simp only [GoMap.mem_range, boxDirs, GoMap.ofList, List.foldl_cons, List.foldl_nil,
    GoMap.get_set, GoMap.get_empty, Prod.mk.injEq]
  split_ifs with h₁ h₂ <;> simp_all [eq_comm]

theorem mem_overrideDirs_range {s : Supplier} {σ : RangeOrder (FilePath × FilePath)}
    {x : FilePath × FilePath} :
    x ∈ (overrideDirs s).range σ ↔
      x = (s.stager.buildDir ++ [".bp-config", "php"], ["php", "etc"]) ∨
        x = (s.stager.buildDir ++ [".bp-config", "httpd"], ["httpd", "conf"]) := by
  obtain ⟨k, d⟩ := x
  simp only [GoMap.mem_range, overrideDirs, GoMap.ofList, List.foldl_cons, List.foldl_nil,
    GoMap.get_set, GoMap.get_empty, Prod.mk.injEq]
  split_ifs with h₁ h₂ <;> simp_all [eq_comm]

-- What a completed turn of the loop over the box's trees writes.
def boxEffect (eng : TextTemplate Tmpl) (tgts : GoMap FilePath (GoMap String String))
    (σ : FilePath → RangeOrder (FilePath × GoMap String String)) (box : Box)
    (srcDest : FilePath × FilePath) : Effect :=
  match box.find srcDest.1 with
  | .ok n => walkEffect eng tgts σ srcDest.1 srcDest.2 box.bytes n
  | .error _ => fun _ => none

-- What a completed turn of the loop over the override trees writes.
def overrideEffect (eng : TextTemplate Tmpl) (tgts : GoMap FilePath (GoMap String String))
    (σ : FilePath → RangeOrder (FilePath × GoMap String String)) (app : AppFiles)
    (srcDest : FilePath × FilePath) : Effect :=
  match app.fileExists srcDest.1 with
  | .ok true => walkEffect eng tgts σ srcDest.1 srcDest.2 app.readFile (app.tree srcDest.1)
  | _ => fun _ => none

section
variable {eng : TextTemplate Tmpl} {tgts : GoMap FilePath (GoMap String String)}
  {σ : FilePath → RangeOrder (FilePath × GoMap String String)} {fs fs' : Fs}

theorem boxWalk_ok {box : Box} {src dest : FilePath}
    (h : boxWalk box (handler eng tgts σ src dest box.bytes) src fs = (.ok (), fs')) :
    ∃ n, box.find src = .ok n ∧ Overwrites fs fs' (boxEffect eng tgts σ box (src, dest)) ∧
      TemplatesLoad eng src box.bytes n := by
  unfold boxWalk at h
  cases hn : box.find src with
  | error e => simp [hn] at h
  | ok n =>
    rw [hn] at h
    obtain ⟨hw, hl⟩ := walk_handler_ok h
    exact ⟨n, rfl, by simpa only [boxEffect, hn] using hw, hl⟩

theorem walkOverride_ok {app : AppFiles} {src dest : FilePath}
    (h : walkOverride app (fun src dest => handler eng tgts σ src dest app.readFile) (src, dest) fs =
      (.ok (), fs')) :
    Overwrites fs fs' (overrideEffect eng tgts σ app (src, dest)) ∧
      ∃ found, app.fileExists src = .ok found ∧
        (found = true → TemplatesLoad eng src app.readFile (app.tree src)) := by
  obtain ⟨found, fs₁, h₁, h₂⟩ := GoCall.bind_eq_ok.mp h
  obtain ⟨hex, rfl⟩ := GoCall.ofExcept_eq_ok h₁
  cases found with
  | false =>
    obtain rfl : fs' = fs₁ := (congrArg Prod.snd h₂).symm
    exact ⟨by simpa only [overrideEffect, hex] using Overwrites.rfl, false, hex, nofun⟩
  | true =>
    obtain ⟨hw, hl⟩ := walk_handler_ok h₂
    exact ⟨by simpa only [overrideEffect, hex] using hw, true, hex, fun _ => hl⟩

theorem boxEffect_eq_some {box : Box} {y : FilePath × FilePath} {q : FilePath} {d : String}
    (he : boxEffect eng tgts σ box y q = some d) :
    ∃ b ctx P, tgts.get b = some ctx ∧ q = b ++ y.2 ++ P := by
  cases hn : box.find y.1 with
  | ok n => simp only [boxEffect, hn] at he; exact walkEffect_eq_some he
  | error e => simp [boxEffect, hn] at he

theorem overrideEffect_eq_some {app : AppFiles} {y : FilePath × FilePath} {q : FilePath}
    {d : String} (he : overrideEffect eng tgts σ app y q = some d) :
    ∃ b ctx P, tgts.get b = some ctx ∧ q = b ++ y.2 ++ P := by
  rcases hex : app.fileExists y.1 with e | _ | _
  · simp [overrideEffect, hex] at he
  · simp [overrideEffect, hex] at he
  · simp only [overrideEffect, hex] at he; exact walkEffect_eq_some he

end

-- What the box's tree `src` puts at `P` of an output tree with context `ctx`.
def boxOutput (eng : TextTemplate Tmpl) (box : Box) (src : FilePath) (ctx : GoMap String String)
    (P : FilePath) : Option String :=
  match box.find src with
  | .ok n => treeOutput eng box.bytes src n ctx P
  | .error _ => none

-- What the override tree `src`, if it exists, puts at `P` of an output tree with context `ctx`.
def overrideOutput (eng : TextTemplate Tmpl) (app : AppFiles) (src : FilePath)
    (ctx : GoMap String String) (P : FilePath) : Option String :=
  match app.fileExists src with
  | .ok true => treeOutput eng app.readFile src (app.tree src) ctx P
  | _ => none

section
variable {s : Supplier} {run stage : GoMap String String}

theorem targets_uniq (hapart : OutputDirsApart s.stager.depDir) {dest : FilePath}
    (hd : dest = ["php", "etc"] ∨ dest = ["httpd", "conf"]) {b b' : FilePath}
    {ctx ctx' : GoMap String String} {P P' : FilePath}
    (hb : (targets s run stage).get b = some ctx) (hb' : (targets s run stage).get b' = some ctx')
    (e : b ++ dest ++ P = b' ++ dest ++ P') : b = b' ∧ P = P' := by
  obtain ⟨hbb, hP⟩ := hapart.eq (outputDirs_mem_of_targets hb hd)
    (outputDirs_mem_of_targets hb' hd) e
  exact ⟨congrArg Prod.fst hbb, hP⟩

theorem dests_of_two {L : List (FilePath × FilePath)} {a a' : FilePath}
    (hL : ∀ y ∈ L, y = (a, ["php", "etc"]) ∨ y = (a', ["httpd", "conf"])) :
    (∀ y ∈ L, y.2 = ["php", "etc"] ∨ y.2 = ["httpd", "conf"]) ∧
      ∀ y ∈ L, ∀ y' ∈ L, y.2 = y'.2 → y = y' :=
  ⟨fun y hy => by rcases hL y hy with rfl | rfl <;> simp,
    fun y hy y' hy' _ => by
      rcases hL y hy with rfl | rfl <;> rcases hL y' hy' with rfl | rfl <;> simp_all⟩

theorem seqEffect_trees (hapart : OutputDirsApart s.stager.depDir)
    {L : List (FilePath × FilePath)} {eff : FilePath × FilePath → Effect}
    (hdest : ∀ y ∈ L, y.2 = ["php", "etc"] ∨ y.2 = ["httpd", "conf"])
    (hinj : ∀ y ∈ L, ∀ y' ∈ L, y.2 = y'.2 → y = y')
    (hloc : ∀ y ∈ L, ∀ q d, eff y q = some d →
      ∃ b ctx P, (targets s run stage).get b = some ctx ∧ q = b ++ y.2 ++ P)
    {x : FilePath × FilePath} (hx : x ∈ L) {b : FilePath} {ctx : GoMap String String}
    (hb : (targets s run stage).get b = some ctx) (P : FilePath) :
    seqEffect eff L (b ++ x.2 ++ P) = eff x (b ++ x.2 ++ P) := by
  refine seqEffect_eq_of_mem hx fun y hy => ?_
  cases he : eff y (b ++ x.2 ++ P) with
  | none => exact .inl rfl
  | some d =>
    obtain ⟨b', ctx', P', hb', e⟩ := hloc y hy _ d he
    obtain ⟨hxy, -⟩ := hapart.eq (outputDirs_mem_of_targets hb (hdest x hx))
      (outputDirs_mem_of_targets hb' (hdest y hy)) e
    obtain rfl := hinj y hy x hx (congrArg Prod.snd hxy).symm
    exact .inr he.symm

end

section
variable {eng : TextTemplate Tmpl} {box : Box} {app : AppFiles} {ω : WriteOrders} {s : Supplier}
  {fs fs' : Fs}

theorem writeConfigFiles_ok (h : writeConfigFiles eng box app ω s fs = (.ok (), fs')) :
    ∃ l fs₁, versionLine s.phpVersion = some l ∧
      ((boxDirs l).range ω.boxes).forM (fun srcDest => boxWalk box
        (handler eng (targets s (ctxRun ω.contexts s) (ctxStage ω.contexts s)) ω.targets
          srcDest.1 srcDest.2 box.bytes) srcDest.1) fs = (.ok (), fs₁) ∧
      ((overrideDirs s).range ω.overrides).forM (walkOverride app fun src dest =>
        handler eng (targets s (ctxRun ω.contexts s) (ctxStage ω.contexts s)) ω.targets
          src dest app.readFile) fs₁ = (.ok (), fs') := by
  unfold writeConfigFiles at h
  cases hv : versionLine s.phpVersion with
  | none => simp [hv, GoCall.bind_apply] at h
  | some l =>
    simp only [hv] at h
    obtain ⟨_, _, h₀, h⟩ := GoCall.bind_eq_ok.mp h
    simp only [GoCall.pure_apply, Prod.mk.injEq, Except.ok.injEq] at h₀
    obtain ⟨rfl, rfl⟩ := h₀
    obtain ⟨_, fs₁, h₁, h₂⟩ := GoCall.bind_eq_ok.mp h
    exact ⟨l, fs₁, rfl, h₁, h₂⟩

end

section
variable {eng : TextTemplate Tmpl} {s : Supplier} {run stage : GoMap String String}
  {σ : FilePath → RangeOrder (FilePath × GoMap String String)} {fs fs' : Fs}

theorem boxLoop_output (hapart : OutputDirsApart s.stager.depDir) {box : Box} {l : String}
    {σb : RangeOrder (FilePath × FilePath)}
    (h : ((boxDirs l).range σb).forM (fun srcDest => boxWalk box
      (handler eng (targets s run stage) σ srcDest.1 srcDest.2 box.bytes) srcDest.1) fs =
        (.ok (), fs')) :
    Overwrites fs fs' (seqEffect (boxEffect eng (targets s run stage) σ box) ((boxDirs l).range σb)) ∧
      ∀ x ∈ (boxDirs l).range σb, ∀ b ctx, (targets s run stage).get b = some ctx → ∀ P,
        seqEffect (boxEffect eng (targets s run stage) σ box) ((boxDirs l).range σb)
          (b ++ x.2 ++ P) = boxOutput eng box x.1 ctx P := by
  refine ⟨forM_overwrites (fun x _ _ _ hx => (boxWalk_ok hx).elim fun _ h => h.2.1) h, fun x hx b ctx hb P => ?_⟩
  obtain ⟨hdest, hinj⟩ := dests_of_two fun y hy => mem_boxDirs_range.mp hy
  rw [seqEffect_trees hapart hdest hinj (fun _ _ _ _ he => boxEffect_eq_some he) hx hb P]
  obtain ⟨_, _, hx'⟩ := forM_ok_of_mem h x hx
  obtain ⟨n, hn, -, hl⟩ := boxWalk_ok hx'
  simp only [boxEffect, boxOutput, hn]
  exact walkEffect_eq_treeOutput hl (targets_uniq hapart (hdest x hx)) hb P

theorem overrideLoop_output (hapart : OutputDirsApart s.stager.depDir) {app : AppFiles}
    {σo : RangeOrder (FilePath × FilePath)}
    (h : ((overrideDirs s).range σo).forM (walkOverride app fun src dest =>
      handler eng (targets s run stage) σ src dest app.readFile) fs = (.ok (), fs')) :
    Overwrites fs fs'
        (seqEffect (overrideEffect eng (targets s run stage) σ app) ((overrideDirs s).range σo)) ∧
      ∀ x ∈ (overrideDirs s).range σo, ∀ b ctx, (targets s run stage).get b = some ctx → ∀ P,
        seqEffect (overrideEffect eng (targets s run stage) σ app) ((overrideDirs s).range σo)
          (b ++ x.2 ++ P) = overrideOutput eng app x.1 ctx P := by
  refine ⟨forM_overwrites (fun x _ _ _ hx => (walkOverride_ok hx).1) h, fun x hx b ctx hb P => ?_⟩
  obtain ⟨hdest, hinj⟩ := dests_of_two fun y hy => mem_overrideDirs_range.mp hy
  rw [seqEffect_trees hapart hdest hinj (fun _ _ _ _ he => overrideEffect_eq_some he) hx hb P]
  obtain ⟨_, _, hx'⟩ := forM_ok_of_mem h x hx
  obtain ⟨-, found, hex, hl⟩ := walkOverride_ok hx'
  cases found with
  | false => simp [overrideEffect, overrideOutput, hex]
  | true =>
    simp only [overrideEffect, overrideOutput, hex]
    exact walkEffect_eq_treeOutput (hl rfl) (targets_uniq hapart (hdest x hx)) hb P

end

theorem OutputDirsApart.depDir_ne {depDir : FilePath} (h : OutputDirsApart depDir) :
    depDir ≠ ["tmp", "php_etc"] := by
  rintro rfl
  exact absurd h (by decide)

theorem targets_get_of_mem {s : Supplier} (hapart : OutputDirsApart s.stager.depDir)
    {run stage : GoMap String String} {b : FilePath} {ctx : GoMap String String}
    (h : (b, ctx) ∈ [(s.stager.depDir, run), (["tmp", "php_etc"], stage)]) :
    (targets s run stage).get b = some ctx := by
  simp only [List.mem_cons, Prod.mk.injEq, List.mem_singleton, List.not_mem_nil,
    or_false] at h
  rcases h with ⟨rfl, rfl⟩ | ⟨rfl, rfl⟩
  · simp [targets_get, hapart.depDir_ne]
  · simp [targets_get]

theorem treeOutput_isSome (eng : TextTemplate Tmpl) (readAll : FilePath → Except GoError String)
    (src : FilePath) (n : Node) (ctx ctx' : GoMap String String) (P : FilePath) :
    (treeOutput eng readAll src n ctx P).isSome = (treeOutput eng readAll src n ctx' P).isSome := by
  unfold treeOutput
  split_ifs
  · cases loadTemplate eng src readAll P <;> rfl
  · rfl

def tmpdirEngine : TextTemplate String :=
  ⟨fun _ text => .ok text, fun t ctx =>
    (if t = fieldAction "TMPDIR" then (ctx.get "TMPDIR").getD "<no value>" else t, none)⟩

def tmpdirBox : Box :=
  ⟨fun p => if p = ["httpd"] then .ok (.dir (.ok [])) else .ok (.dir (.ok [("php.ini", .file)])),
    fun _ => .ok (fieldAction "TMPDIR")⟩

def phpOverrides (tree : Node) : AppFiles :=
  ⟨fun p => .ok (p = ["app", ".bp-config", "php"]), fun _ => tree, fun _ => .ok "; override"⟩

def inOrderWrites : WriteOrders :=
  ⟨⟨.inOrder, .inOrder, .inOrder⟩, .inOrder, .inOrder, fun _ => .inOrder⟩

def stagedApp (depDir : FilePath) : Supplier :=
  ⟨⟨["app"], ["cache"], depDir, ["deps"], "0"⟩, "7.2.14", "", ∅, ∅, ∅, ∅, ""⟩

def shadowingApp : AppFiles := phpOverrides (.dir (.ok [("php.ini", .file)]))

def shadowConfig (ω : WriteOrders) : GoCall Unit :=
  writeConfigFiles tmpdirEngine tmpdirBox shadowingApp ω (stagedApp ["deps", "0"])

theorem shadowConfig_ok : shadowConfig inOrderWrites (fun _ => none) =
    (.ok (), (shadowConfig inOrderWrites (fun _ => none)).2) := by
  have e : (shadowConfig inOrderWrites (fun _ => none)).1 = .ok () := rfl
  rw [← e]

/-- Override trees the walk cannot read whole. A subdirectory it cannot list is reported to
the handler with its error, which the handler ignores, and the run completes without the
templates under it; an entry whose `Lstat` fails reaches the handler with a nil `FileInfo`,
and the run panics. -/
theorem writeConfigFiles_walk_errors :
    (⟨["app", ".bp-config", "php", "conf.d"], some .dir,
        some (.pathError "open" ["app", ".bp-config", "php", "conf.d"] "permission denied")⟩ : Visit) ∈
      (Node.dir (.ok [("conf.d", .dir (.error (.pathError "open"
        ["app", ".bp-config", "php", "conf.d"] "permission denied")))])).visits
        ["app", ".bp-config", "php"] ∧
    (writeConfigFiles tmpdirEngine tmpdirBox (phpOverrides (.dir (.ok [("conf.d", .dir (.error
        (.pathError "open" ["app", ".bp-config", "php", "conf.d"] "permission denied")))])))
        inOrderWrites (stagedApp ["deps", "0"]) (fun _ => none)).1 = .ok () ∧
    (writeConfigFiles tmpdirEngine tmpdirBox (phpOverrides (.dir (.ok [("php-fpm.conf", .broken
        (.pathError "lstat" ["app", ".bp-config", "php", "php-fpm.conf"] "no such file or directory"))])))
        inOrderWrites (stagedApp ["deps", "0"]) (fun _ => none)).1 =
      .error (.panic "invalid memory address or nil pointer dereference") :=
  ⟨by simp [Node.visits, childVisits], rfl, rfl⟩

/-- A run that completes writes nothing outside the four output directories. -/
theorem writeConfigFiles_frame (eng : TextTemplate Tmpl) (box : Box) (app : AppFiles)
    (ω : WriteOrders) (s : Supplier) {fs fs' : Fs}
    (h : writeConfigFiles eng box app ω s fs = (.ok (), fs')) (q : FilePath)
    (hq : ∀ x ∈ outputDirs s.stager.depDir, ¬ x.1 ++ x.2 <+: q) : fs'.fileAt q = fs.fileAt q := by
  obtain ⟨l, fs₁, -, hbox, hov⟩ := writeConfigFiles_ok h
  have hw₁ : Overwrites fs fs₁ (seqEffect (boxEffect eng _ ω.targets box) ((boxDirs l).range ω.boxes)) :=
    forM_overwrites (fun _ _ _ _ hx => (boxWalk_ok hx).elim fun _ h => h.2.1) hbox
  have hw₂ : Overwrites fs₁ fs'
      (seqEffect (overrideEffect eng _ ω.targets app) ((overrideDirs s).range ω.overrides)) :=
    forM_overwrites (fun _ _ _ _ hx => (walkOverride_ok hx).1) hov
  have hout : ∀ {y : FilePath × FilePath}, (y.2 = ["php", "etc"] ∨ y.2 = ["httpd", "conf"]) →
      ∀ {b ctx P}, (targets s (ctxRun ω.contexts s) (ctxStage ω.contexts s)).get b = some ctx →
        q ≠ b ++ y.2 ++ P :=
    fun hd _ _ P hb e => hq _ (outputDirs_mem_of_targets hb hd) ⟨P, e.symm⟩
  rw [(hw₁.trans hw₂) q, Effect.andThen, seqEffect_eq_none, seqEffect_eq_none, Option.none_or,
    Option.none_or]
  · refine fun y hy => Option.eq_none_iff_forall_not_mem.mpr fun _ he => ?_
    obtain ⟨_, _, _, hb, e⟩ := boxEffect_eq_some he
    exact hout ((dests_of_two fun y hy => mem_boxDirs_range.mp hy).1 y hy) hb e
  · refine fun y hy => Option.eq_none_iff_forall_not_mem.mpr fun _ he => ?_
    obtain ⟨_, _, _, hb, e⟩ := overrideEffect_eq_some he
    exact hout ((dests_of_two fun y hy => mem_overrideDirs_range.mp hy).1 y hy) hb e

theorem writeConfigFiles_frame_sample :
    shadowConfig inOrderWrites (fun _ => none) =
      (.ok (), (shadowConfig inOrderWrites (fun _ => none)).2) ∧
    (∀ x ∈ outputDirs ["deps", "0"], ¬ x.1 ++ x.2 <+: ["app", "index.php"]) ∧
    (shadowConfig inOrderWrites (fun _ => none)).2.fileAt ["app", "index.php"] =
      Fs.fileAt (fun _ => none) ["app", "index.php"] :=
  have hq : ∀ x ∈ outputDirs ["deps", "0"], ¬ x.1 ++ x.2 <+: ["app", "index.php"] := by decide
  ⟨shadowConfig_ok, hq, writeConfigFiles_frame tmpdirEngine tmpdirBox shadowingApp inOrderWrites
    (stagedApp ["deps", "0"]) shadowConfig_ok _ hq⟩

-- The output trees of a run.
def outputTrees (s : Supplier) (run stage : GoMap String String) (l : String) :
    List ((FilePath × GoMap String String) × (FilePath × FilePath × FilePath)) :=
  List.product [(s.stager.depDir, run), (["tmp", "php_etc"], stage)]
    [(["php", l], s.stager.buildDir ++ [".bp-config", "php"], ["php", "etc"]),
      (["httpd"], s.stager.buildDir ++ [".bp-config", "httpd"], ["httpd", "conf"])]

-- What one output tree holds at `q`.
def treeAt (eng : TextTemplate Tmpl) (box : Box) (app : AppFiles) :
    (FilePath × GoMap String String) × (FilePath × FilePath × FilePath) → Effect
  | ((b, ctx), (src, osrc, dest)), q =>
    if b ++ dest <+: q then
      (overrideOutput eng app osrc ctx (q.drop (b ++ dest).length)).or
        (boxOutput eng box src ctx (q.drop (b ++ dest).length))
    else none

-- What `WriteConfigFiles` is for.
def rendered (eng : TextTemplate Tmpl) (box : Box) (app : AppFiles) (s : Supplier)
    (run stage : GoMap String String) (l : String) : Effect :=
  seqEffect (treeAt eng box app) (outputTrees s run stage l)

section
variable {s : Supplier} {run stage : GoMap String String} {l : String}

theorem mem_outputTrees {t : (FilePath × GoMap String String) × (FilePath × FilePath × FilePath)} :
    t ∈ outputTrees s run stage l ↔
      t.1 ∈ [(s.stager.depDir, run), (["tmp", "php_etc"], stage)] ∧
        t.2 ∈ [(["php", l], s.stager.buildDir ++ [".bp-config", "php"], ["php", "etc"]),
          (["httpd"], s.stager.buildDir ++ [".bp-config", "httpd"], ["httpd", "conf"])] :=
  List.mem_product

theorem exists_outputTree {b dest : FilePath} {ctx : GoMap String String}
    (hb : (targets s run stage).get b = some ctx)
    (hd : dest = ["php", "etc"] ∨ dest = ["httpd", "conf"]) :
    ∃ t ∈ outputTrees s run stage l, t.1.1 = b ∧ t.2.2.2 = dest := by
  have hbc : (b, ctx) ∈ [(s.stager.depDir, run), (["tmp", "php_etc"], stage)] := by
    rw [targets_get] at hb
    split_ifs at hb with h₁ h₂
    · cases hb; simp [h₁]
    · cases hb; simp [h₂]
  rcases hd with rfl | rfl
  · exact ⟨((b, ctx), (["php", l], s.stager.buildDir ++ [".bp-config", "php"], ["php", "etc"])),
      mem_outputTrees.mpr ⟨hbc, by simp⟩, rfl, rfl⟩
  · exact ⟨((b, ctx), (["httpd"], s.stager.buildDir ++ [".bp-config", "httpd"], ["httpd", "conf"])),
      mem_outputTrees.mpr ⟨hbc, by simp⟩, rfl, rfl⟩

theorem outputTree_loops (hapart : OutputDirsApart s.stager.depDir)
    {σb σo : RangeOrder (FilePath × FilePath)}
    {t : (FilePath × GoMap String String) × (FilePath × FilePath × FilePath)}
    (ht : t ∈ outputTrees s run stage l) :
    (t.2.1, t.2.2.2) ∈ (boxDirs l).range σb ∧ (t.2.2.1, t.2.2.2) ∈ (overrideDirs s).range σo ∧
      (targets s run stage).get t.1.1 = some t.1.2 := by
  obtain ⟨hbc, htr⟩ := mem_outputTrees.mp ht
  refine ⟨?_, ?_, targets_get_of_mem hapart hbc⟩ <;>
    simp only [List.mem_cons, List.mem_singleton, List.not_mem_nil, or_false] at htr <;>
    rcases htr with h | h <;> simp [h, mem_boxDirs_range, mem_overrideDirs_range]

theorem dest_of_mem_outputTrees
    {t : (FilePath × GoMap String String) × (FilePath × FilePath × FilePath)}
    (ht : t ∈ outputTrees s run stage l) : t.2.2.2 = ["php", "etc"] ∨ t.2.2.2 = ["httpd", "conf"] := by
  obtain ⟨-, htr⟩ := mem_outputTrees.mp ht
  simp only [List.mem_cons, List.mem_singleton, List.not_mem_nil, or_false] at htr
  rcases htr with h | h <;> simp [h]

theorem outputTrees_uniq (hapart : OutputDirsApart s.stager.depDir)
    {t t' : (FilePath × GoMap String String) × (FilePath × FilePath × FilePath)}
    (ht : t ∈ outputTrees s run stage l) (ht' : t' ∈ outputTrees s run stage l) {P P' : FilePath}
    (e : t.1.1 ++ t.2.2.2 ++ P = t'.1.1 ++ t'.2.2.2 ++ P') : t = t' := by
  have hb := targets_get_of_mem hapart (mem_outputTrees.mp ht).1
  have hb' := targets_get_of_mem hapart (mem_outputTrees.mp ht').1
  obtain ⟨hxy, -⟩ := hapart.eq (outputDirs_mem_of_targets hb (dest_of_mem_outputTrees ht))
    (outputDirs_mem_of_targets hb' (dest_of_mem_outputTrees ht')) e
  obtain ⟨⟨b, ctx⟩, src, osrc, dest⟩ := t
  obtain ⟨⟨b', ctx'⟩, src', osrc', dest'⟩ := t'
  obtain ⟨rfl, rfl⟩ := Prod.mk.inj hxy
  obtain rfl : ctx = ctx' := Option.some.inj (hb.symm.trans hb')
  have htr := (mem_outputTrees.mp ht).2
  have htr' := (mem_outputTrees.mp ht').2
  simp only [List.mem_cons, List.mem_singleton, List.not_mem_nil, or_false, Prod.mk.injEq] at htr htr'
  rcases htr with ⟨rfl, rfl, rfl⟩ | ⟨rfl, rfl, rfl⟩ <;>
    rcases htr' with ⟨rfl, rfl, h⟩ | ⟨rfl, rfl, h⟩ <;> simp_all

end

theorem writeConfigFiles_renders (eng : TextTemplate Tmpl) (box : Box) (app : AppFiles)
    (ω : WriteOrders) (s : Supplier) (hapart : OutputDirsApart s.stager.depDir) {fs fs' : Fs}
    (h : writeConfigFiles eng box app ω s fs = (.ok (), fs')) :
    ∃ l, versionLine s.phpVersion = some l ∧
      Overwrites fs fs' (rendered eng box app s (ctxRun ω.contexts s) (ctxStage ω.contexts s) l) := by
  obtain ⟨l, fs₁, hl, hbox, hov⟩ := writeConfigFiles_ok h
  obtain ⟨hw₁, hv₁⟩ := boxLoop_output hapart hbox
  obtain ⟨hw₂, hv₂⟩ := overrideLoop_output hapart hov
  refine ⟨l, hl, fun q => ?_⟩
  rw [(hw₁.trans hw₂) q, Effect.andThen]
  congr 1
  by_cases hq : ∃ t ∈ outputTrees s (ctxRun ω.contexts s) (ctxStage ω.contexts s) l,
      t.1.1 ++ t.2.2.2 <+: q
  · obtain ⟨t, ht, P, rfl⟩ := hq
    obtain ⟨hsrc, hosrc, hb⟩ := outputTree_loops hapart ht
    rw [hv₂ _ hosrc _ _ hb P, hv₁ _ hsrc _ _ hb P, rendered, seqEffect_eq_of_mem ht fun y hy => ?_]
    · obtain ⟨⟨b, ctx⟩, src, osrc, dest⟩ := t
      simp [treeAt]
    · by_cases hy' : y.1.1 ++ y.2.2.2 <+: t.1.1 ++ t.2.2.2 ++ P
      · obtain ⟨P', e⟩ := hy'
        exact .inr (by rw [outputTrees_uniq hapart hy ht e])
      · obtain ⟨⟨b, ctx⟩, src, osrc, dest⟩ := y
        exact .inl (if_neg hy')
  · have hout : ∀ {b dest P : FilePath} {ctx : GoMap String String},
        (targets s (ctxRun ω.contexts s) (ctxStage ω.contexts s)).get b = some ctx →
        (dest = ["php", "etc"] ∨ dest = ["httpd", "conf"]) → q ≠ b ++ dest ++ P :=
      fun hb hd e => by
        obtain ⟨t, ht, rfl, rfl⟩ := exists_outputTree hb hd
        exact hq ⟨t, ht, _, e.symm⟩
    rw [seqEffect_eq_none, seqEffect_eq_none, rendered, seqEffect_eq_none, Option.none_or]
    · rintro ⟨⟨b, ctx⟩, src, osrc, dest⟩ ht
      exact if_neg fun hp => hq ⟨_, ht, hp⟩
    · refine fun y hy => Option.eq_none_iff_forall_not_mem.mpr fun _ he => ?_
      obtain ⟨_, _, _, hb, e⟩ := boxEffect_eq_some he
      exact hout hb ((dests_of_two fun y hy => mem_boxDirs_range.mp hy).1 y hy) e
    · refine fun y hy => Option.eq_none_iff_forall_not_mem.mpr fun _ he => ?_
      obtain ⟨_, _, _, hb, e⟩ := overrideEffect_eq_some he
      exact hout hb ((dests_of_two fun y hy => mem_overrideDirs_range.mp hy).1 y hy) e

def reversedWrites : WriteOrders :=
  ⟨inOrderWrites.contexts, .reversed, .reversed, fun _ => .reversed⟩

-- `q` lies inside one of the four output directories.
def InOutputDirs (depDir q : FilePath) : Prop := ∃ x ∈ outputDirs depDir, x.1 ++ x.2 <+: q

theorem writeConfigFiles_writesWithin (eng : TextTemplate Tmpl) (box : Box) (app : AppFiles)
    (ω : WriteOrders) (s : Supplier) :
    WritesWithin (writeConfigFiles eng box app ω s) (InOutputDirs s.stager.depDir) := by
  have hh : ∀ src dest rd v, (dest = ["php", "etc"] ∨ dest = ["httpd", "conf"]) →
      WritesWithin (handler eng (targets s (ctxRun ω.contexts s) (ctxStage ω.contexts s))
        ω.targets src dest rd v) (InOutputDirs s.stager.depDir) := fun src dest rd v hd =>
    (handler_writesWithin _ _ src dest rd v).mono fun _ ⟨_, _, hb, hp⟩ =>
      ⟨_, outputDirs_mem_of_targets hb hd, hp⟩
  unfold writeConfigFiles
  dsimp only
  split
  · refine (writesWithin_pure _).bind fun l => WritesWithin.bind ?_ fun _ => ?_
    · refine writesWithin_forM fun x hx => ?_
      have hd : x.2 = ["php", "etc"] ∨ x.2 = ["httpd", "conf"] := by
        rcases mem_boxDirs_range.mp hx with rfl | rfl <;> simp
      unfold boxWalk
      split
      · exact writesWithin_forM fun v _ => hh _ _ _ v hd
      · exact writesWithin_fail _
    · refine writesWithin_forM fun x hx => ?_
      have hd : x.2 = ["php", "etc"] ∨ x.2 = ["httpd", "conf"] := by
        rcases mem_overrideDirs_range.mp hx with rfl | rfl <;> simp
      refine (writesWithin_ofExcept _).bind fun found => ?_
      split
      · exact writesWithin_forM fun v _ => hh _ _ _ v hd
      · exact writesWithin_pure _
  · exact fun _ _ _ => rfl

theorem OutputDirsApart.not_inOutputDirs {depDir : FilePath} (h : OutputDirsApart depDir)
    {r : FilePath} (hetc : "etc" ∉ r) (hconf : "conf" ∉ r) :
    ¬ InOutputDirs depDir (depDir ++ r) := by
  rintro ⟨x, hx, hp⟩
  obtain ⟨a, ℓ, hx2, hℓ, hy⟩ : ∃ a ℓ, x.2 = [a, ℓ] ∧ ℓ ∉ r ∧ (depDir, x.2) ∈ outputDirs depDir := by
    simp only [outputDirs, List.mem_cons, List.mem_singleton, List.not_mem_nil, or_false] at hx
    rcases hx with rfl | rfl | rfl | rfl <;> exact ⟨_, _, rfl, ‹_›, by simp [outputDirs]⟩
  have hnot : ¬ x.1 ++ x.2 <+: depDir := by
    rintro ⟨v, hv⟩
    have e : x.1 ++ x.2 ++ (v ++ x.2) = (depDir, x.2).1 ++ (depDir, x.2).2 ++ [] := by
      rw [← hv]
      simp
    have hv0 := (h.eq hx hy e).2
    rw [hx2] at hv0
    simp at hv0
  rcases List.prefix_or_prefix_of_prefix hp (List.prefix_append depDir r) with hd | ⟨u, hu⟩
  · exact hnot hd
  · have hur : u <+: r := (List.prefix_append_right_inj depDir).mp (by rwa [hu])
    have hu0 : u ≠ [] := by
      rintro rfl
      exact hnot ⟨[], by simpa using hu.symm⟩
    have hℓu : ℓ ∈ u := List.mem_of_mem_getLast? <| by
      rw [← List.getLast?_append_of_ne_nil depDir hu0, hu, hx2]
      simp
    exact hℓ (hur.subset hℓu)

theorem inOutputDirs_of_rendered {eng : TextTemplate Tmpl} {box : Box} {app : AppFiles}
    {s : Supplier} {run stage : GoMap String String} {l : String} {q : FilePath} {d : String}
    (h : rendered eng box app s run stage l q = some d) : InOutputDirs s.stager.depDir q := by
  obtain ⟨⟨⟨b, ctx⟩, src, osrc, dest⟩, ht, hq⟩ := seqEffect_eq_some_mem h
  simp only [treeAt] at hq
  split_ifs at hq with hp
  obtain ⟨hb, hd⟩ := mem_outputTrees.mp ht
  simp only [List.mem_cons, List.mem_singleton, List.not_mem_nil, or_false, Prod.mk.injEq] at hb hd
  refine ⟨(b, dest), ?_, hp⟩
  rcases hb with ⟨rfl, -⟩ | ⟨rfl, -⟩ <;> rcases hd with ⟨-, -, rfl⟩ | ⟨-, -, rfl⟩ <;>
    simp [outputDirs]

end PhpBuildpack.Supply
