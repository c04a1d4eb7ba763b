import PhpBuildpack.Supply.Context
import PhpBuildpack.Go.Replace
import PhpBuildpack.Go.Walk

/-! The callback `WriteConfigFiles` walks its template trees with. It rewrites the
placeholders of the buildpack's older templates into template actions, parses the text,
and renders it into the run tree with `ctxRun` and into the staging tree with `ctxStage`. -/
namespace PhpBuildpack.Supply
open Go

/-- `@{name}`, a placeholder of the older templates. -/
def legacyToken (name : String) : String := "@\x7b" ++ name ++ "\x7d"

/-- The four `strings.Replace` calls of the handler, in its order. -/
def rewriteLegacyTokens (templateString : String) : String :=
  let templateString := replace templateString (legacyToken "DEPS_DIR") (fieldAction "DEPS_DIR")
  let templateString := replace templateString (legacyToken "TMPDIR") (fieldAction "TMPDIR")
  let templateString := replace templateString (legacyToken "HOME") (fieldAction "HOME")
  replace templateString "#PHP_FPM_LISTEN" (fieldAction "PhpFpmListen")

/-- The handler's `(old, new)` arguments to `strings.Replace`, in its order. -/
def legacyReplacements : List (String × String) :=
  [(legacyToken "DEPS_DIR", fieldAction "DEPS_DIR"), (legacyToken "TMPDIR", fieldAction "TMPDIR"),
    (legacyToken "HOME", fieldAction "HOME"), ("#PHP_FPM_LISTEN", fieldAction "PhpFpmListen")]

-- The replacements as substitution rules.
def legacyRules : List Rule :=
  [⟨(legacyToken "DEPS_DIR").data, (fieldAction "DEPS_DIR").data, by decide⟩,
    ⟨(legacyToken "TMPDIR").data, (fieldAction "TMPDIR").data, by decide⟩,
    ⟨(legacyToken "HOME").data, (fieldAction "HOME").data, by decide⟩,
    ⟨"#PHP_FPM_LISTEN".data, (fieldAction "PhpFpmListen").data, by decide⟩]

/-- `strings.Replace` called with each pair of `calls` in turn. -/
def replaceEach (calls : List (String × String)) (t : String) : String :=
  calls.foldl (fun t c => replace t c.1 c.2) t

theorem rewriteLegacyTokens_eq (t : String) :
    rewriteLegacyTokens t = replaceEach legacyReplacements t := rfl

theorem legacyRules_separated : ∀ x ∈ legacyRules, ∀ y ∈ legacyRules, Separated x y := by
  decide

theorem legacyRules_pairwise : legacyRules.Pairwise fun x y => ¬ Clash x.token y.token := by
  decide

theorem replaceEach_map_call (rules : List Rule) (t : String) :
    (replaceEach (rules.map Rule.call) t).data = chain rules t.data := by
  induction rules generalizing t with
  | nil => rfl
  | cons r rules ih =>
    simp only [replaceEach, chain, List.map_cons, List.foldl_cons] at ih ⊢
    rw [ih, replace_call_data]

theorem rewriteLegacyTokens_data (t : String) :
    (rewriteLegacyTokens t).data = substAll legacyRules t.data := by
  rw [rewriteLegacyTokens_eq, show legacyReplacements = legacyRules.map Rule.call from rfl,
    replaceEach_map_call, chain_eq_substAll legacyRules_separated]

/-- The four chained `strings.Replace` calls are one left-to-right simultaneous substitution
of the four placeholders; the result holds none of them, and the four calls give the same
result in any order. -/
theorem rewriteLegacyTokens_simultaneous (t : String) :
    (rewriteLegacyTokens t).data = substAll legacyRules t.data ∧
    (∀ r ∈ legacyRules, ¬ r.token <:+: (rewriteLegacyTokens t).data) ∧
    ∀ rules' : List Rule, rules'.Perm legacyRules →
      replaceEach (rules'.map Rule.call) t = rewriteLegacyTokens t := by
  have hdata := rewriteLegacyTokens_data t
  refine ⟨hdata, fun r hr => hdata ▸ not_infix_substAll legacyRules_separated hr t.data,
    fun rules' hp => String.ext ?_⟩
  have hsep : ∀ x ∈ rules', ∀ y ∈ rules', Separated x y := fun x hx y hy =>
    legacyRules_separated x (hp.mem_iff.mp hx) y (hp.mem_iff.mp hy)
  rw [replaceEach_map_call, chain_eq_substAll hsep, hdata,
    substAll_perm hp.symm legacyRules_pairwise]

/-- Rewriting a template a second time changes nothing: no placeholder survives the first. -/
theorem rewriteLegacyTokens_idempotent (t : String) :
    rewriteLegacyTokens (rewriteLegacyTokens t) = rewriteLegacyTokens t := by
  refine String.ext ?_
  rw [rewriteLegacyTokens_data, substAll_of_not_infix]
  intro r hr
  rw [rewriteLegacyTokens_data]
  exact not_infix_substAll legacyRules_separated hr t.data

/-- What `text/template` offers the handler: `Parse` of a named template, and `Execute` on a
context, as the text it writes before it stops and the error it stops with. -/
structure TextTemplate (Tmpl : Type) where
  parse : FilePath → String → Except GoError Tmpl
  execute : Tmpl → GoMap String String → String × Option GoError

/-- `filepath.Rel(src, path)` for a `path` the walk from `src` visits: every such path lies
under `src` (`Node.prefix_of_mem_visits`), where `Rel` strips `src`. The model returns an
error for the paths no walk reaches. -/
def rel (src path : FilePath) : Except GoError FilePath :=
  if src <+: path then .ok (path.drop src.length) else .error (.other "Rel: not under src")

/-- The map literal of output trees the handler ranges over: the run tree under `DepDir`
with `ctxRun`, and the staging tree under `/tmp/php_etc` with `ctxStage`. When `DepDir` is
`/tmp/php_etc` the keys are equal and the later entry is kept, as gc assigns a literal's
entries in order; the Go specification leaves that order open. -/
def targets (s : Supplier) (run stage : GoMap String String) :
    GoMap FilePath (GoMap String String) :=
  GoMap.ofList [(s.stager.depDir, run), (["tmp", "php_etc"], stage)]

variable {Tmpl : Type}

/-- One turn of the loop over the output trees: the template executed on `ctx` into
`basedir/dest/destFile`, after creating its directory. -/
def renderInto (eng : TextTemplate Tmpl) (tmpl : Tmpl) (dest destFile : FilePath)
    (target : FilePath × GoMap String String) : GoCall Unit := do
  let out := target.1 ++ dest ++ destFile
  mkdirAll out.dropLast
  create out
  let (text, err) := eng.execute tmpl target.2
  writeHandle out text
  match err with
  | some e => GoCall.fail (.error e)
  | none => pure ()

/-- The walk callback `handler(src, dest, readAll)`: a nil `FileInfo` panics, a directory is
skipped, and a file is read, rewritten, parsed and rendered into each output tree, in the
order `σ` ranges over them. The walk's error argument is not read. -/
def handler (eng : TextTemplate Tmpl) (tgts : GoMap FilePath (GoMap String String))
    (σ : FilePath → RangeOrder (FilePath × GoMap String String)) (src dest : FilePath)
    (readAll : FilePath → Except GoError String) (v : Visit) : GoCall Unit :=
  match v.info with
  | none => GoCall.fail (.panic "invalid memory address or nil pointer dereference")
  | some .dir => pure ()
  | some .file => do
    let destFile ← GoCall.ofExcept (rel src v.path)
    let templateBytes ← GoCall.ofExcept (readAll (src ++ destFile))
    let tmpl ← GoCall.ofExcept
      (eng.parse (src ++ destFile) (rewriteLegacyTokens templateBytes))
    (tgts.range (σ v.path)).forM (renderInto eng tmpl dest destFile)

section
variable {eng : TextTemplate Tmpl} {fs fs' : Fs}

theorem renderInto_writesWithin (tmpl : Tmpl) (dest destFile : FilePath)
    (t : FilePath × GoMap String String) :
    WritesWithin (renderInto eng tmpl dest destFile t) (· = t.1 ++ dest ++ destFile) := by
  unfold renderInto
  refine (writesWithin_mkdirAll _).bind fun _ => (writesWithin_create _).bind fun _ => ?_
  obtain ⟨text, err⟩ := eng.execute tmpl t.2
  refine (writesWithin_writeHandle _ _).bind fun _ => ?_
  cases err
  · exact writesWithin_pure _
  · exact writesWithin_fail _

theorem handler_writesWithin (tgts : GoMap FilePath (GoMap String String))
    (σ : FilePath → RangeOrder (FilePath × GoMap String String)) (src dest : FilePath)
    (readAll : FilePath → Except GoError String) (v : Visit) :
    WritesWithin (handler eng tgts σ src dest readAll v)
      (fun q => ∃ b ctx, tgts.get b = some ctx ∧ b ++ dest <+: q) := by
  unfold handler
  split
  · exact writesWithin_fail _
  · exact writesWithin_pure _
  · refine (writesWithin_ofExcept _).bind fun destFile => (writesWithin_ofExcept _).bind fun _ =>
      (writesWithin_ofExcept _).bind fun tmpl => writesWithin_forM fun t ht => ?_
    exact (renderInto_writesWithin tmpl dest destFile t).mono fun q hq =>
      ⟨t.1, t.2, GoMap.mem_range.mp ht, destFile, hq.symm⟩

theorem renderInto_overwrites {tmpl : Tmpl} {dest destFile : FilePath}
    {t : FilePath × GoMap String String} (h : renderInto eng tmpl dest destFile t fs = (.ok (), fs')) :
    (eng.execute tmpl t.2).2 = none ∧
      Overwrites fs fs' (Effect.single (t.1 ++ dest ++ destFile) (eng.execute tmpl t.2).1) := by
  obtain ⟨_, fs₁, h₁, h⟩ := GoCall.bind_eq_ok.mp h
  obtain ⟨_, fs₂, h₂, h⟩ := GoCall.bind_eq_ok.mp h
  obtain ⟨_, fs₃, h₃, h⟩ := GoCall.bind_eq_ok.mp h
  cases herr : (eng.execute tmpl t.2).2 with
  | some e => simp [herr] at h
  | none =>
    simp only [herr, GoCall.pure_apply, Prod.mk.injEq] at h
    have := (mkdirAll_overwrites h₁).trans (create_write_overwrites h₂ h₃)
    exact ⟨rfl, h.2 ▸ by rwa [Effect.none_andThen] at this⟩

end

/-- The template the handler renders for the file `src/destFile`: read, rewritten, parsed. -/
def loadTemplate (eng : TextTemplate Tmpl) (src : FilePath)
    (readAll : FilePath → Except GoError String) (destFile : FilePath) : Except GoError Tmpl :=
  readAll (src ++ destFile) >>= fun text => eng.parse (src ++ destFile) (rewriteLegacyTokens text)

-- What the handler writes on a visit it completes.
def visitEffect (eng : TextTemplate Tmpl) (tgts : GoMap FilePath (GoMap String String))
    (σ : FilePath → RangeOrder (FilePath × GoMap String String)) (src dest : FilePath)
    (readAll : FilePath → Except GoError String) (v : Visit) : Effect :=
  match v.info, rel src v.path with
  | some .file, .ok destFile =>
    match loadTemplate eng src readAll destFile with
    | .ok tmpl =>
      seqEffect (fun t => Effect.single (t.1 ++ dest ++ destFile) (eng.execute tmpl t.2).1)
        (tgts.range (σ v.path))
    | .error _ => fun _ => none
  | _, _ => fun _ => none

section
variable {eng : TextTemplate Tmpl} {tgts : GoMap FilePath (GoMap String String)}
  {σ : FilePath → RangeOrder (FilePath × GoMap String String)} {src dest : FilePath}
  {readAll : FilePath → Except GoError String} {fs fs' : Fs}

theorem handler_dir (p : FilePath) (err : Option GoError) (fs : Fs) :
    handler eng tgts σ src dest readAll ⟨p, some .dir, err⟩ fs = (.ok (), fs) := rfl

theorem handler_nil (p : FilePath) (err : Option GoError) (fs : Fs) :
    handler eng tgts σ src dest readAll ⟨p, none, err⟩ fs =
      (.error (.panic "invalid memory address or nil pointer dereference"), fs) := rfl

theorem handler_dropDirError (v : Visit) :
    handler eng tgts σ src dest readAll v.dropDirError = handler eng tgts σ src dest readAll v := by
  obtain ⟨p, info, err⟩ := v
  rcases info with _ | _ | _ <;> rfl

theorem walk_handler_readable (n : Node) :
    walk (handler eng tgts σ src dest readAll) src n.readable =
      walk (handler eng tgts σ src dest readAll) src n := by
  rw [walk, walk, Node.visits_readable]
  exact forM_map_eq fun v _ => handler_dropDirError v

theorem handler_file_ok {v : Visit} (hv : v.info = some .file)
    (h : handler eng tgts σ src dest readAll v fs = (.ok (), fs')) :
    ∃ destFile tmpl, rel src v.path = .ok destFile ∧
      loadTemplate eng src readAll destFile = .ok tmpl ∧
      (tgts.range (σ v.path)).forM (renderInto eng tmpl dest destFile) fs = (.ok (), fs') := by
  simp only [handler, hv] at h
  obtain ⟨destFile, _, h₁, hr⟩ := GoCall.bind_eq_ok.mp h
  obtain ⟨hrel, rfl⟩ := GoCall.ofExcept_eq_ok h₁
  obtain ⟨text, _, h₂, ht⟩ := GoCall.bind_eq_ok.mp hr
  obtain ⟨hread, rfl⟩ := GoCall.ofExcept_eq_ok h₂
  obtain ⟨tmpl, _, h₃, hp⟩ := GoCall.bind_eq_ok.mp ht
  obtain ⟨hparse, rfl⟩ := GoCall.ofExcept_eq_ok h₃
  exact ⟨destFile, tmpl, hrel, by simp [loadTemplate, hread, hparse, bind, Except.bind], hp⟩

theorem handler_overwrites {v : Visit} (h : handler eng tgts σ src dest readAll v fs = (.ok (), fs')) :
    Overwrites fs fs' (visitEffect eng tgts σ src dest readAll v) := by
  rcases hv : v.info with _ | _ | _
  · simp [handler, hv] at h
  · obtain ⟨destFile, tmpl, hrel, hload, h⟩ := handler_file_ok hv h
    simp only [visitEffect, hv, hrel, hload]
    exact forM_overwrites (fun t _ _ _ ht => (renderInto_overwrites ht).2) h
  · obtain ⟨p, _, err⟩ := v
    cases hv
    obtain rfl : fs' = fs := (congrArg Prod.snd h).symm
    exact Overwrites.rfl

theorem rel_eq_ok {path P : FilePath} : rel src path = .ok P ↔ path = src ++ P := by
  unfold rel
  split_ifs with h
  · obtain ⟨t, rfl⟩ := h
    simp
  · exact ⟨(nomatch ·), fun e => absurd ⟨P, e.symm⟩ h⟩

theorem visitEffect_eq_some {v : Visit} {q : FilePath} {d : String}
    (h : visitEffect eng tgts σ src dest readAll v q = some d) :
    ∃ b ctx P tmpl, tgts.get b = some ctx ∧ q = b ++ dest ++ P ∧ v.info = some .file ∧
      v.path = src ++ P ∧ loadTemplate eng src readAll P = .ok tmpl ∧
      d = (eng.execute tmpl ctx).1 := by
  rcases hinfo : v.info with _ | _ | _
  · simp [visitEffect, hinfo] at h
  · cases hrel : rel src v.path with
    | error e => simp [visitEffect, hinfo, hrel] at h
    | ok P =>
      cases hload : loadTemplate eng src readAll P with
      | error e => simp [visitEffect, hinfo, hrel, hload] at h
      | ok tmpl =>
        simp only [visitEffect, hinfo, hrel, hload] at h
        obtain ⟨t, ht, e⟩ := seqEffect_eq_some_mem h
        simp only [Effect.single] at e
        split_ifs at e with hq
        exact ⟨t.1, t.2, P, tmpl, GoMap.mem_range.mp ht, hq, rfl, rel_eq_ok.mp hrel, hload,
          (Option.some.inj e).symm⟩
  · simp [visitEffect, hinfo] at h

theorem visitEffect_of_file {v : Visit} {P : FilePath} {tmpl : Tmpl} {b : FilePath}
    {ctx : GoMap String String} (hv : v.info = some .file) (hpath : v.path = src ++ P)
    (hload : loadTemplate eng src readAll P = .ok tmpl) (hb : tgts.get b = some ctx)
    (huniq : ∀ b' ctx', tgts.get b' = some ctx' → b' ++ dest ++ P = b ++ dest ++ P → b' = b) :
    visitEffect eng tgts σ src dest readAll v (b ++ dest ++ P) =
      some (eng.execute tmpl ctx).1 := by
  simp only [visitEffect, hv, rel_eq_ok.mpr hpath, hload]
  refine seqEffect_eq_some (fun t ht => ?_) ⟨(b, ctx), GoMap.mem_range.mpr hb, by simp [Effect.single]⟩
  simp only [Effect.single]
  split_ifs with hq
  · obtain rfl := huniq t.1 t.2 (GoMap.mem_range.mp ht) hq.symm
    obtain rfl : t.2 = ctx := Option.some.inj ((GoMap.mem_range.mp ht).symm.trans hb)
    exact .inr rfl
  · exact .inl rfl

end

-- What a completed walk of the template tree `n` from `src` with the handler writes.
def walkEffect (eng : TextTemplate Tmpl) (tgts : GoMap FilePath (GoMap String String))
    (σ : FilePath → RangeOrder (FilePath × GoMap String String)) (src dest : FilePath)
    (readAll : FilePath → Except GoError String) (n : Node) : Effect :=
  seqEffect (visitEffect eng tgts σ src dest readAll) (n.visits src)

-- Every file the walk of `n` from `src` visits holds a template that reads and parses.
def TemplatesLoad (eng : TextTemplate Tmpl) (src : FilePath)
    (readAll : FilePath → Except GoError String) (n : Node) : Prop :=
  ∀ v ∈ n.visits src, v.info = some .file → ∀ P, v.path = src ++ P →
    ∃ tmpl, loadTemplate eng src readAll P = .ok tmpl

-- What the template tree `n` at `src` puts at `P` of an output tree with context `ctx`.
def treeOutput (eng : TextTemplate Tmpl) (readAll : FilePath → Except GoError String)
    (src : FilePath) (n : Node) (ctx : GoMap String String) (P : FilePath) : Option String :=
  if ∃ v ∈ n.visits src, v.info = some .file ∧ v.path = src ++ P then
    match loadTemplate eng src readAll P with
    | .ok tmpl => some (eng.execute tmpl ctx).1
    | .error _ => none
  else none

section
variable {eng : TextTemplate Tmpl} {tgts : GoMap FilePath (GoMap String String)}
  {σ : FilePath → RangeOrder (FilePath × GoMap String String)} {src dest : FilePath}
  {readAll : FilePath → Except GoError String} {n : Node} {fs fs' : Fs}

theorem walk_handler_ok (h : walk (handler eng tgts σ src dest readAll) src n fs = (.ok (), fs')) :
    Overwrites fs fs' (walkEffect eng tgts σ src dest readAll n) ∧
      TemplatesLoad eng src readAll n := by
  refine ⟨forM_overwrites (fun v _ _ _ hv => handler_overwrites hv) h, fun v hv hfile P hP => ?_⟩
  obtain ⟨_, _, hvok⟩ := forM_ok_of_mem h v hv
  obtain ⟨destFile, tmpl, hrel, hload, -⟩ := handler_file_ok hfile hvok
  obtain rfl : destFile = P := List.append_cancel_left ((rel_eq_ok.mp hrel).symm.trans hP)
  exact ⟨tmpl, hload⟩

theorem walkEffect_eq_some {q : FilePath} {d : String}
    (h : walkEffect eng tgts σ src dest readAll n q = some d) :
    ∃ b ctx P, tgts.get b = some ctx ∧ q = b ++ dest ++ P := by
  obtain ⟨v, -, hv⟩ := seqEffect_eq_some_mem h
  obtain ⟨b, ctx, P, -, hb, hq, -⟩ := visitEffect_eq_some hv
  exact ⟨b, ctx, P, hb, hq⟩

theorem walkEffect_eq_treeOutput (hload : TemplatesLoad eng src readAll n)
    (huniq : ∀ {b ctx b' ctx' P P'}, tgts.get b = some ctx → tgts.get b' = some ctx' →
      b ++ dest ++ P = b' ++ dest ++ P' → b = b' ∧ P = P')
    {b : FilePath} {ctx : GoMap String String} (hb : tgts.get b = some ctx) (P : FilePath) :
    walkEffect eng tgts σ src dest readAll n (b ++ dest ++ P) =
      treeOutput eng readAll src n ctx P := by
  unfold walkEffect treeOutput
  split_ifs with hP
  · obtain ⟨v, hv, hfile, hpath⟩ := hP
    obtain ⟨tmpl, hl⟩ := hload v hv hfile P hpath
    rw [hl]
    refine seqEffect_eq_some (fun w _ => ?_)
      ⟨v, hv, visitEffect_of_file hfile hpath hl hb fun _ _ hb' e => (huniq hb' hb e).1⟩
    cases hw : visitEffect eng tgts σ src dest readAll w (b ++ dest ++ P) with
    | none => exact .inl rfl
    | some d =>
      obtain ⟨b', ctx', P', tmpl', hb', hq, -, -, hl', rfl⟩ := visitEffect_eq_some hw
      obtain ⟨rfl, rfl⟩ := huniq hb hb' hq
      obtain rfl : ctx' = ctx := Option.some.inj (hb'.symm.trans hb)
      obtain rfl : tmpl' = tmpl := Except.ok.inj (hl'.symm.trans hl)
      exact .inr rfl
  · refine seqEffect_eq_none fun w hw => ?_
    cases hw' : visitEffect eng tgts σ src dest readAll w (b ++ dest ++ P) with
    | none => rfl
    | some d =>
      obtain ⟨b', ctx', P', -, hb', hq, hfile, hpath, -⟩ := visitEffect_eq_some hw'
      obtain ⟨-, rfl⟩ := huniq hb hb' hq
      exact absurd ⟨w, hw, hfile, hpath⟩ hP

end

end PhpBuildpack.Supply
