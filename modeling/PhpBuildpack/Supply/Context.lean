import PhpBuildpack.Supply.Extensions

/-! The two binding contexts of `WriteConfigFiles`: `ctxRun` for the files the droplet reads
at run time, and `ctxStage`, its copy with the staging paths, for the PHP that runs
composer. The extension directives are built by ranging over Go maps, so their order is
the order of that range. -/
namespace PhpBuildpack.Supply
open Go

/-- `{{.name}}`, a template action that prints the context's value for `name`. -/
def fieldAction (name : String) : String := "\x7b\x7b." ++ name ++ "\x7d\x7d"

/-- The orders `WriteConfigFiles` ranges over its maps in while it builds the contexts. -/
structure ContextOrders where
  phpExtensions : RangeOrder (String × Bool)
  zendExtensions : RangeOrder (String × Bool)
  ctxRun : RangeOrder (String × String)

/-- The literal `ctxRun` starts from. -/
def ctxRunLiteral (s : Supplier) : GoMap String String :=
  GoMap.ofList [("DepsIdx", s.stager.depsIdx), ("PhpFpmConfInclude", ""),
    ("PhpFpmListen", "127.0.0.1:9000"), ("Webdir", s.webDir), ("HOME", fieldAction "HOME"),
    ("DEPS_DIR", fieldAction "DEPS_DIR"), ("TMPDIR", fieldAction "TMPDIR"), ("Libdir", "lib"),
    ("PhpExtensions", ""), ("ZendExtensions", "")]

/-- `for ext, _ := range exts { ctx[key] = ctx[key] + pre + ext + suf }`. -/
def appendDirectives (key pre suf : String) (ctx : GoMap String String) :
    List (String × Bool) → GoMap String String
  | [] => ctx
  | (ext, _) :: exts =>
    appendDirectives key pre suf (ctx.set key ((ctx.get key).getD "" ++ pre ++ ext ++ suf)) exts

/-- `ctxRun`: the literal, with one `extension=` line per PHP extension and one
`zend_extension=` line per Zend extension. -/
def ctxRun (σ : ContextOrders) (s : Supplier) : GoMap String String :=
  let ctx := appendDirectives "PhpExtensions" "extension=" ".so\n" (ctxRunLiteral s)
    (s.phpExtensions.range σ.phpExtensions)
  appendDirectives "ZendExtensions" "zend_extension=" "\n" ctx
    (s.zendExtensions.range σ.zendExtensions)

/-- `ctxStage`: a copy of `ctxRun` with the staging directories, and `openssl` loaded. -/
def ctxStage (σ : ContextOrders) (s : Supplier) : GoMap String String :=
  let run := ctxRun σ s
  let ctx := GoMap.ofList (run.range σ.ctxRun)
  let ctx := ctx.set "DEPS_DIR" (pathString s.stager.depsDir)
  let ctx := ctx.set "HOME" (pathString s.stager.buildDir)
  let ctx := ctx.set "TMPDIR" "/tmp"
  ctx.set "PhpExtensions" ((run.get "PhpExtensions").getD "" ++ "extension=openssl.so\n")

-- The directives `pre ++ e ++ suf`, one per name, in the order given.
def directives (pre suf : String) : List String → String
  | [] => ""
  | e :: es => pre ++ e ++ suf ++ directives pre suf es

section
variable {key pre suf : String} {ctx : GoMap String String} {exts : List (String × Bool)}

theorem appendDirectives_get_self {v : String} (hv : ctx.get key = some v) :
    (appendDirectives key pre suf ctx exts).get key =
      some (v ++ directives pre suf (exts.map Prod.fst)) := by
  induction exts generalizing ctx v with
  | nil => simp [appendDirectives, directives, hv]
  | cons p exts ih =>
    simp [appendDirectives, ih (GoMap.get_set_self _ _ _), directives, hv, String.append_assoc]

theorem appendDirectives_get_of_ne {k : String} (hk : k ≠ key) :
    (appendDirectives key pre suf ctx exts).get k = ctx.get k := by
  induction exts generalizing ctx with
  | nil => rfl
  | cons p exts ih => simp [appendDirectives, ih, hk]

theorem mem_appendDirectives (hkey : key ∈ ctx) {k : String} :
    k ∈ appendDirectives key pre suf ctx exts ↔ k ∈ ctx := by
  induction exts generalizing ctx with
  | nil => rfl
  | cons p exts ih =>
    rw [appendDirectives, ih (GoMap.mem_set.mpr (.inl rfl)), GoMap.mem_set]
    exact ⟨fun h => h.elim (· ▸ hkey) id, .inr⟩

end

theorem directives_append (pre suf e : String) (l : List String) :
    directives pre suf (l ++ [e]) = directives pre suf l ++ (pre ++ e ++ suf) := by
  induction l with
  | nil => simp [directives]
  | cons x l ih => simp [directives, ih, String.append_assoc]

-- The keys of the `ctxRun` literal.
def ctxKeys : List String :=
  ["DepsIdx", "PhpFpmConfInclude", "PhpFpmListen", "Webdir", "HOME", "DEPS_DIR", "TMPDIR",
    "Libdir", "PhpExtensions", "ZendExtensions"]

theorem mem_ctxRunLiteral (s : Supplier) (k : String) : k ∈ ctxRunLiteral s ↔ k ∈ ctxKeys := by
  simp [ctxRunLiteral, ctxKeys, GoMap.mem_ofList]

section
variable (σ : ContextOrders) (s : Supplier)

-- The PHP extensions in the order `WriteConfigFiles` ranges over them.
def phpNames : List String := (s.phpExtensions.range σ.phpExtensions).map Prod.fst

-- The Zend extensions in the order `WriteConfigFiles` ranges over them.
def zendNames : List String := (s.zendExtensions.range σ.zendExtensions).map Prod.fst

theorem mem_ctxRun (k : String) : k ∈ ctxRun σ s ↔ k ∈ ctxKeys := by
  rw [ctxRun, mem_appendDirectives, mem_appendDirectives, mem_ctxRunLiteral]
  · simp [mem_ctxRunLiteral, ctxKeys]
  · rw [mem_appendDirectives] <;> simp [mem_ctxRunLiteral, ctxKeys]

theorem ctxRun_get_php :
    (ctxRun σ s).get "PhpExtensions" =
      some (directives "extension=" ".so\n" (phpNames σ s)) := by
  rw [ctxRun, appendDirectives_get_of_ne (by decide),
    appendDirectives_get_self (show (ctxRunLiteral s).get "PhpExtensions" = some "" from rfl),
    String.empty_append, phpNames]

theorem ctxRun_get_zend :
    (ctxRun σ s).get "ZendExtensions" =
      some (directives "zend_extension=" "\n" (zendNames σ s)) := by
  have hz : (appendDirectives "PhpExtensions" "extension=" ".so\n" (ctxRunLiteral s)
      (s.phpExtensions.range σ.phpExtensions)).get "ZendExtensions" = some "" := by
    rw [appendDirectives_get_of_ne (by decide)]
    rfl
  rw [ctxRun, appendDirectives_get_self hz, String.empty_append, zendNames]

theorem ctxRun_get_of_ne {k : String} (hp : k ≠ "PhpExtensions") (hz : k ≠ "ZendExtensions") :
    (ctxRun σ s).get k = (ctxRunLiteral s).get k := by
  rw [ctxRun, appendDirectives_get_of_ne hz, appendDirectives_get_of_ne hp]

theorem ctxStage_get (k : String) :
    (ctxStage σ s).get k =
      if k = "PhpExtensions" then
        some (directives "extension=" ".so\n" (phpNames σ s) ++ "extension=openssl.so\n")
      else if k = "TMPDIR" then some "/tmp"
      else if k = "HOME" then some (pathString s.stager.buildDir)
      else if k = "DEPS_DIR" then some (pathString s.stager.depsDir)
      else (ctxRun σ s).get k := by
  simp only [ctxStage, GoMap.get_set, GoMap.get_ofList_range, ctxRun_get_php, Option.getD_some]

theorem ctxStage_get_php :
    (ctxStage σ s).get "PhpExtensions" =
      some (directives "extension=" ".so\n" (phpNames σ s ++ ["openssl"])) := by
  rw [ctxStage_get, if_pos rfl, directives_append]
  rfl

theorem mem_ctxStage (k : String) : k ∈ ctxStage σ s ↔ k ∈ ctxRun σ s := by
  have hcopy : k ∈ GoMap.ofList ((ctxRun σ s).range σ.ctxRun) ↔ k ∈ ctxRun σ s := by
    rw [GoMap.mem_ofList, (GoMap.range_keys_perm _ _).mem_iff, AList.mem_keys]
  simp only [ctxStage, GoMap.mem_set, hcopy, mem_ctxRun]
  constructor
  · rintro (rfl | rfl | rfl | rfl | h) <;> simp_all [ctxKeys]
  · exact fun h => .inr (.inr (.inr (.inr h)))

end

/-- The two contexts have the same keys and agree everywhere but on the three directory keys
and `PhpExtensions`. `ctxRun` has one directive per extension; `ctxStage` has the PHP
extensions' directives followed by `openssl`'s, which it therefore names twice when
`openssl` is already among them. -/
theorem contexts_agree (σ : ContextOrders) (s : Supplier) :
    (∀ k, k ∈ ctxRun σ s ↔ k ∈ ctxStage σ s) ∧
    (∀ k, k ∉ ["DEPS_DIR", "HOME", "TMPDIR", "PhpExtensions"] →
      (ctxStage σ s).get k = (ctxRun σ s).get k) ∧
    (∃ l, l.Perm s.phpExtensions.keys ∧
      (ctxRun σ s).get "PhpExtensions" = some (directives "extension=" ".so\n" l) ∧
      (ctxStage σ s).get "PhpExtensions" =
        some (directives "extension=" ".so\n" (l ++ ["openssl"]))) ∧
    ∃ l, l.Perm s.zendExtensions.keys ∧
      (ctxRun σ s).get "ZendExtensions" = some (directives "zend_extension=" "\n" l) := by
  refine ⟨fun k => (mem_ctxStage σ s k).symm, fun k hk => ?_,
    ⟨phpNames σ s, GoMap.range_keys_perm _ _, ctxRun_get_php σ s, ?_⟩,
    zendNames σ s, GoMap.range_keys_perm _ _, ctxRun_get_zend σ s⟩
  · simp only [List.mem_cons, List.mem_singleton, not_or] at hk
    simp [ctxStage_get, hk]
  · exact ctxStage_get_php σ s

/-- Composer asking for `ext-openssl` puts `openssl` among the PHP extensions, and
`ctxStage` then loads it twice. -/
theorem ctxStage_openssl_twice :
    (ctxStage ⟨.inOrder, .inOrder, .inOrder⟩
        ⟨⟨[], [], [], [], "0"⟩, "", "", ∅, ∅, GoMap.ofList [("openssl", true)], ∅, ""⟩).get
        "PhpExtensions" = some "extension=openssl.so\nextension=openssl.so\n" ∧
    ¬ ∃ l, l.Perm ["openssl"] ∧
      (ctxStage ⟨.inOrder, .inOrder, .inOrder⟩
        ⟨⟨[], [], [], [], "0"⟩, "", "", ∅, ∅, GoMap.ofList [("openssl", true)], ∅, ""⟩).get
        "PhpExtensions" = some (directives "extension=" ".so\n" l) := by
  refine ⟨rfl, ?_⟩
  rintro ⟨l, hl, h⟩
  rw [List.perm_singleton.mp hl] at h
  exact absurd h (by decide)

/-- Under any two choices of the iteration orders the contexts agree on every key but
`PhpExtensions` and `ZendExtensions`. Those list one directive per extension, in the order
the run ranged over the extension maps: the same directives, possibly reordered, and the
order of the copy into `ctxStage` plays no part. -/
theorem contexts_iteration_order (σ σ' : ContextOrders) (s : Supplier) :
    (∀ k, k ≠ "PhpExtensions" → k ≠ "ZendExtensions" →
      (ctxRun σ s).get k = (ctxRun σ' s).get k ∧ (ctxStage σ s).get k = (ctxStage σ' s).get k) ∧
    (ctxRun σ s).get "PhpExtensions" = some (directives "extension=" ".so\n" (phpNames σ s)) ∧
    (ctxStage σ s).get "PhpExtensions" =
      some (directives "extension=" ".so\n" (phpNames σ s ++ ["openssl"])) ∧
    (ctxRun σ s).get "ZendExtensions" =
      some (directives "zend_extension=" "\n" (zendNames σ s)) ∧
    (ctxStage σ s).get "ZendExtensions" = (ctxRun σ s).get "ZendExtensions" ∧
    (phpNames σ s).Perm (phpNames σ' s) ∧ (zendNames σ s).Perm (zendNames σ' s) := by
  have hrun : ∀ τ : ContextOrders, ∀ k, k ≠ "PhpExtensions" → k ≠ "ZendExtensions" →
      (ctxRun τ s).get k = (ctxRunLiteral s).get k := fun τ _ => ctxRun_get_of_ne τ s
  refine ⟨fun k hp hz => ⟨by rw [hrun σ k hp hz, hrun σ' k hp hz], ?_⟩, ctxRun_get_php σ s,
    ctxStage_get_php σ s, ctxRun_get_zend σ s, by rw [ctxStage_get]; rfl, ?_, ?_⟩
  · simp only [ctxStage_get, if_neg hp]
    split_ifs <;> simp only [hrun σ k hp hz, hrun σ' k hp hz]
  · exact (GoMap.range_keys_perm _ _).trans (GoMap.range_keys_perm _ _).symm
  · exact (GoMap.range_keys_perm _ _).trans (GoMap.range_keys_perm _ _).symm

/-- Two runs that range over `pdo` and `pdo_mysql` in opposite orders bind different
`PhpExtensions` values. -/
theorem ctxRun_php_order_differs :
    (ctxRun ⟨.inOrder, .inOrder, .inOrder⟩
        ⟨⟨[], [], [], [], "0"⟩, "", "", ∅, ∅,
          GoMap.ofList [("pdo", true), ("pdo_mysql", true)], ∅, ""⟩).get "PhpExtensions" ≠
    (ctxRun ⟨.reversed, .inOrder, .inOrder⟩
        ⟨⟨[], [], [], [], "0"⟩, "", "", ∅, ∅,
          GoMap.ofList [("pdo", true), ("pdo_mysql", true)], ∅, ""⟩).get "PhpExtensions" := by
  decide

/-- From the two JSON files to the PHP configuration: after `SetupExtensions`, `ctxRun`
loads each extension the files ask for exactly once, and `ctxStage` loads them and then
`openssl`. -/
theorem setupExtensions_directives (σ : RangeOrder (String × JsonVal)) (τ : ContextOrders)
    (s : Supplier) :
    ∃ s', setupExtensions σ s = some s' ∧ ∃ l : List String, l.Nodup ∧
      (∀ e, e ∈ l ↔ PhpExtensionOf s.optionsJson s.composerJson e) ∧
      (ctxRun τ s').get "PhpExtensions" = some (directives "extension=" ".so\n" l) ∧
      (ctxStage τ s').get "PhpExtensions" =
        some (directives "extension=" ".so\n" (l ++ ["openssl"])) := by
  obtain ⟨php, h, hphp⟩ := setupExtensions_eq σ s
  refine ⟨_, h, phpNames τ _, GoMap.range_keys_nodup _ _, fun e => ?_, ctxRun_get_php τ _, ?_⟩
  · rw [phpNames, (GoMap.range_keys_perm _ _).mem_iff, ← AList.mem_keys]
    exact hphp e
  · exact ctxStage_get_php τ _

end PhpBuildpack.Supply
