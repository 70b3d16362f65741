import GatewayMigration.Proofs.Conversion.Accounting
import GatewayMigration.Proofs.RuleGroup.Merging
import GatewayMigration.Proofs.RuleGroup.Splitting

/-!
# Types of paths

A path says in its type how it is compared. Two types have a translation of their own, one is left
to the provider, and a path of any other type is reported and leads nowhere. But the type is looked
at only if the path has a text: a path without one matches every request, whatever its type.

## Main definitions

* `IngressPath.Untranslated`: a path type without a translation
* `Ingress.withoutPath`: an Ingress with one path less
* `TypeRefused`: a path is reported for its type, and nothing comes of it
* `TypeDecides`: what the type of a path decides

## Main results

* `IngressPath.toPathMatch_of_untranslated`, `IngressPath.toPathMatch_of_empty`: what decides on a
  path
* `Conversion.topology_withoutPath`: a path that does not convert may be left out
* `typeDecides_convert`: a path is compared as its type says just when it has a text
-/

namespace GatewayMigration

/-! ### Translations -/

namespace IngressPath

variable {options : ConversionOptions} {p : IngressPath} {value : String}

/-- A path type without a translation: it is none of the known types, or it is left to the provider,
which does not say how such a path is compared. -/
inductive Untranslated (options : ConversionOptions) : String → Prop
  | specific (hprovider : options.specificPath = none) :
      Untranslated options "ImplementationSpecific"
  | unknown {pathType : String}
      (htype : pathType ∉ ["", "Prefix", "Exact", "ImplementationSpecific"]) :
      Untranslated options pathType

/-- The message for a path type without a translation. -/
def typeMessage (pathType : String) : String :=
  if pathType = "ImplementationSpecific" then
    "implementation specific path type is not supported by this provider"
  else "unsupported path type: " ++ pathType

/-- The error for a path type without a translation, seen from the path. -/
def typeError (pathType : String) : FieldError :=
  (FieldError.here .notSupported (typeMessage pathType)).inField "pathType"

/-- A path without a text matches every request. -/
theorem toPathMatch_of_empty (h : Ingress.nonempty? p.path = none) :
    p.toPathMatch options = .ok (.pathPrefix "/") := by
  unfold toPathMatch
  rw [h]

/-- A path with a text is refused if its type has no translation. -/
theorem toPathMatch_of_untranslated (h : Ingress.nonempty? p.path = some value)
    (htype : Untranslated options p.pathType) :
    p.toPathMatch options = .error (typeError p.pathType) := by
  unfold toPathMatch
  rw [h]
  dsimp only
  generalize p.pathType = pathType at htype
  cases htype with
  | specific hprovider => simp [hprovider, typeError, typeMessage]
  | unknown htype =>
    simp only [List.mem_cons, List.not_mem_nil, or_false, not_or] at htype
    obtain ⟨hempty, hprefix, hexact, hspecific⟩ := htype
    split <;> simp_all [typeError, typeMessage]

theorem toPathMatch_exact (h : Ingress.nonempty? p.path = some value)
    (htype : p.pathType = "Exact") : p.toPathMatch options = .ok (.exact value) := by
  unfold toPathMatch
  rw [h, htype]
  rfl

theorem convert_of_toPathMatch_error {e : FieldError} (h : p.toPathMatch options = .error e) :
    p.convert options = .error e := by
  unfold convert
  rw [h]
  rfl

/-- A path with a match can only fail for its backend. -/
theorem exists_path_of_convert_error {m : PathMatch} {e : FieldError}
    (hm : p.toPathMatch options = .ok m) (h : p.convert options = .error e) :
    ∃ rest, e.path = .field "backend" :: rest := by
  unfold convert at h
  rw [hm] at h
  cases hb : p.backend.toBackendRef with
  | error cause =>
    rw [hb] at h
    cases h
    exact ⟨cause.path, rfl⟩
  | ok b =>
    rw [hb] at h
    cases h

end IngressPath

/-! ### One path less -/

/-- A rule with one path less. -/
def IngressRule.withoutPath (rule : IngressRule) (j : Nat) : IngressRule :=
  { rule with paths := rule.paths.map (·.eraseIdx j) }

/-- An Ingress with one path less. -/
def Ingress.withoutPath (i : Ingress) (n j : Nat) : Ingress :=
  { i with spec := i.spec.map fun spec =>
      { spec with rules := spec.rules.map (·.modify n (·.withoutPath j)) } }

/-- What a rule does to the group of its key. -/
def RuleSite.change (options : ConversionOptions) (s : RuleSite) :
    GroupKey × (Option RuleGroup → RuleGroup) :=
  (s.key, RuleGroup.absorb options s)

/-- Groups are made by what rules do to them. -/
theorem RuleGroup.gather_congr {options : ConversionOptions} {sites sites' : List RuleSite}
    (h : sites.map (RuleSite.change options) = sites'.map (RuleSite.change options)) :
    gather options sites = gather options sites' := by
  have hgather : ∀ sites : List RuleSite, gather options sites =
      (sites.map (RuleSite.change options)).foldl (fun groups c => groups.upsert c.1 c.2) ∅ := by
    intro sites
    rw [List.foldl_map]
    rfl
  rw [hgather, hgather, h]

namespace Ingress

variable (options : ConversionOptions) (i : Ingress) (n j : Nat)

theorem rules_withoutPath : (i.withoutPath n j).rules = i.rules.modify n (·.withoutPath j) := by
  obtain ⟨metadata, spec⟩ := i
  cases spec with
  | none => simp [rules, withoutPath]
  | some spec =>
    obtain ⟨defaultBackend, className, rules, tls⟩ := spec
    cases rules <;> simp [Ingress.rules, withoutPath]

theorem tls_withoutPath : (i.withoutPath n j).tls = i.tls := by
  obtain ⟨metadata, spec⟩ := i
  cases spec <;> rfl

theorem conversionClass_withoutPath :
    (i.withoutPath n j).conversionClass options = i.conversionClass options := by
  obtain ⟨metadata, spec⟩ := i
  cases spec <;> rfl

theorem defaultRoute?_withoutPath :
    (i.withoutPath n j).defaultRoute? options = i.defaultRoute? options := by
  obtain ⟨metadata, spec⟩ := i
  cases spec <;> rfl

variable {options} {i} {n} {j}

/-- **A path that does not convert may be left out**: its rule does the same to its group. -/
theorem map_change_withoutPath {rule : IngressRule} (hn : i.rules[n]? = some rule)
    {path : IngressPath} (hj : (rule.paths.getD [])[j]? = some path) {e : FieldError}
    (he : path.convert options = .error e) :
    ((i.withoutPath n j).sites options).map (RuleSite.change options) =
      (i.sites options).map (RuleSite.change options) := by
  have hrouted : ((rule.withoutPath j).paths.getD []).filterMap
      (fun p => (p.convert options).toOption) =
        (rule.paths.getD []).filterMap fun p => (p.convert options).toOption := by
    cases hpaths : rule.paths with
    | none =>
      rw [hpaths] at hj
      cases hj
    | some paths =>
      rw [hpaths] at hj
      rw [IngressRule.withoutPath, hpaths]
      exact filterMap_eraseIdx hj (by rw [he]; rfl)
  -- rule by rule: only the rule of the path is another one
  apply List.ext_getElem?
  intro m
  simp only [sites, List.getElem?_map, List.getElem?_mapIdx, rules_withoutPath,
    List.getElem?_modify, tls_withoutPath, conversionClass_withoutPath]
  by_cases hm : n = m
  · subst hm
    simp only [hn, Option.map_some, if_true, Option.map_eq_map, RuleSite.change, RuleSite.key,
      Option.some.injEq, Prod.mk.injEq]
    refine ⟨rfl, funext fun group => ?_⟩
    simp only [RuleGroup.absorb, RuleSite.routed_eq_filterMap, hrouted]
    rfl
  · simp only [hm, if_false, Option.map_eq_map, Option.map_id']
    rfl

end Ingress

namespace Conversion

variable {options : ConversionOptions}

/-- What rules do to their groups and the default backends make the topology. -/
theorem topology_congr {ingresses ingresses' : List Ingress}
    (hsites : (ingresses.flatMap (Ingress.sites options)).map (RuleSite.change options) =
      (ingresses'.flatMap (Ingress.sites options)).map (RuleSite.change options))
    (hdefaults : ingresses.filterMap (Ingress.defaultRoute? options) =
      ingresses'.filterMap (Ingress.defaultRoute? options)) :
    (convert options ingresses).1 = (convert options ingresses').1 := by
  unfold convert
  rw [RuleGroup.gather_congr hsites, hdefaults]

/-- **Nothing comes of a path that does not convert.** -/
theorem topology_withoutPath (before after : List Ingress) {i : Ingress} {n : Nat}
    {rule : IngressRule} (hn : i.rules[n]? = some rule) {j : Nat} {path : IngressPath}
    (hj : (rule.paths.getD [])[j]? = some path) {e : FieldError}
    (he : path.convert options = .error e) :
    (convert options (before ++ i.withoutPath n j :: after)).1 =
      (convert options (before ++ i :: after)).1 := by
  apply topology_congr
  · simp only [List.flatMap_append, List.flatMap_cons, List.map_append]
    rw [Ingress.map_change_withoutPath hn hj he]
  · simp only [List.filterMap_append, List.filterMap_cons, Ingress.defaultRoute?_withoutPath]

end Conversion

/-! ### Paths and their types -/

/-- A path of an Ingress is reported for its type, and nothing comes of it. -/
structure TypeRefused (options : ConversionOptions) (before : List Ingress) (i : Ingress)
    (after : List Ingress) (n j : Nat) (pathType : String) : Prop where
  /-- The Ingress has one error under the field of the path, and it is for the type. -/
  own : (i.fieldErrors options).filter (·.isUnder (Ingress.pathField n j)) =
    [((IngressPath.typeError pathType).under (Ingress.pathField n j)).ofObject i.ref]
  /-- The conversion reports that error once. What else it reports there is for other Ingresses of
  the same name. -/
  reported : (convert options (before ++ i :: after)).2.filter
      (fun e => e.object = some i.ref ∧ e.isUnder (Ingress.pathField n j) = true) =
    ((before.filter fun i' => i'.ref = i.ref).flatMap fun i' =>
        (i'.fieldErrors options).filter (·.isUnder (Ingress.pathField n j))) ++
      ((IngressPath.typeError pathType).under (Ingress.pathField n j)).ofObject i.ref ::
        (after.filter fun i' => i'.ref = i.ref).flatMap fun i' =>
          (i'.fieldErrors options).filter (·.isUnder (Ingress.pathField n j))
  /-- The topology is the one without the path. -/
  idle : (convert options (before ++ i.withoutPath n j :: after)).1 =
    (convert options (before ++ i :: after)).1

theorem typeRefused_of_untranslated (options : ConversionOptions) (before after : List Ingress)
    {i : Ingress} {n : Nat} {rule : IngressRule} (hn : i.rules[n]? = some rule) {j : Nat}
    {path : IngressPath} (hj : (rule.paths.getD [])[j]? = some path) {value : String}
    (hvalue : Ingress.nonempty? path.path = some value)
    (htype : IngressPath.Untranslated options path.pathType) :
    TypeRefused options before i after n j path.pathType := by
  have he := IngressPath.convert_of_toPathMatch_error
    (IngressPath.toPathMatch_of_untranslated hvalue htype)
  -- the error of the path is all there is under its field
  have hown : (i.fieldErrors options).filter (·.isUnder (Ingress.pathField n j)) =
      [((IngressPath.typeError path.pathType).under (Ingress.pathField n j)).ofObject i.ref] := by
    have herror := Ingress.filter_fieldErrors_field (i.mem_pathSites options hn hj)
    rw [PathSite.error?_eq_some_iff.mpr ⟨_, he, rfl⟩] at herror
    exact herror
  refine ⟨hown, ?_, Conversion.topology_withoutPath before after hn hj he⟩
  rw [Conversion.filter_errors_convert, List.filter_append, List.filter_cons_of_pos (by simp),
    List.flatMap_append, List.flatMap_cons, hown]
  rfl

/-- An error under the field of a path without a text is for its backend. -/
theorem exists_path_of_mem_fieldErrors {options : ConversionOptions} {i : Ingress} {n : Nat}
    {rule : IngressRule} (hn : i.rules[n]? = some rule) {j : Nat} {path : IngressPath}
    (hj : (rule.paths.getD [])[j]? = some path) (hpath : Ingress.nonempty? path.path = none)
    {e : FieldError} (he : e ∈ (i.fieldErrors options).filter (·.isUnder (Ingress.pathField n j))) :
    ∃ rest, e.path = Ingress.pathField n j ++ .field "backend" :: rest := by
  have herror := Ingress.filter_fieldErrors_field (i.mem_pathSites options hn hj)
  have he := Option.mem_toList.mp (herror ▸ he)
  obtain ⟨cause, hcause, rfl⟩ := PathSite.error?_eq_some_iff.mp he
  obtain ⟨rest, hrest⟩ :=
    IngressPath.exists_path_of_convert_error (IngressPath.toPathMatch_of_empty hpath) hcause
  refine ⟨rest, ?_⟩
  rw [FieldError.ofObject_path, FieldError.under_path, hrest]
  rfl

/-- What the type of a path decides. -/
structure TypeDecides (options : ConversionOptions) (before : List Ingress) (i : Ingress)
    (after : List Ingress) (n j : Nat) (path : IngressPath) : Prop where
  /-- A path whose type has no translation is refused just when it has a text. -/
  refused : IngressPath.Untranslated options path.pathType →
    (TypeRefused options before i after n j path.pathType ↔
      Ingress.nonempty? path.path ≠ none)
  /-- A path that is to be compared as a whole converts to a prefix just when it has no text. -/
  widened : path.pathType = "Exact" →
    ((∃ value b, path.convert options = .ok (.pathPrefix value, b)) ↔
      Ingress.nonempty? path.path = none ∧ ∃ b, path.backend.Denotes b)
  /-- A path without a text is the prefix of every path, whatever its type. -/
  untyped : Ingress.nonempty? path.path = none →
    path.convert options = { path with path := some "/", pathType := "Prefix" }.convert options

/-- **Types of paths.** For a path of an Ingress, whatever the other Ingresses and the options:
without a translation for its type it is refused just when it has a text, and it is widened to a
prefix just when it has none. -/
theorem typeDecides_convert (options : ConversionOptions) (before after : List Ingress)
    (i : Ingress) (n : Nat) (rule : IngressRule) (hn : i.rules[n]? = some rule) (j : Nat)
    (path : IngressPath) (hj : (rule.paths.getD [])[j]? = some path) :
    TypeDecides options before i after n j path where
  refused htype := by
    constructor
    · intro hrefused hpath
      have herror := hrefused.own ▸ List.mem_singleton_self _
      obtain ⟨rest, hrest⟩ := exists_path_of_mem_fieldErrors hn hj hpath herror
      -- the error for the type is not under the backend
      rw [FieldError.ofObject_path, FieldError.under_path, List.append_cancel_left_eq] at hrest
      simp [IngressPath.typeError, FieldError.inField, FieldError.under] at hrest
    · intro hpath
      obtain ⟨value, hvalue⟩ := Option.ne_none_iff_exists'.mp hpath
      exact typeRefused_of_untranslated options before after hn hj hvalue htype
  widened htype := by
    simp only [IngressPath.convert_eq_ok_iff]
    constructor
    · rintro ⟨value, b, hmatch, hb⟩
      refine ⟨?_, b, hb⟩
      by_contra hpath
      obtain ⟨text, htext⟩ := Option.ne_none_iff_exists'.mp hpath
      rw [IngressPath.toPathMatch_exact htext htype] at hmatch
      cases hmatch
    · rintro ⟨hpath, b, hb⟩
      exact ⟨"/", b, IngressPath.toPathMatch_of_empty hpath, hb⟩
  untyped hpath := by
    unfold IngressPath.convert
    rw [IngressPath.toPathMatch_of_empty hpath]
    rfl

/-- The Ingress `web` with one path. -/
def Ingress.ofPath (text : Option String) (pathType : String) : Ingress where
  metadata := .ofName ⟨"default", "web"⟩
  spec := some {
    defaultBackend := none
    className := some "gce"
    rules := some [⟨some "foo.com",
      some [⟨text, pathType, ⟨some ⟨"web", some ⟨none, some 80⟩⟩, none⟩⟩]⟩]
    tls := none }

theorem typeDecides_convert_regex :
    (Ingress.ofPath (some "/a.*") "Regex").rules[0]?.isSome = true ∧
    TypeRefused ⟨none, none⟩ [] (.ofPath (some "/a.*") "Regex") [] 0 0 "Regex" :=
  ⟨rfl, ((typeDecides_convert ⟨none, none⟩ [] [] (.ofPath (some "/a.*") "Regex") 0 _ rfl 0 _
    rfl).refused (.unknown (by decide))).mpr (by decide)⟩

/-- A path without a text gets no error for its type, and one that is to be compared as a whole
becomes a prefix. -/
theorem not_forall_types_observed :
    (¬ ∀ options before i after n rule j path, i.rules[n]? = some rule →
      (rule.paths.getD [])[j]? = some path → IngressPath.Untranslated options path.pathType →
        TypeRefused options before i after n j path.pathType) ∧
    ¬ ∀ (options : ConversionOptions) (path : IngressPath), path.pathType = "Exact" →
      ∀ value b, path.convert options ≠ .ok (.pathPrefix value, b) := by
  constructor
  · intro h
    have hrefused := h ⟨none, none⟩ [] (.ofPath none "Regex") [] 0 _ 0 _ rfl rfl
      (.unknown (by decide))
    have hnone : ((Ingress.ofPath none "Regex").fieldErrors ⟨none, none⟩).filter
        (·.isUnder (Ingress.pathField 0 0)) = [] := by decide +kernel
    have hown := hrefused.own
    rw [hnone] at hown
    cases hown
  · intro h
    exact h ⟨none, none⟩ ⟨none, "Exact", ⟨some ⟨"web", some ⟨none, some 80⟩⟩, none⟩⟩ rfl "/"
      (.service "web" 80) rfl

end GatewayMigration
