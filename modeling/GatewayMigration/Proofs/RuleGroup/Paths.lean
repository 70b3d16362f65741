import GatewayMigration.Proofs.Lists
import GatewayMigration.RuleGroup

/-!
# The paths of an Ingress

Every path stands at a field of its own. It either has a match and a backend or is an error under
its field, and the other errors of the Ingress are under other fields.

## Main definitions

* `PathSite`: a path and where it stands
* `PathSite.routed?`, `PathSite.error?`: what a path is converted to, or its error
* `Ingress.pathSites`: the paths of an Ingress
* `Ingress.defaultError?`: the error of a default backend

## Main results

* `Ingress.nodup_fields`: no two paths stand at one field
* `Ingress.fieldErrors_eq`: the errors of an Ingress, one by one
* `Ingress.filter_fieldErrors_field`: the errors under the field of a path are those of the path
* `Ingress.filter_fieldErrors_defaultBackendPath`: the same for the default backend
-/

namespace GatewayMigration

/-! ### Errors and fields -/

namespace FieldError

variable (e : FieldError)

/-- The error is at a field or below it. -/
def isUnder (field : FieldPath) : Bool := field.isPrefixOf e.path

theorem isUnder_iff {field : FieldPath} : e.isUnder field = true ↔ field <+: e.path :=
  List.isPrefixOf_iff_prefix

@[simp] theorem under_path (field : FieldPath) : (e.under field).path = field ++ e.path := rfl

@[simp] theorem ofObject_path (object : ObjectRef) : (e.ofObject object).path = e.path := rfl

theorem ofObject_object {e : FieldError} (h : e.object = none) (field : FieldPath)
    (object : ObjectRef) : ((e.under field).ofObject object).object = some object := by
  show e.object.or (some object) = some object
  rw [h, Option.none_or]

end FieldError

/-! ### Errors of paths and backends

The errors of the parts of an Ingress do not name an object; the Ingress is named at the end. -/

theorem IngressService.object_of_error {s : IngressService} {e : FieldError}
    (h : s.toBackendRef = .error e) : e.object = none := by
  unfold toBackendRef at h
  grind [FieldError.here, FieldError.under]

theorem IngressBackend.object_of_error {b : IngressBackend} {e : FieldError}
    (h : b.toBackendRef = .error e) : e.object = none := by
  unfold toBackendRef at h
  split at h
  · exact IngressService.object_of_error h
  · cases h
  · cases h
    rfl

namespace IngressPath

variable {options : ConversionOptions} {p : IngressPath} {e : FieldError}

theorem object_of_toPathMatch_error (h : p.toPathMatch options = .error e) : e.object = none := by
  unfold toPathMatch at h
  grind [FieldError.here, FieldError.under, FieldError.inField]

theorem object_of_error (h : p.convert options = .error e) : e.object = none := by
  unfold convert at h
  cases hm : p.toPathMatch options with
  | error e' =>
    rw [hm] at h
    cases h
    exact object_of_toPathMatch_error hm
  | ok m =>
    cases hb : p.backend.toBackendRef with
    | error e' =>
      rw [hm, hb] at h
      cases h
      show e'.object = none
      exact IngressBackend.object_of_error hb
    | ok b =>
      rw [hm, hb] at h
      cases h

end IngressPath

/-! ### Paths -/

/-- The field of a path of a rule. -/
def Ingress.pathField (rule path : Nat) : FieldPath :=
  [.field "spec", .field "rules", .index rule, .field "http", .field "paths", .index path]

/-- A path and where it stands. -/
structure PathSite where
  site : RuleSite
  /-- The position of the path in its rule. -/
  index : Nat
  path : IngressPath

namespace PathSite

variable (options : ConversionOptions) (p : PathSite)

/-- The key of the group of the path. -/
def key : GroupKey := p.site.key

/-- The field of the path in its Ingress. -/
def field : FieldPath := Ingress.pathField p.site.index p.index

/-- The match and the backend of a path that converts. -/
def routed? : Option (PathMatch × BackendRef) := (p.path.convert options).toOption

/-- The error of a path that does not convert. -/
def error? : Option FieldError :=
  match p.path.convert options with
  | .error e => some ((e.under p.field).ofObject ⟨"Ingress", p.site.ingress⟩)
  | .ok _ => none

variable {options} {p}

theorem error?_eq_some_iff {e : FieldError} : p.error? options = some e ↔
    ∃ cause, p.path.convert options = .error cause ∧
      (cause.under p.field).ofObject ⟨"Ingress", p.site.ingress⟩ = e := by
  unfold error?
  cases p.path.convert options <;> simp

/-- The error of a path is under its field. -/
theorem field_prefix_of_error? {e : FieldError} (h : p.error? options = some e) :
    p.field <+: e.path := by
  obtain ⟨cause, -, rfl⟩ := error?_eq_some_iff.mp h
  exact List.prefix_append _ _

/-- The error of a path names its Ingress. -/
theorem object_of_error? {e : FieldError} (h : p.error? options = some e) :
    e.object = some ⟨"Ingress", p.site.ingress⟩ := by
  obtain ⟨cause, hcause, rfl⟩ := error?_eq_some_iff.mp h
  exact FieldError.ofObject_object (IngressPath.object_of_error hcause) _ _

/-- Fields of paths are as long as each other, so none is below another one. -/
theorem field_prefix_iff {q : PathSite} {rest : FieldPath} :
    p.field <+: q.field ++ rest ↔ p.field = q.field := by
  constructor
  · intro h
    -- the shorter of two prefixes is a prefix of the longer one
    have hp : p.field <+: q.field :=
      List.prefix_of_prefix_length_le h (List.prefix_append _ _) (Nat.le_of_eq rfl)
    exact hp.eq_of_length rfl
  · intro h
    rw [h]
    exact List.prefix_append _ _

theorem isUnder_error?_iff {q : PathSite} {e : FieldError} (h : q.error? options = some e) :
    e.isUnder p.field = true ↔ q.field = p.field := by
  obtain ⟨rest, hrest⟩ := field_prefix_of_error? h
  rw [FieldError.isUnder_iff, ← hrest, field_prefix_iff, eq_comm]

theorem filter_filterMap_error? (ps : List PathSite) :
    (ps.filterMap (error? options)).filter (·.isUnder p.field) =
      (ps.filter fun q => q.field = p.field).filterMap (error? options) := by
  rw [List.filter_filterMap, List.filterMap_filter]
  refine List.filterMap_congr fun q _ => ?_
  cases hq : q.error? options with
  | none => simp
  | some e =>
    have hiff := isUnder_error?_iff (p := p) hq
    by_cases hf : q.field = p.field
    · simp [hf, hiff.mpr hf]
    · have hn : e.isUnder p.field = false := by simpa using mt hiff.mp hf
      simp [hf, hn]

end PathSite

namespace RuleSite

variable (options : ConversionOptions) (s : RuleSite)

/-- The paths of a rule. -/
def pathSites : List PathSite := (s.rule.paths.getD []).mapIdx fun j p => ⟨s, j, p⟩

theorem site_of_mem_pathSites {s : RuleSite} {p : PathSite} (h : p ∈ s.pathSites) : p.site = s := by
  obtain ⟨j, _, rfl⟩ := List.mem_mapIdx.mp h
  rfl

theorem routed_eq : s.routed options = s.pathSites.filterMap (PathSite.routed? options) := by
  simp only [routed, conversions, pathSites, List.mapIdx_eq_zipIdx_map, List.filterMap_map]
  refine List.filterMap_congr fun a _ => ?_
  show ((a.1.convert options).mapError _).toOption = (a.1.convert options).toOption
  cases a.1.convert options <;> rfl

variable {options} {s} in
theorem mem_routed_iff {c : PathMatch × BackendRef} : c ∈ s.routed options ↔
    ∃ path ∈ s.rule.paths.getD [], path.convert options = .ok c := by
  have hc : ∀ path : IngressPath,
      (path.convert options).toOption = some c ↔ path.convert options = .ok c := fun path => by
    cases path.convert options <;> simp [Except.toOption]
  simp only [routed_eq, pathSites, List.mem_filterMap, List.mem_mapIdx, PathSite.routed?]
  constructor
  · rintro ⟨_, ⟨j, hj, rfl⟩, h⟩
    exact ⟨_, List.getElem_mem hj, (hc _).mp h⟩
  · rintro ⟨path, hpath, h⟩
    obtain ⟨j, hj, rfl⟩ := List.getElem_of_mem hpath
    exact ⟨_, ⟨j, hj, rfl⟩, (hc _).mpr h⟩

theorem map_errors_eq :
    (s.errors options).map (·.ofObject ⟨"Ingress", s.ingress⟩) =
      s.pathSites.filterMap (PathSite.error? options) := by
  simp only [errors, conversions, pathSites, List.mapIdx_eq_zipIdx_map, List.filterMap_map,
    List.map_filterMap]
  refine List.filterMap_congr fun a _ => ?_
  unfold PathSite.error?
  dsimp only [Function.comp_apply]
  cases a.1.convert options <;> rfl

theorem nodup_fields : (s.pathSites.map PathSite.field).Nodup := by
  have hindex : (s.pathSites.map PathSite.index).Nodup := by
    rw [pathSites, map_mapIdx_eq_range fun _ _ => rfl]
    exact List.nodup_range
  -- the last step of a field is the position of the path
  refine List.Nodup.of_map (fun path => path.getLast?) ?_
  rw [List.map_map]
  have hlast : (fun path : FieldPath => path.getLast?) ∘ PathSite.field =
      (fun j => some (PathEntry.index j)) ∘ PathSite.index := by
    funext p
    simp [PathSite.field, Ingress.pathField]
  rw [hlast, ← List.map_map]
  refine hindex.map fun j j' h => ?_
  simpa using h

end RuleSite

namespace Ingress

variable (options : ConversionOptions) (i : Ingress)

/-- The key of the group of a rule. -/
def keyOf (options : ConversionOptions) (i : Ingress) (rule : IngressRule) : GroupKey :=
  ⟨i.objectName.ns, i.conversionClass options, rule.host.getD ""⟩

/-- A rule and where it stands in the Ingress. -/
def siteOf (options : ConversionOptions) (i : Ingress) (n : Nat) (rule : IngressRule) : RuleSite :=
  ⟨i.objectName, i.conversionClass options, n, rule, i.tls⟩

/-- The paths of an Ingress. -/
def pathSites (options : ConversionOptions) (i : Ingress) : List PathSite :=
  (i.sites options).flatMap RuleSite.pathSites

theorem mem_sites {n : Nat} {rule : IngressRule} (h : i.rules[n]? = some rule) :
    i.siteOf options n rule ∈ i.sites options := by
  obtain ⟨hn, rfl⟩ := List.getElem?_eq_some_iff.mp h
  exact List.mem_mapIdx.mpr ⟨n, hn, rfl⟩

theorem mem_flatMap_sites {ingresses : List Ingress} {i : Ingress} (hi : i ∈ ingresses) {n : Nat}
    {rule : IngressRule} (h : i.rules[n]? = some rule) :
    i.siteOf options n rule ∈ ingresses.flatMap (sites options) :=
  List.mem_flatMap.mpr ⟨i, hi, i.mem_sites options h⟩

theorem mem_pathSites {n : Nat} {rule : IngressRule} (h : i.rules[n]? = some rule) {j : Nat}
    {path : IngressPath} (hpath : (rule.paths.getD [])[j]? = some path) :
    ⟨i.siteOf options n rule, j, path⟩ ∈ i.pathSites options := by
  obtain ⟨hj, rfl⟩ := List.getElem?_eq_some_iff.mp hpath
  exact List.mem_flatMap.mpr ⟨_, i.mem_sites options h, List.mem_mapIdx.mpr ⟨j, hj, rfl⟩⟩

theorem ingress_of_mem_sites {i : Ingress} {s : RuleSite} (h : s ∈ i.sites options) :
    s.ingress = i.objectName := by
  obtain ⟨n, _, rfl⟩ := List.mem_mapIdx.mp h
  rfl

/-- No two paths stand at one field. -/
theorem nodup_fields : ((i.pathSites options).map PathSite.field).Nodup := by
  rw [pathSites, List.map_flatMap, List.nodup_flatMap]
  refine ⟨fun s _ => s.nodup_fields, ?_⟩
  have hindex : ((i.sites options).map RuleSite.index).Nodup := by
    rw [sites, map_mapIdx_eq_range fun _ _ => rfl]
    exact List.nodup_range
  refine (List.pairwise_map.mp hindex).imp fun {s s'} hne => ?_
  -- the fields of different rules differ in the index of the rule
  intro path hpath hpath'
  obtain ⟨p, hp, rfl⟩ := List.mem_map.mp hpath
  obtain ⟨q, hq, hfield⟩ := List.mem_map.mp hpath'
  have hsite : q.site.index = p.site.index := by
    have h := congrArg (fun path : FieldPath => path[2]?) hfield
    simpa [PathSite.field, pathField] using h
  rw [RuleSite.site_of_mem_pathSites hp, RuleSite.site_of_mem_pathSites hq] at hsite
  exact hne hsite.symm

/-- The error of a default backend that does not convert. -/
def defaultError? : Option FieldError :=
  match i.defaultConversion options with
  | some (.error e) => some (e.ofObject i.ref)
  | _ => none

/-- **The errors of an Ingress** are those of its paths, in order, and that of its default
backend. -/
theorem fieldErrors_eq : i.fieldErrors options =
    (i.pathSites options).filterMap (PathSite.error? options) ++
      (i.defaultError? options).toList := by
  unfold fieldErrors
  rw [List.map_append, List.map_flatMap, pathSites, List.filterMap_flatMap]
  congr 1
  · refine List.flatMap_congr fun s hs => ?_
    rw [← RuleSite.map_errors_eq, ingress_of_mem_sites options hs]
    rfl
  · unfold defaultError?
    cases i.defaultConversion options with
    | none => rfl
    | some c => cases c <;> rfl

variable {options} {i}

theorem defaultError?_eq_some_iff {e : FieldError} : i.defaultError? options = some e ↔
    ∃ b, i.defaultBackend? = some b ∧ ∃ cause, b.toBackendRef = .error cause ∧
      (cause.under defaultBackendPath).ofObject i.ref = e := by
  unfold defaultError? defaultConversion
  cases i.defaultBackend? with
  | none => simp
  | some b => cases hr : b.toBackendRef <;> simp [hr, Except.mapError, Except.map]

theorem field_prefix_of_defaultError? {e : FieldError} (h : i.defaultError? options = some e) :
    defaultBackendPath <+: e.path := by
  obtain ⟨b, -, cause, -, rfl⟩ := defaultError?_eq_some_iff.mp h
  exact List.prefix_append _ _

/-- The errors of an Ingress name it. -/
theorem object_of_mem_fieldErrors {e : FieldError} (h : e ∈ i.fieldErrors options) :
    e.object = some i.ref := by
  rw [fieldErrors_eq, List.mem_append] at h
  rcases h with h | h
  · obtain ⟨p, hp, he⟩ := List.mem_filterMap.mp h
    obtain ⟨s, hs, hps⟩ := List.mem_flatMap.mp hp
    rw [PathSite.object_of_error? he, RuleSite.site_of_mem_pathSites hps,
      ingress_of_mem_sites options hs]
    rfl
  · obtain ⟨b, -, cause, hcause, rfl⟩ := defaultError?_eq_some_iff.mp (Option.mem_toList.mp h)
    exact FieldError.ofObject_object (IngressBackend.object_of_error hcause) _ _

/-! ### Errors under one field -/

/-- **The errors under the field of a path** are those of the path. -/
theorem filter_fieldErrors_field {p : PathSite} (hp : p ∈ i.pathSites options) :
    (i.fieldErrors options).filter (·.isUnder p.field) = (p.error? options).toList := by
  have hdefault : (i.defaultError? options).toList.filter (·.isUnder p.field) = [] := by
    refine List.filter_eq_nil_iff.mpr fun e he hunder => ?_
    obtain ⟨rest, hrest⟩ := field_prefix_of_defaultError? (Option.mem_toList.mp he)
    rw [FieldError.isUnder_iff, ← hrest] at hunder
    -- the second step is `rules` for a path and `defaultBackend` for a default backend
    have hsecond := hunder.getElem (i := 1) (by simp [PathSite.field, pathField])
    simp [PathSite.field, pathField, defaultBackendPath] at hsecond
  rw [fieldErrors_eq, List.filter_append, hdefault, List.append_nil,
    PathSite.filter_filterMap_error?,
    filter_key_eq_singleton PathSite.field (nodup_fields options i) hp]
  cases he : p.error? options <;> simp [he]

variable (options) (i) in
/-- The errors under the field of the default backend are those of the default backend. -/
theorem filter_fieldErrors_defaultBackendPath :
    (i.fieldErrors options).filter (·.isUnder defaultBackendPath) =
      (i.defaultError? options).toList := by
  have hpaths : ((i.pathSites options).filterMap (PathSite.error? options)).filter
      (·.isUnder defaultBackendPath) = [] := by
    refine List.filter_eq_nil_iff.mpr fun e he hunder => ?_
    obtain ⟨p, -, hp⟩ := List.mem_filterMap.mp he
    obtain ⟨rest, hrest⟩ := PathSite.field_prefix_of_error? hp
    rw [FieldError.isUnder_iff, ← hrest] at hunder
    have hsecond := hunder.getElem (i := 1) (by simp [defaultBackendPath])
    simp [PathSite.field, pathField, defaultBackendPath] at hsecond
  rw [fieldErrors_eq, List.filter_append, hpaths, List.nil_append, List.filter_eq_self]
  intro e he
  rw [FieldError.isUnder_iff]
  exact field_prefix_of_defaultError? (Option.mem_toList.mp he)

end Ingress

end GatewayMigration
