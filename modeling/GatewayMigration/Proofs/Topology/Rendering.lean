import GatewayMigration.Proofs.Conversion.References
import GatewayMigration.Proofs.Gce.Policies

/-!
# Topologies as documents

Each Gateway and each route of a topology is written as one document under its own name, from its
own content alone. A route that refers to a Gateway outside of the topology is reported once, at
the first such reference, and written like any other.

## Main definitions

* `ParentRef.Means`: the Gateway that a reference from a route means
* `HttpRoute.Dangles`, `HttpRoute.DanglesFirst`: a reference to a Gateway that is not there
* `Topology.Reports`: what an error says about a route
* `Topology.Rendered`: the documents and errors of a topology

## Main results

* `HttpRoute.missingParent?_eq_some_iff`: the first reference that dangles
* `Topology.rendered_lower`: writing a topology gives its documents and errors
-/

namespace GatewayMigration

/-! ### References to Gateways -/

/-- The Gateway that a reference from a route means. -/
inductive ParentRef.Means (route : ObjectName) : ParentRef → ObjectName → Prop
  /-- Without a namespace, it is in that of the route. -/
  | near (name : String) (sectionName : Option String) :
    Means route ⟨name, none, sectionName⟩ ⟨route.ns, name⟩
  | far (ns name : String) (sectionName : Option String) :
    Means route ⟨name, some ns, sectionName⟩ ⟨ns, name⟩

theorem ParentRef.means_iff {route gateway : ObjectName} {p : ParentRef} :
    p.Means route gateway ↔ p.target route = gateway := by
  constructor
  · rintro (_ | _) <;> rfl
  · rintro rfl
    obtain ⟨name, _ | ns, sectionName⟩ := p
    · exact .near name sectionName
    · exact .far ns name sectionName

namespace HttpRoute

variable {gateways : OrderedMap ObjectName Gateway} {name gateway : ObjectName} {r : HttpRoute}
  {i : Nat}

/-- The reference of a route at an index means a Gateway that is not there. -/
def Dangles (gateways : OrderedMap ObjectName Gateway) (name : ObjectName) (r : HttpRoute)
    (i : Nat) (gateway : ObjectName) : Prop :=
  ∃ p, r.parents[i]? = some p ∧ p.Means name gateway ∧ gateways.find? gateway = none

/-- No reference before it dangles. -/
structure DanglesFirst (gateways : OrderedMap ObjectName Gateway) (name : ObjectName)
    (r : HttpRoute) (i : Nat) (gateway : ObjectName) : Prop where
  dangles : r.Dangles gateways name i gateway
  first : ∀ j < i, ∀ gateway', ¬r.Dangles gateways name j gateway'

theorem dangles_iff : r.Dangles gateways name i gateway ↔
    ∃ h : i < r.parents.length, r.parents[i].target name = gateway ∧
      gateways.contains gateway = false := by
  simp only [Dangles, ParentRef.means_iff, List.getElem?_eq_some_iff,
    OrderedMap.contains_eq_false_iff]
  constructor
  · rintro ⟨_, ⟨hi, rfl⟩, h⟩
    exact ⟨hi, h⟩
  · rintro ⟨hi, h⟩
    exact ⟨_, ⟨hi, rfl⟩, h⟩

theorem exists_dangles_iff : (∃ i gateway, r.Dangles gateways name i gateway) ↔
    ∃ p ∈ r.parents, gateways.contains (p.target name) = false := by
  simp only [dangles_iff]
  constructor
  · rintro ⟨i, _, hi, rfl, h⟩
    exact ⟨_, List.getElem_mem hi, h⟩
  · rintro ⟨p, hp, h⟩
    obtain ⟨i, hi, rfl⟩ := List.getElem_of_mem hp
    exact ⟨i, _, hi, rfl, h⟩

/-- **The Gateway that is missing** is that of the first reference that dangles. -/
theorem missingParent?_eq_some_iff :
    r.missingParent? gateways name = some (i, gateway) ↔
      r.DanglesFirst gateways name i gateway := by
  rw [missingParent?, List.find?_eq_some_iff_getElem]
  simp only [Bool.not_eq_true', Bool.not_eq_false', List.getElem_mapIdx, List.length_mapIdx,
    Prod.mk.injEq]
  constructor
  · rintro ⟨hmissing, i', hi, ⟨rfl, htarget⟩, hbefore⟩
    refine ⟨dangles_iff.mpr ⟨hi, htarget, hmissing⟩, fun j hj gateway' hdangles => ?_⟩
    obtain ⟨_, rfl, hj'⟩ := dangles_iff.mp hdangles
    rw [hbefore j hj] at hj'
    cases hj'
  · rintro ⟨hdangles, hfirst⟩
    obtain ⟨hi, htarget, hmissing⟩ := dangles_iff.mp hdangles
    refine ⟨hmissing, i, hi, ⟨rfl, htarget⟩, fun j hj => ?_⟩
    rw [← Bool.not_eq_false]
    intro hj'
    exact hfirst j hj _ (dangles_iff.mpr ⟨Nat.lt_trans hj hi, rfl, hj'⟩)

/-- A route is reported just when one of its references dangles. -/
theorem isSome_parentError?_iff :
    (r.parentError? gateways name).isSome = true ↔
      ∃ i gateway, r.Dangles gateways name i gateway := by
  rw [exists_dangles_iff, ← Option.ne_none_iff_isSome, ne_eq, parentError?_eq_none_iff]
  simp only [not_forall, Bool.not_eq_true, exists_prop]

end HttpRoute

namespace Topology

/-! ### Errors of routes -/

/-- An error tells of a route that a Gateway does not exist, and where the route refers to it
first. -/
structure Reports (t : Topology) (e : ObjectName × HttpRoute) (error : FieldError) : Prop where
  kind : error.kind = .notFound
  object : error.object = some ⟨"HTTPRoute", e.1⟩
  /-- The path and the message name the first reference that dangles. -/
  place : ∃ i gateway, e.2.DanglesFirst t.gateways e.1 i gateway ∧
    error.path = [.field "spec", .field "parentRefs", .index i] ∧
    error.path.text = "spec.parentRefs[" ++ toString i ++ "]" ∧
    error.message = "Gateway " ++ gateway.text ++ " does not exist"

theorem reports_of_parentError? {t : Topology} {e : ObjectName × HttpRoute} {error : FieldError}
    (h : e.2.parentError? t.gateways e.1 = some error) : t.Reports e error := by
  obtain ⟨⟨i, gateway⟩, hmissing, rfl⟩ := Option.map_eq_some_iff.mp h
  refine ⟨rfl, rfl, i, gateway, HttpRoute.missingParent?_eq_some_iff.mp hmissing, rfl, ?_, rfl⟩
  simp [FieldError.ofObject, FieldError.under, FieldError.here, FieldPath.text,
    FieldPath.entryText, ← String.append_assoc]

/-! ### Documents and errors -/

/-- The documents of a topology and the errors that are found in writing them. -/
structure Rendered (t : Topology) (resources : GatewayResources) (errors : List FieldError) :
    Prop where
  /-- Under each name there is a document if the topology has a Gateway there, and it says what that
  Gateway says. -/
  gateways : ∀ name, resources.gateways.find? name = (t.gateways.find? name).map (·.toDocument name)
  httpRoutes : ∀ name,
    resources.httpRoutes.find? name = (t.httpRoutes.find? name).map (·.toDocument name)
  /-- A document names its kind and its object. -/
  identified : ∀ name,
    (∀ doc, resources.gateways.find? name = some doc →
      Manifest.identity doc = .ofName "gateway.networking.k8s.io/v1" "Gateway" name) ∧
    ∀ doc, resources.httpRoutes.find? name = some doc →
      Manifest.identity doc = .ofName "gateway.networking.k8s.io/v1" "HTTPRoute" name
  /-- Nothing else is written, but what the topology carries along. -/
  carried : resources.tlsRoutes = t.tlsRoutes ∧ resources.tcpRoutes = t.tcpRoutes ∧
    resources.udpRoutes = t.udpRoutes ∧ resources.referenceGrants = t.referenceGrants ∧
    resources.policies = []
  /-- The errors tell of the routes with a reference that dangles, one for each, in the order of
  their names. -/
  errors : ∃ reported, reported.Sublist t.httpRoutes.entries ∧
    (∀ e ∈ t.httpRoutes.entries, e ∈ reported ↔ ∃ i gateway, e.2.Dangles t.gateways e.1 i gateway) ∧
    List.Forall₂ t.Reports reported errors
  /-- A document is the same in another topology just when it is about the same route, or about a
  Gateway with the same class and listeners, whatever is reported in the one or in the other. -/
  unaltered : ∀ (t' : Topology) (name : ObjectName),
    (t'.lower.1.gateways.find? name = resources.gateways.find? name ↔
      (t'.gateways.find? name).map (fun g => (g.className, g.listeners)) =
        (t.gateways.find? name).map fun g => (g.className, g.listeners)) ∧
    (t'.lower.1.httpRoutes.find? name = resources.httpRoutes.find? name ↔
      t'.httpRoutes.find? name = t.httpRoutes.find? name)

theorem find?_gateways_lower (t : Topology) (name : ObjectName) :
    t.lower.1.gateways.find? name = (t.gateways.find? name).map (·.toDocument name) :=
  OrderedMap.find?_mapValues Gateway.toDocument t.gateways name

theorem find?_httpRoutes_lower (t : Topology) (name : ObjectName) :
    t.lower.1.httpRoutes.find? name = (t.httpRoutes.find? name).map (·.toDocument name) :=
  OrderedMap.find?_mapValues HttpRoute.toDocument t.httpRoutes name

theorem find?_gateways_lower_eq_iff {t t' : Topology} {name : ObjectName} :
    t'.lower.1.gateways.find? name = t.lower.1.gateways.find? name ↔
      (t'.gateways.find? name).map (fun g => (g.className, g.listeners)) =
        (t.gateways.find? name).map fun g => (g.className, g.listeners) := by
  rw [find?_gateways_lower, find?_gateways_lower]
  cases t'.gateways.find? name <;> cases t.gateways.find? name <;>
    simp only [Option.map_none, Option.map_some, reduceCtorEq, Option.some.injEq, Prod.mk.injEq]
  constructor
  · intro h
    exact (Gateway.eq_of_toDocument_eq h).2
  · rintro ⟨hclass, hlisteners⟩
    rw [Gateway.toDocument, Gateway.toDocument, hclass, hlisteners]

theorem find?_httpRoutes_lower_eq_iff {t t' : Topology} {name : ObjectName} :
    t'.lower.1.httpRoutes.find? name = t.lower.1.httpRoutes.find? name ↔
      t'.httpRoutes.find? name = t.httpRoutes.find? name := by
  have hinjective : Function.Injective fun r : HttpRoute => r.toDocument name := by
    intro r r' h
    exact (HttpRoute.eq_of_toDocument_eq h).2
  rw [find?_httpRoutes_lower, find?_httpRoutes_lower]
  exact (Option.map_injective hinjective).eq_iff

/-- **Every topology can be written**: each Gateway and each route as one document, and each route
with a Gateway that is missing with one error besides. -/
theorem rendered_lower (t : Topology) : t.Rendered t.lower.1 t.lower.2 where
  gateways := find?_gateways_lower t
  httpRoutes := find?_httpRoutes_lower t
  identified name := by
    rw [find?_gateways_lower, find?_httpRoutes_lower]
    constructor <;> intro doc hdoc <;> obtain ⟨_, -, rfl⟩ := Option.map_eq_some_iff.mp hdoc
    · exact Manifest.identity_gatewayApiDocument _ name _
    · exact Manifest.identity_gatewayApiDocument _ name _
  carried := ⟨rfl, rfl, rfl, rfl, rfl⟩
  errors := by
    refine ⟨t.httpRoutes.entries.filter fun e => (e.2.parentError? t.gateways e.1).isSome,
      List.filter_sublist, fun e he => ?_, ?_⟩
    · rw [List.mem_filter, and_iff_right he, HttpRoute.isSome_parentError?_iff]
    · refine (forall₂_filter_filterMap
        (fun e : ObjectName × HttpRoute => e.2.parentError? t.gateways e.1) _).imp ?_
      intro e error h
      exact reports_of_parentError? h
  unaltered _ _ := ⟨find?_gateways_lower_eq_iff, find?_httpRoutes_lower_eq_iff⟩

/-- Of three references, the first is met in the namespace of the route, and the second is the
first one that dangles. -/
example : (lower { empty with
      gateways := .ofList [(⟨"default", "gce"⟩, .ofClass "gce")]
      httpRoutes := .ofList [(⟨"default", "web"⟩,
        ⟨[.gateway "gce", ⟨"gce", some "other", none⟩, .gateway "none"], [], []⟩)] }).2.map
      (·.text) =
    ["HTTPRoute default/web: spec.parentRefs[1]: not found: Gateway other/gce does not exist"] := by
  decide +kernel

end Topology

end GatewayMigration
