import GatewayMigration.GatewayApi
import GatewayMigration.Proofs.Json
import Mathlib.Data.Option.Basic

/-!
# What documents of the Gateway API tell

The document of a Gateway tells its name, class and listeners, and that of a route all there is of
it. A part that is absent is left out of its document, and no other part is written that way.

## Main results

* `Metadata.toJson_ofName_injective`: metadata tells the name of an object, an empty namespace
  included
* `Listener.toSpec_injective`, `RouteRule.toSpec_injective`: the parts of Gateways and routes
* `document_injective`: the kind, the name and the specification of a document
* `Gateway.eq_of_toDocument_eq`, `HttpRoute.eq_of_toDocument_eq`: Gateways and routes
-/

namespace GatewayMigration

open Json

/-! ### Names -/

@[simp] theorem Metadata.objectName_ofName (n : ObjectName) :
    (Metadata.ofName n).objectName = n := by
  obtain ⟨ns, name⟩ := n
  by_cases hns : ns = "" <;> simp [Metadata.ofName, Metadata.objectName, hns]

/-- Metadata tells the name of an object: an empty namespace is the one that is left out. -/
theorem Metadata.ofName_injective : Function.Injective Metadata.ofName := by
  rintro ⟨ns, name⟩ ⟨ns', name'⟩ h
  simp only [ofName, Metadata.mk.injEq, Option.some.injEq, and_true] at h
  obtain ⟨rfl, hns⟩ := h
  by_cases he : ns = "" <;> by_cases he' : ns' = "" <;> simp_all

theorem Metadata.toJson_ofName_injective :
    Function.Injective fun n : ObjectName => (Metadata.ofName n).toJson := by
  intro n n' h
  have hjson : (Metadata.ofName n).toJson = (Metadata.ofName n').toJson := h
  have hmembers := object_injective hjson rfl (by simp [Metadata.ofName])
  simp only [Metadata.ofName, List.map_nil, List.nil_append, List.cons.injEq, Prod.mk.injEq,
    true_and, and_true] at hmembers
  obtain ⟨hname, hns⟩ := hmembers
  apply Metadata.ofName_injective
  simp only [Metadata.ofName, Option.map_injective str_injective hname,
    Option.map_injective str_injective hns]

/-! ### Parts of Gateways -/

theorem Protocol.text_injective : Function.Injective Protocol.text := by
  intro a b h
  exact Option.some.inj (by rw [← Protocol.ofText?_text a, h, Protocol.ofText?_text])

/-- An object that holds one list of names. -/
theorem certificateRefs_injective : Function.Injective fun names : List String =>
    object [("certificateRefs",
      some (.arr (names.map fun n => object [("name", some (.str n))])))] := by
  have hname : Function.Injective fun n : String => object [("name", some (.str n))] := by
    intro a b h
    have hmembers := object_injective h rfl (by simp)
    simpa using hmembers
  intro a b h
  have hmembers := object_injective h rfl (by simp)
  simp only [List.cons.injEq, Prod.mk.injEq, Option.some.injEq, true_and, and_true] at hmembers
  exact List.map_injective_iff.mpr hname (arr_injective hmembers)

theorem Listener.toSpec_injective : Function.Injective Listener.toSpec := by
  rintro ⟨name, hostname, port, protocol, certificates⟩
    ⟨name', hostname', port', protocol', certificates'⟩ h
  have hmembers := object_injective h rfl (by simp)
  simp only [List.cons.injEq, Prod.mk.injEq, Option.some.injEq, true_and, and_true] at hmembers
  obtain ⟨hhostname, hname, hport, hprotocol, hcertificates⟩ := hmembers
  obtain rfl := Option.map_injective str_injective hhostname
  obtain rfl := str_injective hname
  obtain rfl := ofUInt16_injective hport
  obtain rfl := Protocol.text_injective (str_injective hprotocol)
  obtain rfl := Option.map_injective certificateRefs_injective hcertificates
  rfl

/-! ### Parts of routes -/

theorem ParentRef.toSpec_injective : Function.Injective ParentRef.toSpec := by
  rintro ⟨name, ns, sectionName⟩ ⟨name', ns', sectionName'⟩ h
  have hmembers := object_injective h rfl (by simp)
  simp only [List.cons.injEq, Prod.mk.injEq, Option.some.injEq, true_and, and_true] at hmembers
  obtain ⟨hname, hns, hsection⟩ := hmembers
  obtain rfl := str_injective hname
  obtain rfl := Option.map_injective str_injective hns
  obtain rfl := Option.map_injective str_injective hsection
  rfl

theorem PathMatch.parts_injective : Function.Injective PathMatch.parts := by
  intro a b h
  cases a <;> cases b <;> simp_all [PathMatch.parts]

theorem PathMatch.toSpec_injective : Function.Injective PathMatch.toSpec := by
  intro a b h
  have hpath := object_injective h rfl (by simp)
  simp only [List.cons.injEq, Prod.mk.injEq, Option.some.injEq, true_and, and_true] at hpath
  have hmembers := object_injective hpath rfl (by simp)
  simp only [List.cons.injEq, Prod.mk.injEq, Option.some.injEq, true_and, and_true] at hmembers
  exact PathMatch.parts_injective
    (Prod.ext (str_injective hmembers.1) (str_injective hmembers.2))

/-- A Service has no kind in its specification and another object has one, so neither is taken for
the other. -/
theorem BackendRef.toSpec_injective : Function.Injective BackendRef.toSpec := by
  have hservice : ∀ name port, (service name port).toSpec.field? "kind" = none := by
    intro name port
    exact field?_of_notMem (by simp)
  have hresource : ∀ group kind name,
      (resource group kind name).toSpec.field? "kind" = some (.str kind) := by
    intro group kind name
    exact field?_of_mem (by simp) (by simp)
  intro a b h
  cases a with
  | service name port =>
    cases b with
    | service name' port' =>
      have hmembers := object_injective h rfl (by simp)
      simp only [List.cons.injEq, Prod.mk.injEq, Option.some.injEq, true_and, and_true]
        at hmembers
      rw [str_injective hmembers.1, ofUInt16_injective hmembers.2]
    | resource group kind name' =>
      have hkind := hservice name port
      rw [h, hresource] at hkind
      cases hkind
  | resource group kind name =>
    cases b with
    | service name' port' =>
      have hkind := hresource group kind name
      rw [h, hservice] at hkind
      cases hkind
    | resource group' kind' name' =>
      have hmembers := object_injective h rfl (by simp)
      simp only [List.cons.injEq, Prod.mk.injEq, Option.some.injEq, true_and, and_true]
        at hmembers
      obtain ⟨hgroup, hkind, hname⟩ := hmembers
      rw [Option.map_injective str_injective hgroup, str_injective hkind, str_injective hname]

theorem RouteRule.toSpec_injective : Function.Injective RouteRule.toSpec := by
  rintro ⟨pathMatches, backends⟩ ⟨pathMatches', backends'⟩ h
  have hmembers := object_injective h rfl (by simp)
  simp only [List.cons.injEq, Prod.mk.injEq, Option.some.injEq, true_and, and_true] at hmembers
  obtain ⟨hbackends, hmatches⟩ := hmembers
  obtain rfl := List.map_injective_iff.mpr BackendRef.toSpec_injective (arr_injective hbackends)
  obtain rfl := List.map_injective_iff.mpr PathMatch.toSpec_injective
    (ofNonempty_injective hmatches)
  rfl

/-! ### Documents -/

variable {name name' : ObjectName}

/-- **A document tells its API version, its kind, its name and its specification.** -/
theorem document_injective {apiVersion apiVersion' kind kind' : String} {spec spec' : Json}
    (h : object [("apiVersion", some (.str apiVersion)), ("kind", some (.str kind)),
        ("metadata", some (Metadata.ofName name).toJson), ("spec", some spec)] =
      object [("apiVersion", some (.str apiVersion')), ("kind", some (.str kind')),
        ("metadata", some (Metadata.ofName name').toJson), ("spec", some spec')]) :
    apiVersion = apiVersion' ∧ kind = kind' ∧ name = name' ∧ spec = spec' := by
  have hmembers := object_injective h rfl (by simp)
  simp only [List.cons.injEq, Prod.mk.injEq, Option.some.injEq, true_and, and_true] at hmembers
  obtain ⟨hversion, hkind, hname, hspec⟩ := hmembers
  exact ⟨str_injective hversion, str_injective hkind, Metadata.toJson_ofName_injective hname, hspec⟩

/-- The document of a Gateway tells its name, its class and its listeners. -/
theorem Gateway.eq_of_toDocument_eq {g g' : Gateway} (h : g.toDocument name = g'.toDocument name') :
    name = name' ∧ g.className = g'.className ∧ g.listeners = g'.listeners := by
  obtain ⟨-, -, hname, hspec⟩ := document_injective h
  have hmembers := object_injective hspec rfl (by simp)
  simp only [List.cons.injEq, Prod.mk.injEq, Option.some.injEq, true_and, and_true] at hmembers
  obtain ⟨hclass, hlisteners⟩ := hmembers
  exact ⟨hname, str_injective hclass,
    List.map_injective_iff.mpr Listener.toSpec_injective (arr_injective hlisteners)⟩

/-- The document of a route tells its name and all there is of it. -/
theorem HttpRoute.eq_of_toDocument_eq {r r' : HttpRoute}
    (h : r.toDocument name = r'.toDocument name') : name = name' ∧ r = r' := by
  obtain ⟨parents, hostnames, rules⟩ := r
  obtain ⟨parents', hostnames', rules'⟩ := r'
  obtain ⟨-, -, hname, hspec⟩ := document_injective h
  have hmembers := object_injective hspec rfl (by simp)
  simp only [List.cons.injEq, Prod.mk.injEq, Option.some.injEq, true_and, and_true] at hmembers
  obtain ⟨hhostnames, hparents, hrules⟩ := hmembers
  obtain rfl := List.map_injective_iff.mpr str_injective (ofNonempty_injective hhostnames)
  obtain rfl := List.map_injective_iff.mpr ParentRef.toSpec_injective (arr_injective hparents)
  obtain rfl := List.map_injective_iff.mpr RouteRule.toSpec_injective (arr_injective hrules)
  exact ⟨hname, rfl⟩

end GatewayMigration
