import GatewayMigration.Gce.Inventory
import GatewayMigration.GatewayApi
import GatewayMigration.Proofs.Json

/-!
# The namespaces of documents

A document says in its metadata which namespace its object is in. An object that is read from a
document is in the namespace of the document, and a document that is written for an object is in
the namespace of the object.

## Main definitions

* `Manifest.nsOf?`: the namespace that a document names
* `ResourceType.KeepsNamespace`: reading keeps the namespace

## Main results

* `keepsNamespace_ingress`, `keepsNamespace_service`, `keepsNamespace_custom`: what is read
* `isIn_gatewayApiDocument`, `isIn_policy`: what is written
-/

namespace GatewayMigration

namespace Manifest

open Json

/-- The namespace that a document names. -/
def nsOf? (doc : Json) : Option String := (metadataField? doc "namespace").bind string?

theorem isIn_some (ns : String) (doc : Json) :
    isIn (some ns) doc = decide (nsOf? doc = some ns) := by
  rw [isIn, nsOf?, beq_eq_decide]

end Manifest

/-! ### What is read -/

theorem Metadata.ns_of_ofJson? {j : Json} {m : Metadata} (h : Metadata.ofJson? j = some m) :
    (j.field? "namespace").bind Json.string? = m.ns := by
  unfold Metadata.ofJson? at h
  simp only [Option.bind_eq_bind, Option.bind_eq_some_iff] at h
  obtain ⟨members, hm, name, -, ns, hns, annotations, -, others, -, h⟩ := h
  cases h
  cases j with
  | obj members' =>
    cases hm
    unfold Json.Fields.optional at hns
    unfold Json.field?
    -- a value that is neither null nor a text would not have been read
    cases hl : Json.lookup "namespace" members with
    | none => simp_all
    | some v => cases v <;> simp_all [Json.string?]
  | _ => cases hm

/-- Reading an object keeps its namespace. -/
def ResourceType.KeepsNamespace {α : Type} (t : ResourceType α) : Prop :=
  ∀ doc x, t.ofJson? doc = some x → Manifest.nsOf? doc = (t.metadata x).ns

theorem Manifest.nsOf?_of_required {members : Json.Fields} {m : Metadata}
    (h : members.required Metadata.ofJson? "metadata" = some m) :
    nsOf? (.obj members) = m.ns := by
  obtain ⟨v, hv, hm⟩ := Option.bind_eq_some_iff.mp h
  rw [nsOf?, metadataField?, Json.field?_obj, hv]
  exact Metadata.ns_of_ofJson? hm

theorem Manifest.nsOf?_of_lenient {members : Json.Fields} {m : Metadata}
    (h : members.lenient .empty Metadata.ofJson? "metadata" = some m) :
    nsOf? (.obj members) = m.ns := by
  obtain ⟨read, hread, hm⟩ := Option.map_eq_some_iff.mp h
  unfold Json.Fields.optional at hread
  rw [nsOf?, metadataField?, Json.field?_obj]
  -- metadata may be absent, null, or there
  split at hread
  case h_1 hv =>
    cases hread
    rw [hv, ← hm]
    rfl
  case h_2 hv =>
    cases hread
    rw [hv, ← hm]
    rfl
  case h_3 v _ hv =>
    obtain ⟨m', hm', rfl⟩ := Option.map_eq_some_iff.mp hread
    rw [hv, ← hm]
    exact Metadata.ns_of_ofJson? hm'

theorem keepsNamespace_ingress : Ingress.resource.KeepsNamespace := by
  intro doc i h
  simp only [Ingress.resource, Ingress.ofJson?, Option.bind_eq_bind,
    Option.bind_eq_some_iff] at h
  obtain ⟨members, hm, -, -, -, -, -, -, metadata, hmetadata, spec, -, h⟩ := h
  cases h
  cases doc <;> cases hm
  exact Manifest.nsOf?_of_lenient hmetadata

theorem keepsNamespace_service : Service.resource.KeepsNamespace := by
  intro doc s h
  simp only [Service.resource, Service.ofJson?, Option.bind_eq_bind,
    Option.bind_eq_some_iff] at h
  obtain ⟨members, hm, -, -, -, -, -, -, -, -, metadata, hmetadata, h⟩ := h
  cases h
  cases doc <;> cases hm
  exact Manifest.nsOf?_of_lenient hmetadata

theorem keepsNamespace_custom {σ : Type} {t : ResourceType (CustomObject σ)}
    {spec : Json → Option σ} (hmetadata : t.metadata = CustomObject.metadata)
    (hofJson : t.ofJson? = CustomObject.ofJson? spec) : t.KeepsNamespace := by
  intro doc o h
  simp only [hofJson, CustomObject.ofJson?, Option.bind_eq_bind, Option.bind_eq_some_iff] at h
  obtain ⟨members, hm, apiVersion, -, kind, -, metadata, hmeta, content, -, h⟩ := h
  cases h
  cases doc <;> cases hm
  rw [hmetadata]
  exact Manifest.nsOf?_of_required hmeta

/-! ### What is written -/

/-- A document names the namespace of the metadata that it is written with. -/
theorem Manifest.nsOf?_of_metadata {doc : Json} {n : ObjectName}
    (h : doc.field? "metadata" = some (Metadata.ofName n).toJson) :
    nsOf? doc = (Metadata.ofName n).ns := by
  rw [nsOf?, metadataField?, h, Option.bind_some, Metadata.toJson, Json.field?_object]
  by_cases hn : n.ns.isEmpty = true <;> simp [Metadata.ofName, hn, Json.string?]

theorem Metadata.ns_ofName {ns : String} (hns : ns ≠ "") (n : ObjectName) :
    (Metadata.ofName n).ns = some ns ↔ n.ns = ns := by
  unfold ofName
  by_cases hn : n.ns = ""
  · simp [hn, hns.symm]
  · simp [hn]

variable {ns : String}

/-- A document of the Gateway API is in the namespace of its object. -/
theorem isIn_gatewayApiDocument (hns : ns ≠ "") (kind : String) (name : ObjectName) (spec : Json) :
    Manifest.isIn (some ns) (gatewayApiDocument kind name spec) = decide (name.ns = ns) := by
  have hmetadata : (gatewayApiDocument kind name spec).field? "metadata" =
      some (Metadata.ofName name).toJson := by
    unfold gatewayApiDocument
    rw [Json.field?_object]
    simp
  rw [Manifest.isIn_some, Manifest.nsOf?_of_metadata hmetadata]
  exact decide_eq_decide.mpr (Metadata.ns_ofName hns name)

theorem field?_customObject {σ : Type} (spec : σ → Json) (o : CustomObject σ) :
    (o.toJson spec).field? "metadata" = some o.metadata.toJson := by
  unfold CustomObject.toJson
  rw [Json.field?_object]
  simp

/-- A policy is in the namespace of the object that it is attached to. -/
theorem isIn_policy (hns : ns ≠ "") {p : Gce.Policy} {name : ObjectName}
    (h : p.metadata = .ofName name) :
    Manifest.isIn (some ns) p.toJson = decide (name.ns = ns) := by
  have hmetadata : p.toJson.field? "metadata" = some p.metadata.toJson := by
    cases p <;> exact field?_customObject _ _
  rw [h] at hmetadata
  rw [Manifest.isIn_some, Manifest.nsOf?_of_metadata hmetadata]
  exact decide_eq_decide.mpr (Metadata.ns_ofName hns name)

end GatewayMigration
