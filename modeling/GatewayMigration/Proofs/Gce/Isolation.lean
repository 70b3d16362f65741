import GatewayMigration.Proofs.Conversion.Extensionality
import GatewayMigration.Proofs.Gce.Namespace

/-!
# The isolation of namespaces

To convert one namespace of a manifest is to convert all of it and to keep what is about objects of
the namespace: documents, errors and notifications, in their order. So no object of another
namespace has a part in it.

## Main definitions

* `Topology.extras`: the part of a topology that Ingresses have no counterpart for
* `Output.Restricts`: the output for one namespace and the output for all of them

## Main results

* `ofObjects_within`: what is read of a namespace
* `documents_lower_within`: what is written for a namespace
* `restricts_run`: the conversion of a namespace
-/

namespace GatewayMigration

/-! ### Reading a namespace -/

section Reading

variable {α : Type} {t : ResourceType α} {ns : String}

open Manifest

theorem Metadata.ns_objectName (m : Metadata) (hns : ns ≠ "") :
    m.objectName.ns = ns ↔ m.ns = some ns := by
  unfold objectName
  cases m.ns with
  | none => simp [hns.symm]
  | some ns' => simp

/-- The objects of a namespace are those with its name. -/
theorem Manifest.objects_some (ht : t.KeepsNamespace) (hns : ns ≠ "") (docs : List Json) :
    objects t (some ns) docs =
      (objects t none docs).filter fun x => (t.metadata x).objectName.ns = ns := by
  rw [objects_none, objects]
  refine (filter_filterMap_of_forall fun doc _ x hx => ?_).symm
  rw [isIn_some, ht doc x hx]
  exact decide_eq_decide.mpr ((t.metadata x).ns_objectName hns)

theorem ResourceType.index_filter (l : List α) :
    t.index (l.filter fun x => (t.metadata x).objectName.ns = ns) = (t.index l).within ns := by
  have h := OrderedMap.restrict_ofList (p := fun k : ObjectName => decide (k.ns = ns))
    (l.map fun x => ((t.metadata x).objectName, x))
  rw [filter_map_of_forall fun x _ => rfl] at h
  exact h.symm

theorem ResourceType.objectName_of_mem_index {l : List α} {e : ObjectName × α}
    (he : e ∈ (t.index l).entries) : (t.metadata e.2).objectName = e.1 := by
  obtain ⟨x, -, rfl⟩ := List.mem_map.mp (OrderedMap.mem_of_mem_ofList he)
  rfl

namespace Gce

theorem named_ofObjects (ns : Option String) (docs : List Json) :
    (Inventory.ofObjects ns docs).Named :=
  ⟨fun _ he => ResourceType.objectName_of_mem_index he,
    fun _ he => ResourceType.objectName_of_mem_index he⟩

/-- **What is read of a namespace** is what is there of it in all that is read. -/
theorem ofObjects_within (hns : ns ≠ "") (docs : List Json) :
    Inventory.ofObjects (some ns) docs = (Inventory.ofObjects none docs).within ns := by
  have hours : (objects Ingress.resource (some ns) docs).filter isOurs =
      ((objects Ingress.resource none docs).filter isOurs).filter fun i =>
        (Ingress.resource.metadata i).objectName.ns = ns := by
    rw [objects_some keepsNamespace_ingress hns, List.filter_comm]
  -- Ingresses have one more test to pass; for the other types the index is all there is to do
  unfold Inventory.ofObjects Inventory.ofLists Inventory.within
  rw [hours, objects_some keepsNamespace_service hns,
    objects_some (keepsNamespace_custom rfl rfl : BackendConfig.v1.KeepsNamespace) hns,
    objects_some (keepsNamespace_custom rfl rfl : BackendConfig.v1beta1.KeepsNamespace) hns,
    objects_some (keepsNamespace_custom rfl rfl : FrontendConfig.resource.KeepsNamespace) hns]
  simp only [ResourceType.index_filter]

end Gce

end Reading

/-! ### Writing a namespace -/

/-- What Ingresses have no counterpart for. -/
def Topology.extras (t : Topology) : List (OrderedMap ObjectName Json) :=
  [t.tlsRoutes, t.tcpRoutes, t.udpRoutes, t.referenceGrants]

/-- A conversion makes nothing that Ingresses have no counterpart for. -/
theorem extras_convert (options : ConversionOptions) (ingresses : List Ingress) :
    (convert options ingresses).1.extras = Topology.empty.extras := by
  have h := congrArg Topology.extras (rest_convert options ingresses)
  exact h

namespace Gce

variable {ns : String} (inventory : Inventory)

theorem extras_configureGateway (state : Noted) (e : ObjectName × Ingress) :
    (configureGateway inventory state e).1.extras = state.1.extras := by
  obtain ⟨gateways, hgateways⟩ := exists_gateways_configureGateway inventory state e
  rw [hgateways]
  rfl

theorem extras_gceConvert : (convert inventory).1.extras = Topology.empty.extras := by
  have hservices : ∀ t, (configureServices inventory t).1.extras = t.extras :=
    apply_configureServices (fun _ _ _ => rfl) inventory
  have hgateways : ∀ (l : List (ObjectName × Ingress)) (state : Noted),
      (l.foldl (configureGateway inventory) state).1.extras = state.1.extras :=
    apply_foldl_eq (f := fun state : Noted => state.1.extras) (extras_configureGateway inventory)
  refine (hgateways _ _).trans ((hservices _).trans ?_)
  exact extras_convert options inventory.ingresses.values

theorem metadata_of_mem_servicePolicies {e : ObjectName × ServiceExtension} {p : Policy}
    (hp : p ∈ (e.2.gce.map (·.policies e.1)).getD []) : p.metadata = .ofName e.1 := by
  obtain ⟨key, ⟨_ | s⟩⟩ := e
  case none => cases hp
  case some =>
    rcases List.mem_append.mp hp with hp | hp
    · rw [Option.mem_toList, ServiceSettings.backendPolicy?] at hp
      split at hp <;> cases hp
      rfl
    · rw [Option.mem_toList, ServiceSettings.healthPolicy?, Option.map_eq_some_iff] at hp
      obtain ⟨h, -, rfl⟩ := hp
      rfl

theorem metadata_of_mem_gatewayPolicies {e : ObjectName × Gateway} {p : Policy}
    (hp : p ∈ (e.2.gce?.map (·.policies e.1)).getD []) : p.metadata = .ofName e.1 := by
  cases hg : e.2.gce? with
  | none => simp [hg] at hp
  | some s =>
    rw [hg, Option.map_some, Option.getD_some, GatewaySettings.policies, Option.mem_toList,
      Option.map_eq_some_iff] at hp
    obtain ⟨policy, -, rfl⟩ := hp
    rfl

/-- The policies of the Services and of the Gateways of a topology. -/
def policies (t : Topology) : List Policy :=
  (t.services.entries.flatMap fun e => (e.2.gce.map (·.policies e.1)).getD []) ++
    t.gateways.entries.flatMap fun e => (e.2.gce?.map (·.policies e.1)).getD []

/-- The documents of a topology are those of its Gateways and routes, and its policies. -/
theorem documents_lower {t : Topology} (ht : t.extras = Topology.empty.extras) :
    (lower t).1.documents =
      (t.gateways.entries.map fun e => e.2.toDocument e.1) ++
        (t.httpRoutes.entries.map fun e => e.2.toDocument e.1) ++
        (policies t).map Policy.toJson := by
  -- the kinds that Ingresses have no counterpart for leave nothing to write
  obtain ⟨gateways, routes, tls, tcp, udp, grants, services⟩ := t
  simp only [Topology.extras, Topology.empty, List.cons.injEq] at ht
  obtain ⟨rfl, rfl, rfl, rfl, -⟩ := ht
  simp only [lower, Topology.lower, GatewayResources.documents, OrderedMap.values,
    OrderedMap.mapValues, List.map_map, policies]
  show _ ++ [] ++ [] ++ [] ++ [] ++ _ = _
  rw [List.append_nil, List.append_nil, List.append_nil, List.append_nil]
  rfl

/-- Policies that have the names of entries are in a namespace along with them. -/
theorem filter_flatMap_toJson (hns : ns ≠ "") {α : Type} (m : OrderedMap ObjectName α)
    {f : ObjectName × α → List Policy} (hf : ∀ e, ∀ p ∈ f e, p.metadata = .ofName e.1) :
    ((m.entries.flatMap f).map Policy.toJson).filter (Manifest.isIn (some ns)) =
      ((m.within ns).entries.flatMap f).map Policy.toJson := by
  rw [List.map_flatMap, List.map_flatMap]
  refine filter_flatMap_of_forall fun e _ doc hdoc => ?_
  obtain ⟨p, hp, rfl⟩ := List.mem_map.mp hdoc
  exact isIn_policy hns (hf e p hp)

theorem filter_policies (hns : ns ≠ "") (t : Topology) :
    ((policies t).map Policy.toJson).filter (Manifest.isIn (some ns)) =
      (policies (t.within ns)).map Policy.toJson := by
  unfold policies
  rw [List.map_append, List.filter_append, List.map_append,
    filter_flatMap_toJson hns t.services fun _ _ => metadata_of_mem_servicePolicies,
    filter_flatMap_toJson hns t.gateways fun _ _ => metadata_of_mem_gatewayPolicies]
  rfl

/-- **What is written for a namespace** is what is there of it in all that is written. -/
theorem documents_lower_within (hns : ns ≠ "") {t : Topology}
    (ht : t.extras = Topology.empty.extras) :
    (lower (t.within ns)).1.documents =
      (lower t).1.documents.filter (Manifest.isIn (some ns)) := by
  have hwithin : (t.within ns).extras = Topology.empty.extras := by
    simp only [Topology.extras, Topology.empty, List.cons.injEq] at ht ⊢
    obtain ⟨htls, htcp, hudp, hgrants, -⟩ := ht
    simp only [Topology.within, htls, htcp, hudp, hgrants]
    exact ⟨rfl, rfl, rfl, rfl, trivial⟩
  have hgateways : (t.gateways.entries.map fun e => e.2.toDocument e.1).filter
      (Manifest.isIn (some ns)) = (t.within ns).gateways.entries.map fun e => e.2.toDocument e.1 :=
    filter_map_of_forall fun _ _ => isIn_gatewayApiDocument hns _ _ _
  have hroutes : (t.httpRoutes.entries.map fun e => e.2.toDocument e.1).filter
      (Manifest.isIn (some ns)) =
        (t.within ns).httpRoutes.entries.map fun e => e.2.toDocument e.1 :=
    filter_map_of_forall fun _ _ => isIn_gatewayApiDocument hns _ _ _
  rw [documents_lower hwithin, documents_lower ht, List.filter_append, List.filter_append,
    hgateways, hroutes, filter_policies hns]

end Gce

/-! ### The result -/

/-- The output for one namespace is the part of the output for all namespaces that is about its
objects, in the same order. -/
structure Output.Restricts (part whole : Output) (ns : String) : Prop where
  documents : part.resources.documents =
    whole.resources.documents.filter (Manifest.isIn (some ns))
  errors : part.errors = whole.errors.filter (·.isIn ns)
  notifications : part.notifications = whole.notifications.filter (·.isIn ns)

namespace Gce

variable {ns : String} {docs : List Json}

/-- Writing adds no error to those of the conversion. -/
theorem output_eq (inventory : Inventory) :
    provider.output inventory = ⟨"gce", (lower (convert inventory).1).1, (convert inventory).2.2,
      (convert inventory).2.1⟩ := by
  show Output.mk _ _ _ ((convert inventory).2.1 ++ (lower (convert inventory).1).2) = _
  rw [lower_errors_convert, List.append_nil]
  rfl

theorem restricts_output (hns : ns ≠ "") (docs : List Json) :
    (provider.output (Inventory.ofObjects (some ns) docs)).Restricts
      (provider.output (Inventory.ofObjects none docs)) ns := by
  rw [ofObjects_within hns, output_eq, output_eq, convert_within (named_ofObjects none docs)]
  exact ⟨documents_lower_within hns (extras_gceConvert _), rfl, rfl⟩

/-- The documents of other namespaces do not count for what is read of a namespace. -/
theorem ofObjects_eq_of_filter {docs' : List Json}
    (h : docs'.filter (Manifest.isIn (some ns)) = docs.filter (Manifest.isIn (some ns))) :
    Inventory.ofObjects (some ns) docs' = Inventory.ofObjects (some ns) docs := by
  have hobjects : ∀ {α : Type} (t : ResourceType α),
      Manifest.objects t (some ns) docs' = Manifest.objects t (some ns) docs := by
    intro α t
    rw [Manifest.objects, Manifest.objects, List.filter_comm _ _ docs', List.filter_comm _ _ docs,
      h]
  unfold Inventory.ofObjects
  simp only [hobjects]

/-- **Namespaces are isolated.** The conversion of a namespace is the part of the conversion of all
namespaces that is about it. It is the same part for every manifest with the same documents in the
namespace, so no document of another namespace has an influence on it. -/
theorem restricts_run (hns : ns ≠ "") (hdocs : Readable docs) :
    ∃ whole part, provider.run none (.manifest (.ok docs)) = (.ok whole, []) ∧
      provider.run (some ns) (.manifest (.ok docs)) = (.ok part, []) ∧ part.Restricts whole ns ∧
      ∀ docs', Readable docs' →
        docs'.filter (Manifest.isIn (some ns)) = docs.filter (Manifest.isIn (some ns)) →
        ∃ whole', provider.run none (.manifest (.ok docs')) = (.ok whole', []) ∧
          part.Restricts whole' ns := by
  refine ⟨_, _, run_manifest_eq hdocs none, run_manifest_eq hdocs (some ns),
    restricts_output hns docs, fun docs' hdocs' h => ?_⟩
  refine ⟨_, run_manifest_eq hdocs' none, ?_⟩
  rw [← ofObjects_eq_of_filter h]
  exact restricts_output hns docs'

/-- The document of a Service that names a configuration. -/
def configuredService (ns : String) : Json :=
  .obj [("apiVersion", .str "v1"), ("kind", .str "Service"),
    ("metadata", .obj [
      ("annotations", .obj [("cloud.google.com/backend-config", .str "[\"pinned\"]")]),
      ("name", .str "web"), ("namespace", .str ns)])]

/-- Services of one name in two namespaces, neither of which has the configuration. -/
def twoNamespaces : List Json := [configuredService "blue", configuredService "green"]

theorem readable_twoNamespaces : Readable twoNamespaces := by
  constructor <;> decide +kernel

theorem restricts_run_twoNamespaces :
    "blue" ≠ "" ∧ Readable twoNamespaces ∧
      (∃ whole part, provider.run none (.manifest (.ok twoNamespaces)) = (.ok whole, []) ∧
        provider.run (some "blue") (.manifest (.ok twoNamespaces)) = (.ok part, []) ∧
        part.Restricts whole "blue" ∧
        ∀ docs', Readable docs' →
          docs'.filter (Manifest.isIn (some "blue")) =
            twoNamespaces.filter (Manifest.isIn (some "blue")) →
          ∃ whole', provider.run none (.manifest (.ok docs')) = (.ok whole', []) ∧
            part.Restricts whole' "blue") ∧
      (convert (.ofObjects none twoNamespaces)).2.2.length = 2 ∧
      (convert (.ofObjects (some "blue") twoNamespaces)).2.2.length = 1 :=
  ⟨by decide, readable_twoNamespaces, restricts_run (by decide) readable_twoNamespaces,
    by decide +kernel, by decide +kernel⟩

end Gce

end GatewayMigration
