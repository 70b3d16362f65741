import GatewayMigration.Gce.Provider
import GatewayMigration.Proofs.OrderedMap

/-!
# What is read from a manifest

A manifest whose documents have the shapes of their types is read as a whole: for each type, the
objects that its documents hold, in their order.

## Main definitions

* `Manifest.Decodes`: every document of a type has its shape
* `Manifest.selected`, `Manifest.objects`: the documents of a type, and its objects
* `Gce.Readable`: every document of a type that Google Cloud reads has its shape
* `Gce.Inventory.ofObjects`: the inventory of all objects

## Main results

* `decode_eq`: a type whose documents have its shape is read
* `run_manifest_eq`: a manifest that is readable is converted
-/

namespace GatewayMigration

theorem Except.bind_eq_ok {ε α β : Type} {x : Except ε α} {f : α → Except ε β} {b : β}
    (h : x >>= f = .ok b) : ∃ a, x = .ok a ∧ f a = .ok b := by
  cases x with
  | error e => cases h
  | ok a => exact ⟨a, rfl, h⟩

namespace Manifest

variable {α : Type} {t : ResourceType α} {docs : List Json}

/-- Every document of the type has its shape. -/
def Decodes (t : ResourceType α) (docs : List Json) : Prop :=
  ∀ doc ∈ docs, isOfType t doc → (t.ofJson? doc).isSome

instance : Decidable (Decodes t docs) := inferInstanceAs (Decidable (∀ _ ∈ _, _ → _))

/-- The documents of a type, in a namespace if one is asked for. -/
def selected (t : ResourceType α) (ns : Option String) (docs : List Json) : List Json :=
  (docs.filter (isOfType t)).filter (isIn ns)

theorem mem_selected {ns : Option String} {doc : Json} :
    doc ∈ selected t ns docs ↔ doc ∈ docs ∧ isOfType t doc = true ∧ isIn ns doc = true := by
  simp only [selected, List.mem_filter, and_assoc]

/-- The objects of a type, in a namespace if one is asked for. -/
def objects (t : ResourceType α) (ns : Option String) (docs : List Json) : List α :=
  ((docs.filter (isOfType t)).filter (isIn ns)).filterMap t.ofJson?

theorem objects_none : objects t none docs = (docs.filter (isOfType t)).filterMap t.ofJson? :=
  congrArg _ (List.filter_eq_self.mpr fun _ _ => rfl)

theorem mapM_decodeOne {l : List Json} (h : ∀ doc ∈ l, (t.ofJson? doc).isSome) :
    l.mapM (decodeOne t) = .ok (l.filterMap t.ofJson?) := by
  apply mapM_eq_filterMap
  intro doc hdoc
  obtain ⟨x, hx⟩ := Option.isSome_iff_exists.mp (h doc hdoc)
  exact ⟨x, hx, by rw [decodeOne, hx]; rfl⟩

/-- A type is read from the documents that are selected for it. -/
theorem decode_eq_mapM (t : ResourceType α) (ns : Option String) (docs : List Json) :
    decode t ns docs = (selected t ns docs).mapM (decodeOne t) := by
  have hfilter : docs.filter (fun doc => isOfType t doc && isIn ns doc) = selected t ns docs := by
    rw [selected, List.filter_comm, List.filter_filter]
  unfold decode
  rw [hfilter]

/-- A type is read when the documents that are selected for it have its shape. -/
theorem decode_eq_of_selected {ns : Option String}
    (h : ∀ doc ∈ selected t ns docs, (t.ofJson? doc).isSome) :
    decode t ns docs = .ok (objects t ns docs) :=
  (decode_eq_mapM t ns docs).trans (mapM_decodeOne h)

/-- A type whose documents have its shape is read. -/
theorem decode_eq (h : Decodes t docs) (ns : Option String) :
    decode t ns docs = .ok (objects t ns docs) := by
  refine decode_eq_of_selected fun doc hdoc => ?_
  obtain ⟨hmem, htype, -⟩ := mem_selected.mp hdoc
  exact h doc hmem htype

end Manifest

namespace Gce

open Manifest

/-- Every document of a type that is read has the shape of its type. -/
structure Readable (docs : List Json) : Prop where
  ingresses : Decodes Ingress.resource docs
  services : Decodes Service.resource docs
  backendConfigs : Decodes BackendConfig.v1 docs
  betaBackendConfigs : Decodes BackendConfig.v1beta1 docs
  frontendConfigs : Decodes FrontendConfig.resource docs

/-- The inventory of all objects of a manifest, in a namespace if one is asked for. -/
def Inventory.ofObjects (ns : Option String) (docs : List Json) : Inventory :=
  ofLists (objects Ingress.resource ns docs) (objects Service.resource ns docs)
    (objects BackendConfig.v1 ns docs) (objects BackendConfig.v1beta1 ns docs)
    (objects FrontendConfig.resource ns docs)

theorem ofDocuments_eq {docs : List Json} (h : Readable docs) (ns : Option String) :
    Inventory.ofDocuments ns docs = .ok (.ofObjects ns docs) := by
  unfold Inventory.ofDocuments
  rw [decode_eq h.ingresses, decode_eq h.services, decode_eq h.backendConfigs,
    decode_eq h.betaBackendConfigs, decode_eq h.frontendConfigs]
  rfl

/-- **A readable manifest is converted**, and no request is made for it. -/
theorem run_manifest_eq {docs : List Json} (h : Readable docs) (ns : Option String) :
    provider.run ns (.manifest (.ok docs)) =
      (.ok (provider.output (Inventory.ofObjects ns docs)), []) := by
  have hread : provider.read ns (.manifest (.ok docs)) =
      (.ok (Inventory.ofObjects ns docs), []) :=
    congrArg (·, []) (ofDocuments_eq h ns)
  unfold Provider.run
  rw [hread]
  rfl

end Gce

end GatewayMigration
