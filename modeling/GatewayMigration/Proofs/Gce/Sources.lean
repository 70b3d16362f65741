import GatewayMigration.Proofs.Cluster
import GatewayMigration.Proofs.Gce.Arrangement
import GatewayMigration.Proofs.Provider.Steps

/-!
# Manifests and clusters

Objects of five kinds are read, one kind after the other, from the documents of a manifest or by
five requests to a cluster. Either way, all five lists have to be there before anything is done with
them. So a cluster that holds the objects of a manifest is read as the manifest is, and a source
with a single fault in what is read of it gives nothing at all.

## Main definitions

* `Gce.Kind`: the kinds of objects that are read
* `Gce.Inventory.gather`: the inventory of five lists that can fail
* `Gce.Intact`: what is read of a manifest has the shape of its type
* `Gce.Mirrors`: a server lists the documents of a manifest
* `Gce.Broken`: what keeps a source from being read

## Main results

* `ofDocuments_eq_gather`, `run_ofCluster_fst`: either source is read by lists
* `manifest_cluster_agree`: a server that mirrors a manifest is read as the manifest is
* `faithful_runs`: conversions go by the last source without a fault, in every run
-/

namespace GatewayMigration

namespace Manifest

variable {α : Type} {t : ResourceType α} {ns : Option String} {docs : List Json}

theorem exists_error_mapM_decodeOne {doc : Json} (hdoc : doc ∈ docs) (h : t.ofJson? doc = none) :
    ∃ e, docs.mapM (decodeOne t) = .error e := by
  rcases forall_or_exists_first (fun doc => ∃ x, decodeOne t doc = .ok x) docs with
    hall | ⟨before, first, after, rfl, hbefore, hfirst⟩
  · obtain ⟨x, hx⟩ := hall doc hdoc
    rw [decodeOne, h] at hx
    cases hx
  · cases he : decodeOne t first with
    | ok x => exact absurd ⟨x, he⟩ hfirst
    | error e => exact ⟨e, mapM_error_of_first hbefore he⟩

/-- **A type is not read** exactly when a document that is selected for it does not have its
shape. -/
theorem exists_error_decode_iff :
    (∃ e, decode t ns docs = .error e) ↔ ∃ doc ∈ selected t ns docs, t.ofJson? doc = none := by
  constructor
  · rintro ⟨e, he⟩
    by_contra hnone
    push Not at hnone
    rw [decode_eq_of_selected fun doc hdoc => Option.isSome_iff_ne_none.mpr (hnone doc hdoc)] at he
    cases he
  · rintro ⟨doc, hdoc, hshape⟩
    rw [decode_eq_mapM]
    exact exists_error_mapM_decodeOne hdoc hshape

end Manifest

namespace Gce

open Manifest

/-! ### Kinds -/

/-- The kinds of objects that are read. -/
inductive Kind where
  | ingress
  | service
  | backendConfig
  | betaBackendConfig
  | frontendConfig
  deriving DecidableEq, Repr

namespace Kind

/-- All kinds, in the order in which they are read. -/
def all : List Kind := [ingress, service, backendConfig, betaBackendConfig, frontendConfig]

theorem mem_all (k : Kind) : k ∈ all := by
  cases k <;> decide

/-- The objects of a kind. -/
def Object : Kind → Type
  | ingress => Ingress
  | service => Service
  | backendConfig | betaBackendConfig => BackendConfig
  | frontendConfig => FrontendConfig

/-- The type that they have for a server. -/
def resource : (k : Kind) → ResourceType k.Object
  | ingress => Ingress.resource
  | service => Service.resource
  | backendConfig => BackendConfig.v1
  | betaBackendConfig => BackendConfig.v1beta1
  | frontendConfig => FrontendConfig.resource

end Kind

/-! ### Five lists -/

namespace Inventory

/-- The inventory of five lists, in the order of the kinds; the first failure counts. -/
def gather (list : (k : Kind) → Except Failure (List k.Object)) : Except Failure Inventory := do
  let ingresses ← list .ingress
  let services ← list .service
  let backendConfigs ← list .backendConfig
  let betaBackendConfigs ← list .betaBackendConfig
  let frontendConfigs ← list .frontendConfig
  return ofLists ingresses services backendConfigs betaBackendConfigs frontendConfigs

/-- The inventory of a list of each kind. -/
def ofKinds (lists : (k : Kind) → List k.Object) : Inventory :=
  ofLists (lists .ingress) (lists .service) (lists .backendConfig) (lists .betaBackendConfig)
    (lists .frontendConfig)

variable {list : (k : Kind) → Except Failure (List k.Object)}

theorem gather_ok {lists : (k : Kind) → List k.Object} (h : ∀ k, list k = .ok (lists k)) :
    gather list = .ok (ofKinds lists) := by
  rw [funext h]
  rfl

/-- **The first list that fails** counts. -/
theorem gather_error_of_first {before after : List Kind} {k : Kind} {e : Failure}
    (hall : Kind.all = before ++ k :: after) (hbefore : ∀ k' ∈ before, ∃ l, list k' = .ok l)
    (hk : list k = .error e) : gather list = .error e := by
  have hvisit : (fun _ => ()) <$> gather list =
      (fun _ => ()) <$> Kind.all.mapM fun k => (fun _ => ()) <$> list k := by
    simp only [gather, Kind.all, List.mapM_cons, List.mapM_nil, map_bind, map_pure, bind_map_left,
      bind_assoc, pure_bind]
  have herror : Kind.all.mapM (fun k => (fun _ => ()) <$> list k) = .error e := by
    rw [hall]
    apply mapM_error_of_first
    · intro k' hk'
      obtain ⟨l, hl⟩ := hbefore k' hk'
      exact ⟨(), by rw [hl]; rfl⟩
    · rw [hk]
      rfl
  rw [herror] at hvisit
  cases hgather : gather list with
  | ok inventory =>
    rw [hgather] at hvisit
    cases hvisit
  | error e' =>
    rw [hgather] at hvisit
    cases hvisit
    rfl

/-- **One list that fails is enough**, and there is no failure without one. -/
theorem exists_error_gather_iff : (∃ e, gather list = .error e) ↔ ∃ k e, list k = .error e := by
  constructor
  · rintro ⟨e, he⟩
    -- without a failure all lists are there, and so is the inventory
    by_contra hnone
    have hlists : ∀ k, ∃ l, list k = .ok l := by
      intro k
      cases hk : list k with
      | error e => exact absurd ⟨k, e, hk⟩ hnone
      | ok l => exact ⟨l, rfl⟩
    choose lists hlists using hlists
    rw [gather_ok hlists] at he
    cases he
  · rintro ⟨k, e, he⟩
    rcases forall_or_exists_first (fun k => ∃ l, list k = .ok l) Kind.all with
      hall | ⟨before, k', after, hall, hbefore, hk'⟩
    · obtain ⟨l, hl⟩ := hall k k.mem_all
      rw [he] at hl
      cases hl
    · -- of the lists that fail, the first one counts
      cases hfirst : list k' with
      | ok l => exact absurd ⟨l, hfirst⟩ hk'
      | error e' => exact ⟨e', gather_error_of_first hall hbefore hfirst⟩

/-- The documents of a manifest are read by lists. -/
theorem ofDocuments_eq_gather (ns : Option String) (docs : List Json) :
    ofDocuments ns docs = gather fun k => decode k.resource ns docs := rfl

/-- **A cluster is read by lists**, as its server answers one request for each. -/
theorem run_ofCluster_fst (ns : Option String) (server : ApiServer) :
    ((ofCluster ns).run server).1 =
      gather fun k => (server (k.resource.listPath ns)).objects k.resource := by
  rw [Session.run_eq_runFrom]
  -- each list, with all that comes after it
  refine Session.fst_runFrom_list_bind.trans (bind_congr fun ingresses => ?_)
  refine Session.fst_runFrom_list_bind.trans (bind_congr fun services => ?_)
  refine Session.fst_runFrom_list_bind.trans (bind_congr fun backendConfigs => ?_)
  refine Session.fst_runFrom_list_bind.trans (bind_congr fun betaBackendConfigs => ?_)
  refine Session.fst_runFrom_list_bind.trans (bind_congr fun frontendConfigs => ?_)
  rfl

/-- The requests for all lists, in order. -/
def requests (ns : Option String) : List String :=
  Kind.all.map fun k => "GET " ++ k.resource.listPath ns

/-- Where no request fails, all of them are made. -/
theorem run_ofCluster_ok {ns : Option String} {server : ApiServer}
    {lists : (k : Kind) → List k.Object}
    (h : ∀ k, (server (k.resource.listPath ns)).objects k.resource = .ok (lists k)) :
    (ofCluster ns).run server = (.ok (ofKinds lists), requests ns) := by
  rw [Session.run_eq_runFrom]
  refine (Session.runFrom_list_bind (h .ingress)).trans ?_
  refine (Session.runFrom_list_bind (h .service)).trans ?_
  refine (Session.runFrom_list_bind (h .backendConfig)).trans ?_
  refine (Session.runFrom_list_bind (h .betaBackendConfig)).trans ?_
  refine (Session.runFrom_list_bind (h .frontendConfig)).trans ?_
  rfl

theorem exists_error_ofDocuments_iff {ns : Option String} {docs : List Json} :
    (∃ e, ofDocuments ns docs = .error e) ↔
      ∃ k : Kind, ∃ doc ∈ selected k.resource ns docs, k.resource.ofJson? doc = none := by
  rw [ofDocuments_eq_gather, exists_error_gather_iff]
  exact exists_congr fun k => exists_error_decode_iff

theorem exists_error_ofCluster_iff {ns : Option String} {server : ApiServer} :
    (∃ e, ((ofCluster ns).run server).1 = .error e) ↔
      ∃ k : Kind, (server (k.resource.listPath ns)).Fails k.resource := by
  rw [run_ofCluster_fst, exists_error_gather_iff]
  exact exists_congr fun k => Answer.exists_error_iff

end Inventory

/-! ### A manifest and a server with its documents -/

section Mirrors

variable {ns : Option String} {docs : List Json} {server : ApiServer}

/-- What is read of a manifest has the shape of its type. -/
def Intact (ns : Option String) (docs : List Json) : Prop :=
  ∀ k : Kind, ∀ doc ∈ selected k.resource ns docs, (k.resource.ofJson? doc).isSome

/-- The server lists the documents of a manifest: of each kind those that are read, in their
order. -/
def Mirrors (server : ApiServer) (ns : Option String) (docs : List Json) : Prop :=
  ∀ k : Kind, (server (k.resource.listPath ns)).Lists k.resource (selected k.resource ns docs)

theorem read_manifest_eq (h : Intact ns docs) :
    provider.read ns (.manifest (.ok docs)) = (.ok (.ofObjects ns docs), []) :=
  congrArg (·, []) (Inventory.gather_ok fun k => decode_eq_of_selected (h k))

theorem read_cluster_eq (hdocs : Intact ns docs) (hserver : Mirrors server ns docs) :
    provider.read ns (.cluster server) = (.ok (.ofObjects ns docs), Inventory.requests ns) :=
  Inventory.run_ofCluster_ok fun k => Answer.objects_of_lists (hserver k) (hdocs k)

/-- **A server that lists the documents of a manifest is read as the manifest is**: whatever a
provider has done before, either reading leaves it in one state, from which it converts and writes
the same. What is not read of the manifest need not have any shape. -/
theorem manifest_cluster_agree (hdocs : Intact ns docs) (hserver : Mirrors server ns docs)
    (s : Progress provider) :
    ∃ after : Progress provider, after.store = .ofObjects ns docs ∧
      s.read ns (.manifest (.ok docs)) = (after, none, []) ∧
      s.read ns (.cluster server) = (after, none, Inventory.requests ns) ∧
      provider.run ns (.manifest (.ok docs)) = (.ok (provider.output after.store), []) ∧
      provider.run ns (.cluster server) =
        (.ok (provider.output after.store), Inventory.requests ns) := by
  have hmanifest := read_manifest_eq hdocs
  have hcluster := read_cluster_eq hdocs hserver
  refine ⟨{ s with store := .ofObjects ns docs }, rfl, ?_, ?_, ?_, ?_⟩
  · rw [Progress.read, hmanifest]
  · rw [Progress.read, hcluster]
  · rw [Provider.run, hmanifest]
    rfl
  · rw [Provider.run, hcluster]
    rfl

/-- The server that lists the documents of a manifest. It answers as one without those extensions of
which there are no documents. -/
def serverOf (ns : Option String) (docs : List Json) : ApiServer := fun path =>
  match Kind.all.find? fun k => k.resource.listPath ns == path with
  | none => .lost
  | some k =>
    if selected k.resource ns docs = [] ∧ k.resource.isCustom = true then .response 404 none
    else .response 200 (some (.obj [("items", .arr (selected k.resource ns docs))]))

theorem mirrors_serverOf
    (hpaths : ∀ k : Kind,
      Kind.all.find? (fun k' => k'.resource.listPath ns == k.resource.listPath ns) = some k) :
    Mirrors (serverOf ns docs) ns docs := by
  intro k
  unfold serverOf
  rw [hpaths k]
  dsimp only
  split
  case isTrue h =>
    rw [h.1]
    exact .absent h.2 (by omega) rfl
  case isFalse => exact .items (by omega) ⟨rfl, rfl⟩

/-- Two Services of one name, after two Ingresses and before a BackendConfig, and a Service of
another namespace that cannot be read. -/
def mixedDocuments : List Json :=
  hostDocuments ++ [
    annotatedService "web"
      [("cloud.google.com/backend-config", .str "\x7b\"default\": \"web\"\x7d")],
    .obj [("apiVersion", .str "v1"), ("kind", .str "Service"),
      ("metadata", .obj [("name", .str "web"), ("namespace", .str "blue")]), ("spec", .int 80)],
    .obj [("apiVersion", .str "cloud.google.com/v1"), ("kind", .str "BackendConfig"),
      ("metadata", .obj [("name", .str "web"), ("namespace", .str "default")]),
      ("spec", .obj [])]]

theorem manifest_cluster_agree_mixedDocuments :
    Intact (some "default") mixedDocuments ∧ ¬Readable mixedDocuments ∧
      Mirrors (serverOf (some "default") mixedDocuments) (some "default") mixedDocuments ∧
      ∃ after : Progress provider, after.store = .ofObjects (some "default") mixedDocuments ∧
        (Progress.start provider).read (some "default") (.manifest (.ok mixedDocuments)) =
          (after, none, []) ∧
        (Progress.start provider).read (some "default")
            (.cluster (serverOf (some "default") mixedDocuments)) =
          (after, none, Inventory.requests (some "default")) ∧
        provider.run (some "default") (.manifest (.ok mixedDocuments)) =
          (.ok (provider.output after.store), []) ∧
        provider.run (some "default") (.cluster (serverOf (some "default") mixedDocuments)) =
          (.ok (provider.output after.store), Inventory.requests (some "default")) := by
  have hdocs : Intact (some "default") mixedDocuments := by
    intro k
    cases k <;> decide +kernel
  have hunreadable : ¬Readable mixedDocuments := by
    intro h
    exact absurd h.services (by decide +kernel)
  have hserver : Mirrors (serverOf (some "default") mixedDocuments) (some "default")
      mixedDocuments := by
    apply mirrors_serverOf
    intro k
    cases k <;> decide +kernel
  exact ⟨hdocs, hunreadable, hserver,
    manifest_cluster_agree hdocs hserver (Progress.start provider)⟩

end Mirrors

/-! ### Faults -/

/-- A source that cannot be read. -/
inductive Broken (ns : Option String) : Source → Prop
  /-- There are no documents: the file cannot be read, or its text is no manifest. -/
  | file (e : Failure) : Broken ns (.manifest (.error e))
  /-- A document that is read, of any kind, does not have the shape of its type. -/
  | document {docs : List Json} {doc : Json} (k : Kind) (hdoc : doc ∈ selected k.resource ns docs)
      (hshape : k.resource.ofJson? doc = none) : Broken ns (.manifest (.ok docs))
  /-- A list request fails. -/
  | list {server : ApiServer} (k : Kind)
      (h : (server (k.resource.listPath ns)).Fails k.resource) : Broken ns (.cluster server)

/-- **A reading fails** exactly when its source has a fault, whichever of the kinds it is in. -/
theorem exists_error_read_iff {ns : Option String} {source : Source} :
    (∃ e, (provider.read ns source).1 = .error e) ↔ Broken ns source := by
  cases source with
  | manifest documents =>
    cases documents with
    | error e => exact ⟨fun _ => .file e, fun _ => ⟨e, rfl⟩⟩
    | ok docs =>
      refine Inventory.exists_error_ofDocuments_iff.trans ⟨?_, ?_⟩
      · rintro ⟨k, doc, hdoc, hshape⟩
        exact .document k hdoc hshape
      · intro h
        cases h with
        | document k hdoc hshape => exact ⟨k, _, hdoc, hshape⟩
  | cluster server =>
    refine Inventory.exists_error_ofCluster_iff.trans ⟨?_, ?_⟩
    · rintro ⟨k, h⟩
      exact .list k h
    · intro h
      cases h with
      | list k h => exact ⟨k, h⟩

/-- **Conversions go by the last source without a fault**, in every run of readings, conversions and
lowerings: a reading fails exactly when there is a fault in what is read of its source, and then it
changes nothing. -/
theorem faithful_runs (ns : Option String) (steps : List Progress.Step) :
    Progress.Faithful provider ns steps ∧
      ∀ source, (∃ e, (provider.read ns source).1 = .error e) ↔ Broken ns source :=
  ⟨Progress.faithful provider ns steps, fun _ => exists_error_read_iff⟩

end Gce

end GatewayMigration
