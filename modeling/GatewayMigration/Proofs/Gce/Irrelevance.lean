import GatewayMigration.Proofs.Gce.Classes
import GatewayMigration.Proofs.Gce.Resolution
import GatewayMigration.Proofs.Gce.Sources
import GatewayMigration.Proofs.Gce.SslPolicies

/-!
# Documents that do not matter

A manifest can hold much that a conversion has no use for: documents of other types, Ingresses of
other classes, Services without configuration, and configurations that nothing refers to. Wherever
they stand, also inside of list objects, and whatever they say, the conversion is as it is without
them.

## Main definitions

* `Inserted`: a list with elements put in that have a property
* `Manifest.Widened`: a manifest with documents put in that have a property, to any depth
* `Gce.Idle`: an object that nothing asks for
* `Gce.Irrelevant`: a document of another type, or of an object that nothing asks for
* `Gce.Alike`: two inventories that hold the same as far as a conversion looks

## Main results

* `inserted_flatten`: what is put into a manifest is put between its objects
* `alike_ofObjects`: with irrelevant documents put in, the inventory holds the same
* `convert_eq_of_alike`: inventories that hold the same are converted alike
* `run_eq_of_widened`: irrelevant documents do not matter
-/

namespace GatewayMigration

/-! ### Insertions -/

/-- The second list is the first one with elements put in that have a property. -/
inductive Inserted {α : Type} (P : α → Prop) : List α → List α → Prop
  | nil : Inserted P [] []
  | keep (x : α) {l l' : List α} (h : Inserted P l l') : Inserted P (x :: l) (x :: l')
  | insert {x : α} (hx : P x) {l l' : List α} (h : Inserted P l l') : Inserted P l (x :: l')

namespace Inserted

variable {α β : Type} {P : α → Prop} {l l' : List α}

theorem refl (l : List α) : Inserted P l l := by
  induction l with
  | nil => exact .nil
  | cons x l ih => exact .keep x ih

theorem append {k k' : List α} (h : Inserted P l l') (hk : Inserted P k k') :
    Inserted P (l ++ k) (l' ++ k') := by
  induction h with
  | nil => exact hk
  | keep x _ ih => exact .keep x ih
  | insert hx _ ih => exact .insert hx ih

/-- What is in the list is from before, or it was put in. -/
theorem mem_or {x : α} (h : Inserted P l l') (hx : x ∈ l') : x ∈ l ∨ P x := by
  induction h with
  | nil => cases hx
  | keep y _ ih =>
    rcases List.mem_cons.mp hx with rfl | hx
    · exact .inl (List.mem_cons_self ..)
    · exact (ih hx).imp_left (List.mem_cons_of_mem y)
  | insert hy _ ih =>
    rcases List.mem_cons.mp hx with rfl | hx
    · exact .inr hy
    · exact ih hx

/-- What is made of a list has put into it what is made of the elements that were put in. -/
theorem filterMap {Q : β → Prop} {f : α → Option β} (h : Inserted P l l')
    (hf : ∀ x, P x → ∀ y, f x = some y → Q y) :
    Inserted Q (l.filterMap f) (l'.filterMap f) := by
  induction h with
  | nil => exact .nil
  | keep x _ ih =>
    cases hx : f x with
    | none => simpa [hx] using ih
    | some y => simpa [hx] using ih.keep y
  | @insert x hPx _ _ _ ih =>
    cases hx : f x with
    | none => simpa [hx] using ih
    | some y => simpa [hx] using ih.insert (hf x hPx y hx)

/-- Where nothing that was put in passes a test, the test finds the same as before. -/
theorem filter_eq {p : α → Bool} (h : Inserted P l l') (hp : ∀ x, P x → p x = false) :
    l'.filter p = l.filter p := by
  induction h with
  | nil => rfl
  | keep x _ ih => rw [List.filter_cons, List.filter_cons, ih]
  | insert hx _ ih => rw [List.filter_cons, hp _ hx, if_neg Bool.false_ne_true, ih]

end Inserted

namespace ResourceType

variable {α : Type} {t : ResourceType α} {P : α → Prop} {l l' : List α}

theorem find?_index (l : List α) (key : ObjectName) :
    (t.index l).find? key = (l.filter fun x => (t.metadata x).objectName = key).getLast? := by
  rw [index, OrderedMap.find?_ofList, List.filter_map, List.map_map]
  simp only [Function.comp_def, List.map_id']

theorem mem_of_find?_index {key : ObjectName} {x : α} (h : (t.index l).find? key = some x) :
    x ∈ l ∧ (t.metadata x).objectName = key := by
  rw [find?_index] at h
  obtain ⟨hmem, hname⟩ := List.mem_filter.mp (List.mem_of_getLast? h)
  exact ⟨hmem, of_decide_eq_true hname⟩

theorem find?_index_eq_none_iff {key : ObjectName} :
    (t.index l).find? key = none ↔ ∀ x ∈ l, (t.metadata x).objectName ≠ key := by
  rw [find?_index, List.getLast?_eq_none_iff, List.filter_eq_nil_iff]
  simp only [decide_eq_true_eq, ne_eq]

/-- At a name that nothing that was put in has, an index holds the same as before. -/
theorem find?_index_of_inserted (h : Inserted P l l') {key : ObjectName}
    (hkey : ∀ x, P x → (t.metadata x).objectName ≠ key) :
    (t.index l').find? key = (t.index l).find? key := by
  rw [find?_index, find?_index, h.filter_eq fun x hx => decide_eq_false (hkey x hx)]

end ResourceType

namespace Manifest

/-! ### Widening a manifest -/

/-- The second manifest is the first one with documents put in that have a property: between its
documents, or between the items of its list objects. -/
inductive Widened (P : Json → Prop) : List Json → List Json → Prop
  | nil : Widened P [] []
  | keep (doc : Json) {docs docs' : List Json} (h : Widened P docs docs') :
      Widened P (doc :: docs) (doc :: docs')
  | insert {doc : Json} (hdoc : P doc) {docs docs' : List Json} (h : Widened P docs docs') :
      Widened P docs (doc :: docs')
  | within {members members' : Json.Fields} {items items' docs docs' : List Json}
      (hitems : listItems? members = some items) (hitems' : listItems? members' = some items')
      (h : Widened P items items') (hrest : Widened P docs docs') :
      Widened P (.obj members :: docs) (.obj members' :: docs')

namespace Widened

variable {P : Json → Prop} {docs docs' padding : List Json}

theorem append_left (hpadding : ∀ doc ∈ padding, P doc) (h : Widened P docs docs') :
    Widened P docs (padding ++ docs') := by
  induction padding with
  | nil => exact h
  | cons doc padding ih =>
    exact .insert (hpadding doc (List.mem_cons_self ..))
      (ih fun doc' hdoc' => hpadding doc' (List.mem_cons_of_mem _ hdoc'))

/-- The same documents may be put in after each document. -/
theorem flatMap (hpadding : ∀ doc ∈ padding, P doc) (docs : List Json) :
    Widened P docs (docs.flatMap (· :: padding)) := by
  induction docs with
  | nil => exact .nil
  | cons doc docs ih => exact .keep doc (ih.append_left hpadding)

end Widened

/-- The document stands for itself, or for nothing. -/
def Single (doc : Json) : Prop := flattenOne doc = [] ∨ flattenOne doc = [doc]

theorem single_of_not_list {doc : Json}
    (h : ∀ members, doc = .obj members → listItems? members = none) : Single doc := by
  cases doc with
  | null => exact .inl flattenOne_null
  | obj members => exact .inr (flattenOne_obj_of_none (h members rfl))
  | _ => right; rw [flattenOne] <;> simp

/-- **What is put into a manifest is put between its objects**, if it stands for itself or for
nothing. -/
theorem inserted_flatten {P : Json → Prop} (hP : ∀ doc, P doc → Single doc) {docs docs' : List Json}
    (h : Widened P docs docs') : Inserted P (flatten docs) (flatten docs') := by
  induction h with
  | nil => exact .refl _
  | keep doc _ ih =>
    rw [flatten, flatten]
    exact (Inserted.refl _).append ih
  | insert hdoc _ ih =>
    rw [flatten]
    rcases hP _ hdoc with hnone | hone
    · rw [hnone]
      exact ih
    · rw [hone]
      exact .insert hdoc ih
  | within hitems hitems' _ _ ih ihrest =>
    rw [flatten, flatten, flattenOne_obj hitems, flattenOne_obj hitems']
    exact ih.append ihrest

/-- A document of a type has the kind of the type, so it is a list object only if the kind is one of
list objects. -/
theorem listItems?_of_isOfType {α : Type} {t : ResourceType α} {members : Json.Fields}
    (h : isOfType t (.obj members) = true) (hkind : isListKind t.kind = false) :
    listItems? members = none := by
  have hfield : Json.lookup "kind" members = some (.str t.kind) := by
    simp only [isOfType, Bool.and_eq_true, beq_iff_eq] at h
    obtain ⟨v, hv, htext⟩ := Option.bind_eq_some_iff.mp h.2
    cases v with
    | str text =>
      obtain rfl : text = t.kind := Option.some.inj htext
      exact hv
    | _ => cases htext
  unfold listItems?
  rw [hfield]
  cases Json.lookup "items" members with
  | none => rfl
  | some items =>
    cases items with
    | arr items => exact if_neg (Bool.eq_false_iff.mp hkind)
    | _ => rfl

end Manifest

namespace Gce

open Manifest

/-! ### Irrelevant documents -/

/-- A Service that has a configuration in its annotations. -/
def annotated (s : Service) : Bool :=
  (s.metadata.annotation? ConfigVersion.v1.annotation).isSome ||
    (s.metadata.annotation? ConfigVersion.v1beta1.annotation).isSome

theorem annotated_eq_false_iff {s : Service} :
    annotated s = false ↔ s.metadata.annotation? ConfigVersion.v1.annotation = none ∧
      s.metadata.annotation? ConfigVersion.v1beta1.annotation = none := by
  simp [annotated]

/-- The FrontendConfig that an Ingress names, in its namespace. -/
def frontend? (e : ObjectName × Ingress) : Option ObjectName :=
  (e.2.metadata.annotation? frontendAnnotation).map (⟨e.1.ns, ·⟩)

/-- Nothing of an inventory asks for the object: an Ingress of another class, a Service with a name
of its own and without configuration, and a configuration that nothing refers to. -/
def Idle (inventory : Inventory) : (k : Kind) → k.Object → Prop
  | .ingress, i => classOf i ≠ externalClass ∧ classOf i ≠ internalClass
  | .service, s =>
    inventory.services.find? (Service.resource.metadata s).objectName = none ∧
      annotated s = false
  | .backendConfig, c =>
    ∀ r ∈ references inventory.services, r.version = .v1 → c.metadata.objectName ≠ r.config
  | .betaBackendConfig, c =>
    ∀ r ∈ references inventory.services, r.version = .v1beta1 → c.metadata.objectName ≠ r.config
  | .frontendConfig, c =>
    ∀ e ∈ inventory.ingresses.entries, frontend? e ≠ some c.metadata.objectName

instance (inventory : Inventory) : (k : Kind) → (x : k.Object) → Decidable (Idle inventory k x)
  | .ingress, _ => inferInstanceAs (Decidable (_ ∧ _))
  | .service, _ => inferInstanceAs (Decidable (_ ∧ _))
  | .backendConfig, _ => inferInstanceAs (Decidable (∀ _ ∈ _, _))
  | .betaBackendConfig, _ => inferInstanceAs (Decidable (∀ _ ∈ _, _))
  | .frontendConfig, _ => inferInstanceAs (Decidable (∀ _ ∈ _, _))

/-- The document does not matter for an inventory. -/
inductive Irrelevant (inventory : Inventory) (doc : Json) : Prop
  /-- It is of none of the types that are read, and it is no list object. -/
  | otherType (htype : ∀ k : Kind, isOfType k.resource doc = false)
      (hlist : ∀ members, doc = .obj members → listItems? members = none)
  /-- It is that of an object that nothing asks for. -/
  | idle (k : Kind) {x : k.Object} (htype : isOfType k.resource doc = true)
      (hread : k.resource.ofJson? doc = some x) (hidle : Idle inventory k x)

theorem Irrelevant.of_idle {inventory : Inventory} {doc : Json} (k : Kind)
    (htype : isOfType k.resource doc = true) (hread : (k.resource.ofJson? doc).isSome)
    (hidle : Idle inventory k ((k.resource.ofJson? doc).get hread)) : Irrelevant inventory doc :=
  .idle k htype (Option.some_get hread).symm hidle

/-- A document is of one kind at most. -/
theorem Kind.eq_of_isOfType {k k' : Kind} {doc : Json} (h : isOfType k.resource doc = true)
    (h' : isOfType k'.resource doc = true) : k = k' := by
  simp only [isOfType, Bool.and_eq_true, beq_iff_eq] at h h'
  have hversion : k.resource.apiVersion = k'.resource.apiVersion :=
    Option.some.inj (h.1.symm.trans h'.1)
  have hkind : k.resource.kind = k'.resource.kind := Option.some.inj (h.2.symm.trans h'.2)
  -- the two versions of a BackendConfig differ in their API version, all others in their kind
  have hwords : (k.resource.apiVersion, k.resource.kind) =
      (k'.resource.apiVersion, k'.resource.kind) := Prod.ext hversion hkind
  clear h h' hversion hkind
  revert hwords
  cases k <;> cases k' <;> decide

variable {inventory : Inventory}

theorem Irrelevant.single {doc : Json} (h : Irrelevant inventory doc) : Single doc := by
  cases h with
  | otherType _ hlist => exact single_of_not_list hlist
  | idle k htype _ _ =>
    refine single_of_not_list fun members hdoc => listItems?_of_isOfType (hdoc ▸ htype) ?_
    cases k <;> decide

/-- An irrelevant document that is read as an object is one that nothing asks for. -/
theorem Irrelevant.idle_of_isOfType {doc : Json} (h : Irrelevant inventory doc) {k : Kind}
    (htype : isOfType k.resource doc = true) :
    ∃ x, k.resource.ofJson? doc = some x ∧ Idle inventory k x := by
  cases h with
  | otherType hnone _ =>
    rw [hnone k] at htype
    cases htype
  | idle k' htype' hread hidle =>
    obtain rfl := Kind.eq_of_isOfType htype htype'
    exact ⟨_, hread, hidle⟩

variable {ns : Option String} {docs docs' : List Json}

/-- Irrelevant documents put idle objects into the list of each kind. -/
theorem inserted_objects (h : Inserted (Irrelevant inventory) docs docs') (ns : Option String)
    (k : Kind) :
    Inserted (Idle inventory k) (objects k.resource ns docs) (objects k.resource ns docs') := by
  have hselected : ∀ docs, objects k.resource ns docs = docs.filterMap fun doc =>
      if isOfType k.resource doc && isIn ns doc then k.resource.ofJson? doc else none := by
    intro docs
    simp only [objects, List.filter_filter, List.filterMap_filter, Bool.and_comm]
  rw [hselected, hselected]
  refine h.filterMap fun doc hdoc x hx => ?_
  obtain ⟨hselected, hread⟩ := Option.ite_none_right_eq_some.mp hx
  obtain ⟨x', hread', hidle⟩ := hdoc.idle_of_isOfType (Bool.and_eq_true_iff.mp hselected).1
  rw [hread] at hread'
  rwa [Option.some.inj hread']

/-- Irrelevant documents have the shape of their type. -/
theorem Intact.of_inserted (hdocs : Intact ns docs)
    (h : Inserted (Irrelevant inventory) docs docs') : Intact ns docs' := by
  intro k doc hdoc
  obtain ⟨hmem, htype, hin⟩ := mem_selected.mp hdoc
  rcases h.mem_or hmem with hmem | hirrelevant
  · exact hdocs k doc (mem_selected.mpr ⟨hmem, htype, hin⟩)
  · obtain ⟨x, hread, -⟩ := hirrelevant.idle_of_isOfType htype
    rw [hread]
    rfl

/-! ### Inventories that hold the same -/

/-- The inventories hold the same Ingresses, the same Services with configurations, and the same
configurations where something refers to them. -/
structure Alike (inventory inventory' : Inventory) : Prop where
  ingresses : inventory'.ingresses = inventory.ingresses
  services : (inventory'.services.filter fun _ s => annotated s) =
    inventory.services.filter fun _ s => annotated s
  configs : ∀ r ∈ references inventory.services,
    (r.version.configs inventory').find? r.config = (r.version.configs inventory).find? r.config
  frontendConfigs : ∀ e ∈ inventory.ingresses.entries, ∀ config, frontend? e = some config →
    inventory'.frontendConfigs.find? config = inventory.frontendConfigs.find? config

/-- **With irrelevant documents put in, the inventory holds the same** as far as a conversion
looks. -/
theorem alike_ofObjects
    (h : Inserted (Irrelevant (.ofObjects ns docs)) docs docs') :
    Alike (.ofObjects ns docs) (.ofObjects ns docs') := by
  constructor
  case ingresses =>
    -- Ingresses of other classes are left out before names count
    have hours := (inserted_objects h ns .ingress).filter_eq (p := isOurs) fun i hi =>
      Bool.eq_false_iff.mpr fun hours => ((isOurs_iff i).mp hours).elim hi.1 hi.2
    exact congrArg Ingress.resource.index hours
  case services =>
    have hservices := inserted_objects h ns .service
    refine OrderedMap.ext_find? fun key => ?_
    rw [OrderedMap.find?_filter, OrderedMap.find?_filter]
    cases hkey : (Inventory.ofObjects ns docs).services.find? key with
    | some s =>
      -- the name is taken, so what is put in does not have it
      have hsame : (Inventory.ofObjects ns docs').services.find? key =
          (Inventory.ofObjects ns docs).services.find? key :=
        ResourceType.find?_index_of_inserted hservices fun x hx hname => by
          rw [← hname, hx.1] at hkey
          cases hkey
      rw [hsame, hkey]
    | none =>
      -- what has the name is put in, and it has no configuration
      cases hkey' : (Inventory.ofObjects ns docs').services.find? key with
      | none => rfl
      | some s =>
        obtain ⟨hmem, hname⟩ := ResourceType.mem_of_find?_index hkey'
        have hidle := (hservices.mem_or hmem).resolve_left fun hbefore =>
          ResourceType.find?_index_eq_none_iff.mp hkey s hbefore hname
        rw [Option.filter_some, hidle.2]
        rfl
  case configs =>
    intro r hr
    obtain ⟨v, config, service⟩ := r
    cases v with
    | v1 =>
      exact ResourceType.find?_index_of_inserted (inserted_objects h ns .backendConfig)
        fun c hc => hc _ hr rfl
    | v1beta1 =>
      exact ResourceType.find?_index_of_inserted (inserted_objects h ns .betaBackendConfig)
        fun c hc => hc _ hr rfl
  case frontendConfigs =>
    intro e he config hconfig
    exact ResourceType.find?_index_of_inserted (inserted_objects h ns .frontendConfig)
      fun c hc hname => hc e he (hname ▸ hconfig)

/-! ### Conversions -/

section Conversions

variable {inventory' : Inventory}

/-- Services without a configuration refer to nothing. -/
theorem references_filter_annotated (services : OrderedMap ObjectName Service) :
    references (services.filter fun _ s => annotated s) = references services := by
  unfold references OrderedMap.filter
  rw [List.filterMap_filter]
  refine List.filterMap_congr fun e _ => ?_
  split
  case isTrue => rfl
  case isFalse he =>
    obtain ⟨hv1, hbeta⟩ := annotated_eq_false_iff.mp (Bool.eq_false_iff.mpr he)
    simp [reference?, target?, named?, hv1, hbeta]

/-- Nothing is to be said about the annotations of Services without a configuration. -/
theorem notes_filter_annotated (services : OrderedMap ObjectName Service) :
    ((services.filter fun _ s => annotated s).values.flatMap fun s => (resolve s).2) =
      services.values.flatMap fun s => (resolve s).2 := by
  unfold OrderedMap.values OrderedMap.filter
  rw [List.flatMap_map, List.flatMap_map]
  refine flatMap_filter_of_forall fun e _ he => ?_
  obtain ⟨hv1, hbeta⟩ := annotated_eq_false_iff.mp he
  simp [resolve, namedConfig, hv1, hbeta]

/-- The settings of Services are the same. -/
theorem configureServices_eq_of_alike (h : Alike inventory inventory') (t : Topology) :
    configureServices inventory' t = configureServices inventory t := by
  have hreferences : references inventory'.services = references inventory.services := by
    rw [← references_filter_annotated, h.services, references_filter_annotated]
  have hnotes : (inventory'.services.values.flatMap fun s => (resolve s).2) =
      inventory.services.values.flatMap fun s => (resolve s).2 := by
    rw [← notes_filter_annotated, h.services, notes_filter_annotated]
  have hreferrers : ∀ v, referrers v inventory'.services = referrers v inventory.services := by
    intro v
    rw [referrers_eq, referrers_eq, referencesTo, referencesTo, hreferences]
  -- only configurations that something refers to are looked up
  have hconfigure : ∀ v (state : Noted), ∀ e ∈ (referrers v inventory.services).entries,
      configure v inventory' state e = configure v inventory state e := by
    intro v state e he
    obtain ⟨r, hr, rfl, hconfig⟩ := mem_keys_referrers.mp (List.mem_map_of_mem he)
    have hfind := h.configs r hr
    rw [hconfig] at hfind
    unfold configure
    dsimp only
    rw [hfind]
  unfold configureServices
  dsimp only
  rw [hnotes, hreferrers, hreferrers, List.foldl_ext _ _ _ (hconfigure .v1),
    List.foldl_ext _ _ _ (hconfigure .v1beta1)]

/-- The SSL policies of Gateways are the same. -/
theorem configureGateways_eq_of_alike (h : Alike inventory inventory') (state : Noted) :
    configureGateways inventory' state = configureGateways inventory state := by
  unfold configureGateways
  rw [h.ingresses]
  refine List.foldl_ext _ _ _ fun state e he => ?_
  unfold configureGateway
  dsimp only
  cases hname : e.2.metadata.annotation? frontendAnnotation with
  | none => rfl
  | some name =>
    have hconfig : frontend? e = some ⟨e.1.ns, name⟩ := by rw [frontend?, hname, Option.map_some]
    dsimp only
    rw [h.frontendConfigs e he _ hconfig]

/-- **Inventories that hold the same are converted alike.** -/
theorem convert_eq_of_alike (h : Alike inventory inventory') :
    convert inventory' = convert inventory := by
  unfold convert
  rw [h.ingresses]
  simp only [configureServices_eq_of_alike h, configureGateways_eq_of_alike h]

end Conversions

/-! ### Manifests -/

/-- A manifest that is read is intact, and the inventory is that of its objects. -/
theorem intact_of_read {requests : List String}
    (h : provider.read ns (.manifest (.ok docs)) = (.ok inventory, requests)) :
    Intact ns docs ∧ inventory = .ofObjects ns docs := by
  have hintact : Intact ns docs := by
    intro k doc hdoc
    by_contra hshape
    obtain ⟨e, he⟩ := exists_error_read_iff.mpr
      (.document k hdoc (Option.not_isSome_iff_eq_none.mp hshape))
    rw [h] at he
    cases he
  refine ⟨hintact, ?_⟩
  rw [read_manifest_eq hintact] at h
  exact (Except.ok.inj (congrArg Prod.fst h)).symm

/-- **Irrelevant documents do not matter.** Where a manifest is read, it is read with any of them
put in, and documents, errors and notifications are the same. -/
theorem run_eq_of_widened {requests : List String}
    (hread : provider.read ns (.manifest (.ok (flatten docs))) = (.ok inventory, requests))
    (hdocs : Widened (Irrelevant inventory) docs docs') :
    ∃ output, provider.run ns (.manifest (.ok (flatten docs))) = (.ok output, []) ∧
      provider.run ns (.manifest (.ok (flatten docs'))) = (.ok output, []) := by
  obtain ⟨hintact, rfl⟩ := intact_of_read hread
  have hinserted := inserted_flatten (fun _ => Irrelevant.single) hdocs
  have hconvert : provider.convert (.ofObjects ns (flatten docs')) =
      provider.convert (.ofObjects ns (flatten docs)) :=
    convert_eq_of_alike (alike_ofObjects hinserted)
  have houtput : provider.output (.ofObjects ns (flatten docs')) =
      provider.output (.ofObjects ns (flatten docs)) := by
    unfold Provider.output
    rw [hconvert]
  refine ⟨provider.output (.ofObjects ns (flatten docs)), ?_, ?_⟩
  · rw [Provider.run, read_manifest_eq hintact]
    rfl
  · rw [Provider.run, read_manifest_eq (hintact.of_inserted hinserted), ← houtput]
    rfl

/-- The document of a BackendConfig with a session affinity. -/
def affineConfig (apiVersion name affinity : String) : Json :=
  .obj [("apiVersion", .str apiVersion), ("kind", .str "BackendConfig"),
    ("metadata", .obj [("name", .str name), ("namespace", .str "default")]),
    ("spec", .obj [("sessionAffinity", .obj [("affinityType", .str affinity)])])]

/-- An Ingress and a Service with their configurations. -/
def configuredDocuments : List Json :=
  [securedIngress "web" "gce" "front",
    annotatedService "web"
      [("cloud.google.com/backend-config", .str "\x7b\"default\": \"web\"\x7d")],
    affineConfig "cloud.google.com/v1" "web" "CLIENT_IP", frontendDocument "front" "modern" false]

/-- An Ingress of another class under the same name, a Service that nothing is said about, the other
version of the configuration and one that nobody names, both with a type that is not known, and a
redirect that nobody asks for. -/
def idleDocuments : List Json :=
  [securedIngress "web" "nginx" "back", annotatedService "shop" [],
    affineConfig "cloud.google.com/v1beta1" "web" "COOKIE",
    affineConfig "cloud.google.com/v1" "shop" "COOKIE", frontendDocument "back" "strict" true]

theorem irrelevant_of_mem_idleDocuments {doc : Json} (h : doc ∈ idleDocuments) :
    Irrelevant (.ofObjects none configuredDocuments) doc := by
  simp only [idleDocuments, List.mem_cons, List.not_mem_nil, or_false] at h
  obtain rfl | rfl | rfl | rfl | rfl := h
  · exact .of_idle .ingress (by decide +kernel) (by decide +kernel) (by decide +kernel)
  · exact .of_idle .service (by decide +kernel) (by decide +kernel) (by decide +kernel)
  · exact .of_idle .betaBackendConfig (by decide +kernel) (by decide +kernel) (by decide +kernel)
  · exact .of_idle .backendConfig (by decide +kernel) (by decide +kernel) (by decide +kernel)
  · exact .of_idle .frontendConfig (by decide +kernel) (by decide +kernel) (by decide +kernel)

/-- Any value that is no object is irrelevant. -/
theorem irrelevant_of_not_obj {doc : Json} (h : ∀ members, doc ≠ .obj members) :
    Irrelevant inventory doc := by
  refine .otherType (fun k => ?_) fun members hdoc => absurd hdoc (h members)
  cases doc with
  | obj members => exact absurd rfl (h members)
  | _ => rfl

/-- The documents as the items of a list object. -/
def configuredList : List Json := [.obj (listMembers configuredDocuments)]

/-- Irrelevant documents after each of the items, and values that are no objects around. -/
def paddedList : List Json :=
  [.null, .obj (listMembers (configuredDocuments.flatMap (· :: idleDocuments))), .int 1]

theorem flatten_configuredList : flatten configuredList = configuredDocuments := by
  have hdocs : flatten configuredDocuments = configuredDocuments := by
    rw [flatten_eq_flatMap]
    simp only [configuredDocuments, List.flatMap_cons, List.flatMap_nil, securedIngress,
      annotatedService, affineConfig, frontendDocument]
    rw [flattenOne_obj_of_none (by decide +kernel), flattenOne_obj_of_none (by decide +kernel),
      flattenOne_obj_of_none (by decide +kernel), flattenOne_obj_of_none (by decide +kernel)]
    rfl
  rw [configuredList, flatten, flatten, flattenOne_obj (listItems?_listMembers _), hdocs,
    List.append_nil]

theorem run_eq_of_widened_configuredList :
    provider.read none (.manifest (.ok (flatten configuredList))) =
        (.ok (.ofObjects none configuredDocuments), []) ∧
      Widened (Irrelevant (.ofObjects none configuredDocuments)) configuredList paddedList ∧
      ∃ output, provider.run none (.manifest (.ok (flatten configuredList))) = (.ok output, []) ∧
        provider.run none (.manifest (.ok (flatten paddedList))) = (.ok output, []) := by
  have hreadable : Readable configuredDocuments := by constructor <;> decide +kernel
  have hread : provider.read none (.manifest (.ok (flatten configuredList))) =
      (.ok (.ofObjects none configuredDocuments), []) := by
    rw [flatten_configuredList]
    exact congrArg (·, []) (ofDocuments_eq hreadable none)
  have hwidened : Widened (Irrelevant (.ofObjects none configuredDocuments)) configuredList
      paddedList :=
    .insert (irrelevant_of_not_obj (by simp))
      (.within (listItems?_listMembers _) (listItems?_listMembers _)
        (.flatMap (fun _ => irrelevant_of_mem_idleDocuments) _)
        (.insert (irrelevant_of_not_obj (by simp)) .nil))
  exact ⟨hread, hwidened, run_eq_of_widened hread hwidened⟩

end Gce

end GatewayMigration
