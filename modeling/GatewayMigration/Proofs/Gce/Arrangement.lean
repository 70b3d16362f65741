import GatewayMigration.Proofs.Gce.Reading
import Mathlib.Data.List.Nodup

/-!
# The arrangement of a manifest

The same objects can stand in a manifest in any order, one by one or as the items of list objects,
with empty documents between them. The conversion is full of rules for who comes first, but all of
them go by names: as long as no two objects of a type share one, the arrangement does not count.

## Main definitions

* `Manifest.Rearranged`: two arrangements of the same objects
* `Gce.Distinct`: no two objects of a type share a name

## Main results

* `rearranged_iff_perm`: rearranged manifests hold the same objects, and the other way round
* `ofObjects_eq_of_perm`: the order of the objects does not count for the inventory
* `run_eq_of_rearranged`: the arrangement of a manifest does not count for its conversion
-/

namespace GatewayMigration

namespace Manifest

/-! ### Arrangements -/

theorem flatten_eq_flatMap (docs : List Json) : flatten docs = docs.flatMap flattenOne := by
  induction docs with
  | nil => rw [flatten, List.flatMap_nil]
  | cons doc docs ih => rw [flatten, ih, List.flatMap_cons]

theorem flatten_append (docs docs' : List Json) :
    flatten (docs ++ docs') = flatten docs ++ flatten docs' := by
  simp only [flatten_eq_flatMap, List.flatMap_append]

theorem flattenOne_null : flattenOne .null = [] := by rw [flattenOne]

theorem flattenOne_obj {members : Json.Fields} {items : List Json}
    (h : listItems? members = some items) : flattenOne (.obj members) = flatten items := by
  rw [flattenOne]
  split
  case h_1 items' h' => rw [Option.some.inj (h.symm.trans h')]
  case h_2 h' => rw [h] at h'; cases h'

theorem flattenOne_obj_of_none {members : Json.Fields} (h : listItems? members = none) :
    flattenOne (.obj members) = [.obj members] := by
  rw [flattenOne]
  split
  case h_1 h' => rw [h] at h'; cases h'
  case h_2 => rfl

/-- Two arrangements of the same objects: they differ in the order of documents, in list objects
that stand for their items, and in empty documents. -/
inductive Rearranged : List Json → List Json → Prop
  | perm {docs docs' : List Json} (h : docs.Perm docs') : Rearranged docs docs'
  | wrap {members : Json.Fields} {items : List Json} (before after : List Json)
      (h : listItems? members = some items) :
      Rearranged (before ++ items ++ after) (before ++ .obj members :: after)
  | null (before after : List Json) : Rearranged (before ++ after) (before ++ .null :: after)
  | symm {docs docs' : List Json} (h : Rearranged docs docs') : Rearranged docs' docs
  | trans {docs docs' docs'' : List Json} (h : Rearranged docs docs')
      (h' : Rearranged docs' docs'') : Rearranged docs docs''

namespace Rearranged

theorem refl (docs : List Json) : Rearranged docs docs := .perm (.refl docs)

/-- Other documents may stand around. -/
theorem append {docs docs' : List Json} (h : Rearranged docs docs') (before after : List Json) :
    Rearranged (before ++ docs ++ after) (before ++ docs' ++ after) := by
  induction h with
  | perm h => exact .perm ((h.append_left before).append_right after)
  | @wrap members items left right h =>
    have := wrap (before ++ left) (right ++ after) h
    simpa only [List.append_assoc, List.cons_append] using this
  | null left right =>
    have := null (before ++ left) (right ++ after)
    simpa only [List.append_assoc, List.cons_append] using this
  | symm _ ih => exact ih.symm
  | trans _ _ ih ih' => exact ih.trans ih'

/-- Rearranged manifests hold the same objects. -/
theorem perm_flatten {docs docs' : List Json} (h : Rearranged docs docs') :
    (flatten docs).Perm (flatten docs') := by
  induction h with
  | perm h =>
    rw [flatten_eq_flatMap, flatten_eq_flatMap]
    exact h.flatMap_right _
  | wrap before after h =>
    simp only [flatten_append, flatten, flattenOne_obj h, List.append_assoc]
    exact .refl _
  | null before after =>
    simp only [flatten_append, flatten, flattenOne_null, List.nil_append]
    exact .refl _
  | symm _ ih => exact ih.symm
  | trans _ _ ih ih' => exact ih.trans ih'

end Rearranged

/-- A manifest is an arrangement of its objects. -/
theorem rearranged_flatten (docs : List Json) : Rearranged docs (flatten docs) := by
  -- along the recursion that flattens: each document, then each sequence of documents
  refine (flattenOne.mutual_induct (fun doc => Rearranged [doc] (flattenOne doc))
    (fun docs => Rearranged docs (flatten docs)) ?null ?list ?single ?value ?nil ?cons).2 docs
  case null =>
    rw [flattenOne_null]
    exact (Rearranged.null [] []).symm
  case list =>
    intro members items h ih
    have hwrap := Rearranged.wrap [] [] h
    rw [List.nil_append, List.append_nil] at hwrap
    rw [flattenOne_obj h]
    exact hwrap.symm.trans ih
  case single =>
    intro members h
    rw [flattenOne_obj_of_none h]
    exact .refl _
  case value =>
    intro v hnull hobj
    rw [flattenOne]
    · exact .refl _
    · exact hnull
    · exact hobj
  case nil =>
    rw [flatten]
    exact .refl _
  case cons =>
    intro doc docs hdoc hdocs
    rw [flatten]
    have hone := hdoc.append [] docs
    have hrest := hdocs.append (flattenOne doc) []
    simp only [List.nil_append, List.append_nil, List.singleton_append] at hone hrest
    exact hone.trans hrest

/-- **Two manifests are rearranged exactly when they hold the same objects.** -/
theorem rearranged_iff_perm {docs docs' : List Json} :
    Rearranged docs docs' ↔ (flatten docs).Perm (flatten docs') := by
  constructor
  · exact Rearranged.perm_flatten
  · intro h
    exact ((rearranged_flatten docs).trans (.perm h)).trans (rearranged_flatten docs').symm

/-! ### Objects -/

variable {α : Type} {t : ResourceType α} {docs docs' : List Json}

theorem Decodes.of_perm (h : Decodes t docs) (hperm : docs.Perm docs') : Decodes t docs' :=
  fun doc hdoc => h doc (hperm.mem_iff.mpr hdoc)

theorem perm_objects (hperm : docs.Perm docs') (ns : Option String) :
    (objects t ns docs).Perm (objects t ns docs') :=
  ((hperm.filter _).filter _).filterMap _

/-- The objects of a namespace are some of all objects. -/
theorem objects_sublist (t : ResourceType α) (ns : Option String) (docs : List Json) :
    (objects t ns docs).Sublist (objects t none docs) := by
  rw [objects_none]
  exact List.filter_sublist.filterMap _

end Manifest

/-- The order of objects without repeated names does not count for their index. -/
theorem ResourceType.index_eq_of_perm {α : Type} (t : ResourceType α) {l l' : List α}
    (hperm : l.Perm l') (hnodup : (l.map fun x => (t.metadata x).objectName).Nodup) :
    t.index l = t.index l' := by
  refine OrderedMap.ofList_eq_of_perm (hperm.map _) ?_
  rw [List.map_map]
  exact hnodup

namespace Gce

open Manifest

variable {docs docs' : List Json}

theorem Readable.of_perm (h : Readable docs) (hperm : docs.Perm docs') : Readable docs' where
  ingresses := h.ingresses.of_perm hperm
  services := h.services.of_perm hperm
  backendConfigs := h.backendConfigs.of_perm hperm
  betaBackendConfigs := h.betaBackendConfigs.of_perm hperm
  frontendConfigs := h.frontendConfigs.of_perm hperm

/-- The objects of a type have names of their own. -/
def DistinctNames {α : Type} (t : ResourceType α) (l : List α) : Prop :=
  (l.map fun x => (t.metadata x).objectName).Nodup

instance {α : Type} (t : ResourceType α) (l : List α) : Decidable (DistinctNames t l) :=
  inferInstanceAs (Decidable (List.Nodup _))

theorem DistinctNames.sublist {α : Type} {t : ResourceType α} {l l' : List α}
    (h : DistinctNames t l) (hl : l'.Sublist l) : DistinctNames t l' :=
  List.Nodup.sublist (hl.map _) h

/-- No two objects of a type share a name; Ingresses of other classes do not count. -/
structure Distinct (docs : List Json) : Prop where
  ingresses : DistinctNames Ingress.resource ((objects Ingress.resource none docs).filter isOurs)
  services : DistinctNames Service.resource (objects Service.resource none docs)
  backendConfigs : DistinctNames BackendConfig.v1 (objects BackendConfig.v1 none docs)
  betaBackendConfigs :
    DistinctNames BackendConfig.v1beta1 (objects BackendConfig.v1beta1 none docs)
  frontendConfigs :
    DistinctNames FrontendConfig.resource (objects FrontendConfig.resource none docs)

/-- The order of objects with names of their own does not count for the inventory. -/
theorem ofObjects_eq_of_perm (h : Distinct docs) (hperm : docs.Perm docs') (ns : Option String) :
    Inventory.ofObjects ns docs = Inventory.ofObjects ns docs' := by
  unfold Inventory.ofObjects Inventory.ofLists
  rw [Ingress.resource.index_eq_of_perm ((perm_objects hperm ns).filter _)
      (h.ingresses.sublist ((objects_sublist _ ns docs).filter _)),
    Service.resource.index_eq_of_perm (perm_objects hperm ns)
      (h.services.sublist (objects_sublist _ ns docs)),
    BackendConfig.v1.index_eq_of_perm (perm_objects hperm ns)
      (h.backendConfigs.sublist (objects_sublist _ ns docs)),
    BackendConfig.v1beta1.index_eq_of_perm (perm_objects hperm ns)
      (h.betaBackendConfigs.sublist (objects_sublist _ ns docs)),
    FrontendConfig.resource.index_eq_of_perm (perm_objects hperm ns)
      (h.frontendConfigs.sublist (objects_sublist _ ns docs))]

/-- **The arrangement of a manifest does not count**: documents, errors and notifications are the
same, all in the same order. -/
theorem run_eq_of_rearranged (hdocs : Rearranged docs docs') (hread : Readable (flatten docs))
    (hdistinct : Distinct (flatten docs)) (ns : Option String) :
    ∃ output, provider.run ns (.manifest (.ok (flatten docs))) = (.ok output, []) ∧
      provider.run ns (.manifest (.ok (flatten docs'))) = (.ok output, []) := by
  have hperm := hdocs.perm_flatten
  refine ⟨provider.output (Inventory.ofObjects ns (flatten docs)), run_manifest_eq hread ns, ?_⟩
  rw [run_manifest_eq (hread.of_perm hperm), ofObjects_eq_of_perm hdistinct hperm]

/-- The document of an Ingress with one rule, which sends the requests for a path to the Service of
its name. -/
def pathIngress (name host path : String) : Json :=
  .obj [("apiVersion", .str "networking.k8s.io/v1"), ("kind", .str "Ingress"),
    ("metadata", .obj [("name", .str name), ("namespace", .str "default")]),
    ("spec", .obj [("rules", .arr [.obj [
      ("host", .str host),
      ("http", .obj [("paths", .arr [.obj [
        ("backend", .obj [("service", .obj [
          ("name", .str name), ("port", .obj [("number", .int 80)])])]),
        ("path", .str path), ("pathType", .str "Prefix")]])])]])])]

/-- The document of a Service with annotations. -/
def annotatedService (name : String) (annotations : Json.Fields) : Json :=
  .obj [("apiVersion", .str "v1"), ("kind", .str "Service"),
    ("metadata", .obj [("annotations", .obj annotations), ("name", .str name),
      ("namespace", .str "default")])]

/-- The members of a list object. -/
def listMembers (items : List Json) : Json.Fields :=
  [("apiVersion", .str "v1"), ("items", .arr items), ("kind", .str "List")]

theorem listItems?_listMembers (items : List Json) :
    listItems? (listMembers items) = some items := by
  have hkind : isListKind "List" = true := by decide
  simp [listItems?, listMembers, Json.lookup, hkind]

/-- Two Ingresses for one host. -/
def hostIngresses : List Json :=
  [pathIngress "web" "foo.com" "/", pathIngress "api" "foo.com" "/api"]

/-- The Ingresses, and a Service with an annotation that cannot be read. -/
def hostDocuments : List Json :=
  hostIngresses ++ [annotatedService "web" [("cloud.google.com/backend-config", .str "web")]]

/-- The same objects, with a list object of the Ingresses in another order after the Service, and
all of it in a list object after an empty document. -/
def nestedList : List Json :=
  [.null, .obj (listMembers
    [annotatedService "web" [("cloud.google.com/backend-config", .str "web")],
      .obj (listMembers hostIngresses.reverse)])]

theorem rearranged_nestedList : Rearranged hostDocuments nestedList := by
  have hperm : Rearranged hostDocuments hostDocuments.reverse :=
    .perm (List.reverse_perm hostDocuments).symm
  have hinner := Rearranged.wrap
    [annotatedService "web" [("cloud.google.com/backend-config", .str "web")]] []
    (listItems?_listMembers hostIngresses.reverse)
  have houter := Rearranged.wrap [] [] (listItems?_listMembers
    [annotatedService "web" [("cloud.google.com/backend-config", .str "web")],
      .obj (listMembers hostIngresses.reverse)])
  exact hperm.trans (hinner.trans (houter.trans (.null [] _)))

theorem flatten_hostDocuments : flatten hostDocuments = hostDocuments := by
  rw [hostDocuments, hostIngresses, flatten_eq_flatMap]
  simp only [List.cons_append, List.nil_append, List.flatMap_cons, List.flatMap_nil, pathIngress,
    annotatedService]
  rw [flattenOne_obj_of_none (by decide +kernel), flattenOne_obj_of_none (by decide +kernel),
    flattenOne_obj_of_none (by decide +kernel)]
  rfl

/-- The route is named after the Ingress that comes first by its name, and the Service is
reported. -/
theorem run_eq_of_rearranged_nestedList :
    Rearranged hostDocuments nestedList ∧ Readable (flatten hostDocuments) ∧
      Distinct (flatten hostDocuments) ∧
      ∃ output, provider.run none (.manifest (.ok (flatten hostDocuments))) = (.ok output, []) ∧
        provider.run none (.manifest (.ok (flatten nestedList))) = (.ok output, []) ∧
        output.resources.httpRoutes.keys = [⟨"default", "api-foo-com"⟩] ∧
        output.resources.documents.length = 2 ∧ output.notifications.length = 1 := by
  have hread : Readable (flatten hostDocuments) := by
    rw [flatten_hostDocuments]
    constructor <;> decide +kernel
  have hdistinct : Distinct (flatten hostDocuments) := by
    rw [flatten_hostDocuments]
    constructor <;> decide +kernel
  obtain ⟨output, hrun, hrun'⟩ :=
    run_eq_of_rearranged rearranged_nestedList hread hdistinct none
  have houtput : ((provider.run none (.manifest (.ok hostDocuments))).1.toOption.map fun o =>
      (o.resources.httpRoutes.keys, o.resources.documents.length, o.notifications.length)) =
        some ([⟨"default", "api-foo-com"⟩], 2, 1) := by decide +kernel
  rw [← flatten_hostDocuments, hrun] at houtput
  simp only [Except.toOption, Option.map_some, Option.some.injEq, Prod.mk.injEq] at houtput
  exact ⟨rearranged_nestedList, hread, hdistinct, output, hrun, hrun', houtput⟩

end Gce

end GatewayMigration
