import GatewayMigration.Proofs.Gce.Arrangement

/-!
# Flattened manifests

A manifest is flattened to the documents that stand for themselves. They stand in it at places: the
number of a document, and for each list object around them the number of an item. Flattening gives
all of them in the order of their places, each as often as it stands somewhere. What is flattened
stays as it is, also as the items of a list object.

## Main definitions

* `Manifest.Lists`: a list object with its items
* `Manifest.Flat`: documents that stand for themselves
* `Manifest.StandsAt`: where documents stand for themselves in a manifest
* `Manifest.Enumerates`: all that stands somewhere, in the order of the places
* `Manifest.NormalForm`: a flattened manifest

## Main results

* `Manifest.enumerates_flatten`: flattening gives all that stands in a manifest
* `Manifest.flatten_eq_self`: documents that stand for themselves are flattened already
* `Manifest.normalForm`: every manifest has a normal form
-/

namespace GatewayMigration.Manifest

/-! ### List objects -/

/-- A list object with its items: its kind is a text that ends in the word for a list, and its items
are an array. -/
structure Lists (doc : Json) (items : List Json) : Prop where
  kind : ∃ front : String, doc.field? "kind" = some (.str (front ++ "List"))
  items : doc.field? "items" = some (.arr items)

/-- A flat document stands for itself: it is not empty, and it is no list object. -/
structure Flat (doc : Json) : Prop where
  ne_null : doc ≠ .null
  not_lists : ∀ items, ¬Lists doc items

theorem isListKind_iff {kind : String} :
    isListKind kind = true ↔ ∃ front : String, kind = front ++ "List" := by
  unfold isListKind
  rw [List.isSuffixOf_iff_suffix]
  constructor
  · rintro ⟨front, hfront⟩
    refine ⟨.ofList front, String.toList_injective ?_⟩
    rw [String.toList_append, String.toList_ofList, hfront]
  · rintro ⟨front, rfl⟩
    rw [String.toList_append]
    exact List.suffix_append _ _

theorem listItems?_eq_some_iff {members : Json.Fields} {items : List Json} :
    listItems? members = some items ↔ Lists (.obj members) items := by
  constructor
  · intro h
    unfold listItems? at h
    split at h
    · case _ kind its hkind hitems =>
      split at h
      · case isTrue hlist =>
        cases h
        obtain ⟨front, rfl⟩ := isListKind_iff.mp hlist
        exact ⟨⟨front, hkind⟩, hitems⟩
      · cases h
    · cases h
  · rintro ⟨⟨front, hkind⟩, hitems⟩
    have hkind' : Json.lookup "kind" members = _ := hkind
    have hitems' : Json.lookup "items" members = _ := hitems
    rw [listItems?, hkind', hitems']
    exact if_pos (isListKind_iff.mpr ⟨front, rfl⟩)

/-- Only an object is a list object. -/
theorem Lists.exists_eq_obj {doc : Json} {items : List Json} (h : Lists doc items) :
    ∃ members, doc = .obj members ∧ listItems? members = some items := by
  cases doc with
  | obj members => exact ⟨members, rfl, listItems?_eq_some_iff.mpr h⟩
  | _ => cases h.items

theorem Lists.items_unique {doc : Json} {items items' : List Json} (h : Lists doc items)
    (h' : Lists doc items') : items = items' := by
  have := h.items.symm.trans h'.items
  cases this
  rfl

theorem flattenOne_of_lists {doc : Json} {items : List Json} (h : Lists doc items) :
    flattenOne doc = flatten items := by
  obtain ⟨members, rfl, hitems⟩ := h.exists_eq_obj
  exact flattenOne_obj hitems

theorem flattenOne_of_flat {doc : Json} (h : Flat doc) : flattenOne doc = [doc] := by
  cases doc with
  | null => exact absurd rfl h.ne_null
  | obj members =>
    -- with items it would be a list object
    refine flattenOne_obj_of_none (Option.eq_none_iff_forall_not_mem.mpr fun items hitems => ?_)
    exact h.not_lists items (listItems?_eq_some_iff.mp hitems)
  | _ => rw [flattenOne] <;> simp

theorem flatten_singleton (doc : Json) : flatten [doc] = flattenOne doc := by
  rw [flatten, flatten, List.append_nil]

/-- **Documents that stand for themselves are flattened already.** -/
theorem flatten_eq_self {docs : List Json} (h : ∀ doc ∈ docs, Flat doc) :
    flatten docs = docs := by
  induction docs with
  | nil => rw [flatten]
  | cons doc docs ih =>
    rw [List.forall_mem_cons] at h
    rw [flatten, flattenOne_of_flat h.1, ih h.2, List.singleton_append]

/-! ### Places -/

mutual

/-- What stands for itself at a place in a document: the document, or what stands there among the
items of a list object. -/
inductive Within : Json → List Nat → Json → Prop
  | self {doc : Json} (hdoc : Flat doc) : Within doc [] doc
  | item {doc : Json} {items : List Json} {place : List Nat} {v : Json} (hdoc : Lists doc items)
      (h : StandsAt items place v) : Within doc place v

/-- What stands for itself at a place in a sequence of documents. The place begins with the number
of a document. -/
inductive StandsAt : List Json → List Nat → Json → Prop
  | document {docs : List Json} {i : Nat} {doc : Json} {place : List Nat} {v : Json}
      (hdoc : docs[i]? = some doc) (h : Within doc place v) : StandsAt docs (i :: place) v

end

mutual

theorem Within.flat {doc : Json} {place : List Nat} {v : Json} :
    Within doc place v → Flat v
  | .self hdoc => hdoc
  | .item _ h => h.flat

theorem StandsAt.flat {docs : List Json} {place : List Nat} {v : Json} :
    StandsAt docs place v → Flat v
  | .document _ h => h.flat

end

theorem not_within_null {place : List Nat} {v : Json} : ¬Within .null place v := by
  rintro (hdoc | ⟨hdoc, -⟩)
  · exact hdoc.ne_null rfl
  · cases hdoc.items

theorem within_iff_of_lists {doc : Json} {items : List Json} (hdoc : Lists doc items)
    {place : List Nat} {v : Json} : Within doc place v ↔ StandsAt items place v := by
  constructor
  · rintro (hself | ⟨hdoc', h⟩)
    · exact absurd hdoc (hself.not_lists items)
    · rwa [hdoc.items_unique hdoc']
  · exact .item hdoc

theorem within_iff_of_flat {doc : Json} (hdoc : Flat doc) {place : List Nat}
    {v : Json} : Within doc place v ↔ place = [] ∧ v = doc := by
  constructor
  · rintro (_ | ⟨hlists, -⟩)
    · exact ⟨rfl, rfl⟩
    · exact absurd hlists (hdoc.not_lists _)
  · rintro ⟨rfl, rfl⟩
    exact .self hdoc

/-- The same place after one more document. -/
def next : List Nat → List Nat
  | [] => []
  | i :: place => (i + 1) :: place

theorem next_lt_next {place place' : List Nat} (h : place < place') : next place < next place' := by
  cases place with
  | nil =>
    cases place' with
    | nil => exact h
    | cons i' rest' => exact List.nil_lt_cons _ _
  | cons i rest =>
    cases place' with
    | nil => cases h
    | cons i' rest' =>
      rw [List.cons_lt_cons_iff] at h
      rw [next, next, List.cons_lt_cons_iff]
      exact h.imp Nat.succ_lt_succ (And.imp_left (congrArg _))

/-- The places in one more document come before all others. -/
theorem StandsAt.zero_cons_lt_next {docs : List Json} {place' : List Nat} {v : Json}
    (h : StandsAt docs place' v) (place : List Nat) : 0 :: place < next place' := by
  obtain ⟨-, -⟩ := h
  exact List.cons_lt_cons_iff.mpr (.inl (Nat.succ_pos _))

theorem standsAt_cons_iff {doc : Json} {docs : List Json} {place : List Nat} {v : Json} :
    StandsAt (doc :: docs) place v ↔
      (∃ rest, 0 :: rest = place ∧ Within doc rest v) ∨
        ∃ rest, next rest = place ∧ StandsAt docs rest v := by
  constructor
  · rintro (@⟨_, i, _, rest, _, hdoc, h⟩)
    -- the number of the document tells the first one from the others
    cases i with
    | zero =>
      cases hdoc
      exact .inl ⟨rest, rfl, h⟩
    | succ i => exact .inr ⟨i :: rest, rfl, .document hdoc h⟩
  · rintro (⟨rest, rfl, h⟩ | ⟨_, rfl, h⟩)
    · exact .document rfl h
    · obtain ⟨hdoc, h⟩ := h
      exact .document hdoc h

/-! ### Flattening -/

/-- The values are all that stand at places, in the order of their places. -/
def Enumerates (stands : List Nat → Json → Prop) (values : List Json) : Prop :=
  ∃ placed : List (List Nat × Json), placed.map (·.2) = values ∧
    placed.Pairwise (fun p p' => p.1 < p'.1) ∧ ∀ place v, (place, v) ∈ placed ↔ stands place v

namespace Enumerates

variable {stands stands' : List Nat → Json → Prop} {values : List Json}

theorem congr (h : Enumerates stands values)
    (hstands : ∀ place v, stands place v ↔ stands' place v) : Enumerates stands' values := by
  obtain ⟨placed, hvalues, hlt, hplaced⟩ := h
  exact ⟨placed, hvalues, hlt, fun place v => (hplaced place v).trans (hstands place v)⟩

theorem nil (h : ∀ place v, ¬stands place v) : Enumerates stands [] :=
  ⟨[], rfl, .nil, fun place v => iff_of_false List.not_mem_nil (h place v)⟩

theorem exists_stands (h : Enumerates stands values) {v : Json} (hv : v ∈ values) :
    ∃ place, stands place v := by
  obtain ⟨placed, rfl, -, hplaced⟩ := h
  obtain ⟨⟨place, v⟩, hmem, rfl⟩ := List.mem_map.mp hv
  exact ⟨place, (hplaced place v).mp hmem⟩

/-- A document that stands for itself. -/
theorem single {doc : Json} (hdoc : Flat doc) : Enumerates (Within doc) [doc] := by
  refine ⟨[([], doc)], rfl, List.pairwise_singleton _ _, fun place v => ?_⟩
  rw [List.mem_singleton, Prod.mk.injEq, within_iff_of_flat hdoc]

/-- One more document in front. -/
theorem cons {doc : Json} {docs own rest : List Json} (hown : Enumerates (Within doc) own)
    (hrest : Enumerates (StandsAt docs) rest) :
    Enumerates (StandsAt (doc :: docs)) (own ++ rest) := by
  obtain ⟨front, rfl, hfrontlt, hfront⟩ := hown
  obtain ⟨back, rfl, hbacklt, hback⟩ := hrest
  refine ⟨front.map (fun p => (0 :: p.1, p.2)) ++ back.map (fun p => (next p.1, p.2)), ?_, ?_, ?_⟩
  · simp [Function.comp_def]
  · -- both parts keep their order, and all of the first part comes before the second one
    refine List.pairwise_append.mpr ⟨?_, ?_, ?_⟩
    · exact hfrontlt.map _ fun _ _ h => List.cons_lt_cons_iff.mpr (.inr ⟨rfl, h⟩)
    · exact hbacklt.map _ fun _ _ => next_lt_next
    · intro p hp p' hp'
      obtain ⟨⟨place, v⟩, -, rfl⟩ := List.mem_map.mp hp
      obtain ⟨⟨place', v'⟩, hmem, rfl⟩ := List.mem_map.mp hp'
      exact ((hback place' v').mp hmem).zero_cons_lt_next place
  · intro place v
    rw [List.mem_append, List.mem_map, List.mem_map, standsAt_cons_iff]
    simp only [Prod.exists, Prod.mk.injEq, exists_eq_right_right, hfront, hback]
    simp only [and_comm]

end Enumerates

/-- **Flattening gives all that stands in a manifest**, in the order of the places. -/
theorem enumerates_flatten (docs : List Json) : Enumerates (StandsAt docs) (flatten docs) := by
  -- along the recursion that flattens: each document, then each sequence of documents
  refine (flattenOne.mutual_induct (fun doc => Enumerates (Within doc) (flattenOne doc))
    (fun docs => Enumerates (StandsAt docs) (flatten docs)) ?null ?list ?single ?value ?nil
    ?cons).2 docs
  case null =>
    rw [flattenOne_null]
    exact .nil fun _ _ => not_within_null
  case list =>
    intro members items h ih
    have hlists := listItems?_eq_some_iff.mp h
    rw [flattenOne_of_lists hlists]
    exact ih.congr fun _ _ => (within_iff_of_lists hlists).symm
  case single =>
    intro members h
    rw [flattenOne_obj_of_none h]
    refine .single ⟨Json.noConfusion, fun items hitems => ?_⟩
    rw [listItems?_eq_some_iff.mpr hitems] at h
    cases h
  case value =>
    intro v hnull hobj
    have hv : Flat v := by
      refine ⟨hnull, fun items hitems => ?_⟩
      obtain ⟨members, rfl, -⟩ := hitems.exists_eq_obj
      exact hobj members rfl
    rw [flattenOne_of_flat hv]
    exact .single hv
  case nil =>
    rw [flatten]
    refine .nil ?_
    rintro _ _ ⟨hdoc, -⟩
    cases hdoc
  case cons =>
    intro doc docs hdoc hdocs
    rw [flatten]
    exact hdoc.cons hdocs

theorem flat_of_mem_flatten {docs : List Json} {v : Json} (hv : v ∈ flatten docs) :
    Flat v := by
  obtain ⟨_, h⟩ := (enumerates_flatten docs).exists_stands hv
  exact h.flat

/-! ### The normal form -/

/-- The documents that a manifest is flattened to. -/
structure NormalForm (docs : List Json) : Prop where
  /-- None of them is empty or a list object. -/
  flat : ∀ v ∈ flatten docs, Flat v
  /-- They are those of each document, one after the other. -/
  concatenated : flatten docs = docs.flatMap fun doc => flatten [doc]
  /-- They are all that stands in the manifest, each as often as it stands somewhere. -/
  occurrences : Enumerates (StandsAt docs) (flatten docs)
  /-- They stay as they are when they are flattened again. -/
  settled : flatten (flatten docs) = flatten docs
  /-- So do they as the items of any list object. -/
  wrapped : ∀ doc, Lists doc (flatten docs) → flatten [doc] = flatten docs

theorem flatten_of_lists {doc : Json} {docs : List Json} (h : ∀ v ∈ docs, Flat v)
    (hdoc : Lists doc docs) : flatten [doc] = docs := by
  rw [flatten_singleton, flattenOne_of_lists hdoc, flatten_eq_self h]

/-- **Every manifest has a normal form.** -/
theorem normalForm (docs : List Json) : NormalForm docs where
  flat _ := flat_of_mem_flatten
  concatenated := by
    simp only [flatten_singleton]
    exact flatten_eq_flatMap docs
  occurrences := enumerates_flatten docs
  settled := flatten_eq_self fun _ => flat_of_mem_flatten
  wrapped _ := flatten_of_lists fun _ => flat_of_mem_flatten

end GatewayMigration.Manifest
