import GatewayMigration.Proofs.Gce.Sources

/-!
# Documents that cannot be read

A document that names a type, in the namespace that is asked for, has to have the shape of that
type. If some do not, one of them is the failure of the reading: kinds are taken in their order, and
the documents of a kind in theirs. Any other document may be what it likes.

## Main definitions

* `Manifest.Names`: a document names a type, in a namespace if one is asked for
* `Manifest.Misshapen`: a document names a type and does not have its shape
* `Gce.FirstMisshapen`: the document that a reading fails at
* `Gce.DecodingFailures`: when the documents of a manifest cannot be read, and why

## Main results

* `Manifest.decode_error_of_first`: a type is not read for its first misshapen document
* `Gce.ofDocuments_of_firstMisshapen`: nothing is read for the first one of the first such kind
* `Gce.decodingFailures_ofDocuments`: every manifest fails like this
-/

namespace GatewayMigration

open Json

namespace Manifest

variable {α : Type} {t : ResourceType α} {ns : Option String} {doc : Json}

/-- The document names the type, and the namespace if one is asked for. -/
structure Names (t : ResourceType α) (ns : Option String) (doc : Json) : Prop where
  apiVersion : doc.field? "apiVersion" = some (.str t.apiVersion)
  kind : doc.field? "kind" = some (.str t.kind)
  ns : ∀ name, ns = some name → metadataField? doc "namespace" = some (.str name)

/-- The document names the type and does not have its shape. -/
structure Misshapen (t : ResourceType α) (ns : Option String) (doc : Json) : Prop where
  names : Names t ns doc
  shape : t.ofJson? doc = none

/-- The name that a document gives itself; one that is missing counts as empty, and so does one that
is no text. -/
def nameOf (doc : Json) : String := ((metadataField? doc "name").bind string?).getD ""

theorem bind_string?_eq_some_iff {value : Option Json} {text : String} :
    value.bind string? = some text ↔ value = some (.str text) := by
  constructor
  · intro h
    obtain ⟨v, rfl, hv⟩ := Option.bind_eq_some_iff.mp h
    cases v <;> cases hv
    rfl
  · rintro rfl
    rfl

/-- A document is selected for the type that it names. -/
theorem names_iff : Names t ns doc ↔ isOfType t doc = true ∧ isIn ns doc = true := by
  have htype : isOfType t doc = true ↔ doc.field? "apiVersion" = some (.str t.apiVersion) ∧
      doc.field? "kind" = some (.str t.kind) := by
    rw [isOfType, Bool.and_eq_true, beq_iff_eq, beq_iff_eq, bind_string?_eq_some_iff,
      bind_string?_eq_some_iff]
  have hin : isIn ns doc = true ↔
      ∀ name, ns = some name → metadataField? doc "namespace" = some (.str name) := by
    cases ns with
    | none => simp [isIn]
    | some ns => simp [isIn, bind_string?_eq_some_iff]
  rw [htype, hin]
  constructor
  · rintro ⟨hversion, hkind, hns⟩
    exact ⟨⟨hversion, hkind⟩, hns⟩
  · rintro ⟨⟨hversion, hkind⟩, hns⟩
    exact ⟨hversion, hkind, hns⟩

theorem mem_selected_iff {docs : List Json} :
    doc ∈ selected t ns docs ↔ doc ∈ docs ∧ Names t ns doc := by
  rw [mem_selected, names_iff]

theorem isSome_of_not_misshapen {docs : List Json} (h : ∀ doc ∈ docs, ¬Misshapen t ns doc) :
    ∀ doc ∈ selected t ns docs, (t.ofJson? doc).isSome := by
  intro doc hdoc
  obtain ⟨hmem, hnames⟩ := mem_selected_iff.mp hdoc
  rw [Option.isSome_iff_ne_none]
  intro hshape
  exact h doc hmem ⟨hnames, hshape⟩

theorem selected_append (docs docs' : List Json) :
    selected t ns (docs ++ docs') = selected t ns docs ++ selected t ns docs' := by
  simp only [selected, List.filter_append]

theorem selected_cons_of_names (h : Names t ns doc) (docs : List Json) :
    selected t ns (doc :: docs) = doc :: selected t ns docs := by
  obtain ⟨htype, hin⟩ := names_iff.mp h
  rw [selected, List.filter_cons_of_pos htype, List.filter_cons_of_pos hin]
  rfl

theorem selected_cons_of_not_names (h : ¬Names t ns doc) (docs : List Json) :
    selected t ns (doc :: docs) = selected t ns docs := by
  unfold selected
  by_cases htype : isOfType t doc = true
  · have hin : ¬isIn ns doc = true := fun hin => h (names_iff.mpr ⟨htype, hin⟩)
    rw [List.filter_cons_of_pos htype, List.filter_cons_of_neg hin]
  · rw [List.filter_cons_of_neg htype]

/-- **A type is not read for its first misshapen document**, which the failure names. -/
theorem decode_error_of_first {before after : List Json}
    (hbefore : ∀ doc' ∈ before, ¬Misshapen t ns doc') (hdoc : Misshapen t ns doc) :
    decode t ns (before ++ doc :: after) = .error (.undecodable t.kind (nameOf doc)) := by
  rw [decode_eq_mapM, selected_append, selected_cons_of_names hdoc.names]
  apply mapM_error_of_first
  · intro doc' hdoc'
    obtain ⟨x, hx⟩ := Option.isSome_iff_exists.mp (isSome_of_not_misshapen hbefore doc' hdoc')
    exact ⟨x, by rw [decodeOne, hx]⟩
  · rw [decodeOne, hdoc.shape]
    rfl

end Manifest

namespace Gce

open Manifest

variable {ns : Option String} {docs : List Json}

/-- The document that a reading fails at. Kinds are taken in their order, and no document is
misshapen for a kind before this one; nor is a document before this one for this kind. -/
structure FirstMisshapen (ns : Option String) (docs : List Json) (k : Kind) (doc : Json) :
    Prop where
  misshapen : Misshapen k.resource ns doc
  kinds : ∃ before after, Kind.all = before ++ k :: after ∧
    ∀ k' ∈ before, ∀ doc' ∈ docs, ¬Misshapen k'.resource ns doc'
  documents : ∃ before after, docs = before ++ doc :: after ∧
    ∀ doc' ∈ before, ¬Misshapen k.resource ns doc'

/-- Either no document is misshapen, or there is a first one. -/
theorem not_misshapen_or_first (ns : Option String) (docs : List Json) :
    (∀ k : Kind, ∀ doc ∈ docs, ¬Misshapen k.resource ns doc) ∨
      ∃ k doc, FirstMisshapen ns docs k doc := by
  rcases forall_or_exists_first
      (fun k : Kind => ∀ doc ∈ docs, ¬Misshapen k.resource ns doc) Kind.all with
    hall | ⟨kinds, k, kinds', hall, hkinds, hk⟩
  · left
    intro k
    exact hall k k.mem_all
  · -- of the first kind with such a document, the first document
    rcases forall_or_exists_first (fun doc => ¬Misshapen k.resource ns doc) docs with
      hdocs | ⟨before, doc, after, hdocs, hbefore, hdoc⟩
    · exact absurd hdocs hk
    · exact .inr ⟨k, doc, not_not.mp hdoc, ⟨kinds, kinds', hall, hkinds⟩,
        ⟨before, after, hdocs, hbefore⟩⟩

/-- **The first misshapen document** of the first kind that has one is the failure. -/
theorem ofDocuments_of_firstMisshapen {k : Kind} {doc : Json}
    (h : FirstMisshapen ns docs k doc) :
    Inventory.ofDocuments ns docs =
      .error (.undecodable k.resource.kind (nameOf doc)) := by
  obtain ⟨kinds, kinds', hall, hkinds⟩ := h.kinds
  obtain ⟨before, after, rfl, hbefore⟩ := h.documents
  rw [Inventory.ofDocuments_eq_gather]
  refine Inventory.gather_error_of_first hall ?_ (decode_error_of_first hbefore h.misshapen)
  intro k' hk'
  exact ⟨_, decode_eq_of_selected (isSome_of_not_misshapen (hkinds k' hk'))⟩

/-- When the documents of a manifest cannot be read, and why. -/
structure DecodingFailures (ns : Option String) (docs : List Json) : Prop where
  /-- A manifest fails just when a document names one of the kinds that are read, in the namespace
  that is asked for, and does not have its shape. -/
  fails : (∃ e, Inventory.ofDocuments ns docs = .error e) ↔
    ∃ k : Kind, ∃ doc ∈ docs, Misshapen k.resource ns doc
  /-- The failure tells the kind and the name of the first such document of the first such kind. -/
  first : ∀ e, Inventory.ofDocuments ns docs = .error e ↔
    ∃ k doc, FirstMisshapen ns docs k doc ∧ e = .undecodable k.resource.kind (nameOf doc)
  /-- A document that names no kind, or is in another namespace, does not count, whatever it is. -/
  others : ∀ before doc after, docs = before ++ doc :: after →
    (∀ k : Kind, ¬Names k.resource ns doc) →
      Inventory.ofDocuments ns docs = Inventory.ofDocuments ns (before ++ after)

/-- **Why a manifest cannot be read**, whatever its documents and whether or not a namespace is
given. -/
theorem decodingFailures_ofDocuments (ns : Option String) (docs : List Json) :
    DecodingFailures ns docs where
  fails := by
    constructor
    · rintro ⟨e, he⟩
      obtain ⟨k, doc, hdoc, hshape⟩ := Inventory.exists_error_ofDocuments_iff.mp ⟨e, he⟩
      obtain ⟨hmem, hnames⟩ := mem_selected_iff.mp hdoc
      exact ⟨k, doc, hmem, hnames, hshape⟩
    · rintro ⟨k, doc, hmem, hdoc⟩
      exact Inventory.exists_error_ofDocuments_iff.mpr
        ⟨k, doc, mem_selected_iff.mpr ⟨hmem, hdoc.names⟩, hdoc.shape⟩
  first e := by
    constructor
    · intro he
      rcases not_misshapen_or_first ns docs with hnone | ⟨k, doc, hfirst⟩
      · obtain ⟨k, doc, hdoc, hshape⟩ := Inventory.exists_error_ofDocuments_iff.mp ⟨e, he⟩
        obtain ⟨hmem, hnames⟩ := mem_selected_iff.mp hdoc
        exact absurd ⟨hnames, hshape⟩ (hnone k doc hmem)
      · rw [ofDocuments_of_firstMisshapen hfirst] at he
        exact ⟨k, doc, hfirst, (Except.error.inj he).symm⟩
    · rintro ⟨k, doc, hfirst, rfl⟩
      exact ofDocuments_of_firstMisshapen hfirst
  others before doc after hdocs hdoc := by
    have hselected : ∀ k : Kind, selected k.resource ns docs =
        selected k.resource ns (before ++ after) := by
      intro k
      rw [hdocs, selected_append, selected_cons_of_not_names (hdoc k), ← selected_append]
    rw [Inventory.ofDocuments_eq_gather, Inventory.ofDocuments_eq_gather]
    simp only [decode_eq_mapM, hselected]

/-- A Service and an Ingress that are misshapen: the Ingress is told, though it stands behind. What
is between them is no document of any kind. -/
example : Inventory.ofDocuments none [
    .obj [("apiVersion", .str "v1"), ("kind", .str "Service"),
      ("metadata", .obj [("name", .str "api")]), ("spec", .int 80)],
    .int 80,
    .obj [("apiVersion", .str "networking.k8s.io/v1"), ("kind", .str "Ingress"),
      ("metadata", .obj [("name", .str "web")]), ("spec", .int 80)]] =
    .error (.undecodable "Ingress" "web") := by
  decide +kernel

end Gce

end GatewayMigration
