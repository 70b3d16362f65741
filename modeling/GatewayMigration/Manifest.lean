import GatewayMigration.Failure
import GatewayMigration.Metadata

/-!
# Manifests

A manifest is a sequence of documents. A list object stands for its items, to any depth, and an
empty document for nothing.

## Main definitions

* `Manifest.flatten`: the objects of a sequence of documents
* `Manifest.decode`: the objects of one type, in one namespace or all of them
-/

namespace GatewayMigration.Manifest

open Json

/-- The text ends in the word for a list. -/
def isListKind (kind : String) : Bool := "List".toList.isSuffixOf kind.toList

/-- The items of a list object: an object with a kind that ends in the word for a list, and an
array of items. -/
def listItems? (members : Fields) : Option (List Json) :=
  match lookup "kind" members, lookup "items" members with
  | some (.str kind), some (.arr items) => if isListKind kind then some items else none
  | _, _ => none

theorem sizeOf_lookup_le {k : String} {members : Fields} {v : Json}
    (h : lookup k members = some v) : sizeOf v ≤ sizeOf members := by
  induction members with
  | nil => simp [lookup] at h
  | cons m rest ih =>
    obtain ⟨k', v'⟩ := m
    simp only [lookup] at h
    split at h
    · simp_all
      omega
    · have := ih h
      simp
      omega

theorem sizeOf_listItems?_lt {members : Fields} {items : List Json}
    (h : listItems? members = some items) : sizeOf items < sizeOf members + 1 := by
  unfold listItems? at h
  split at h
  · case _ kind its _ hi =>
    have := sizeOf_lookup_le hi
    split at h
    · cases h
      simp at this
      omega
    · cases h
  · cases h

mutual

/-- The objects of a document. -/
def flattenOne : Json → List Json
  | .null => []
  | .obj members =>
    match _h : listItems? members with
    | some items => flatten items
    | none => [.obj members]
  | v => [v]
termination_by j => sizeOf j
decreasing_by
  have := sizeOf_listItems?_lt _h
  simp
  omega

/-- The objects of a sequence of documents, in order. -/
def flatten : List Json → List Json
  | [] => []
  | v :: rest => flattenOne v ++ flatten rest
termination_by l => sizeOf l

end

/-- A member of a member of a document. -/
def metadataField? (doc : Json) (k : String) : Option Json :=
  (doc.field? "metadata").bind (·.field? k)

/-- The document is of the type, by its own words. -/
def isOfType {α : Type} (t : ResourceType α) (doc : Json) : Bool :=
  (doc.field? "apiVersion").bind string? == some t.apiVersion
    && (doc.field? "kind").bind string? == some t.kind

/-- The document is in the namespace, or no namespace is asked for. -/
def isIn (ns : Option String) (doc : Json) : Bool :=
  match ns with
  | none => true
  | some ns => (metadataField? doc "namespace").bind string? == some ns

/-- Read a document as an object of a type. -/
def decodeOne {α : Type} (t : ResourceType α) (doc : Json) : Except Failure α :=
  match t.ofJson? doc with
  | some x => .ok x
  | none =>
    .error (.undecodable t.kind (((metadataField? doc "name").bind string?).getD ""))

/-- The objects of a type, in a namespace if one is asked for. A document that is one of them but
does not have its shape is a failure. -/
def decode {α : Type} (t : ResourceType α) (ns : Option String) (docs : List Json) :
    Except Failure (List α) :=
  (docs.filter fun doc => isOfType t doc && isIn ns doc).mapM (decodeOne t)

end GatewayMigration.Manifest
