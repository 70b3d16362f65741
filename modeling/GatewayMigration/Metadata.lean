import GatewayMigration.Object
import GatewayMigration.Shape

/-!
# Object metadata

## Main definitions

* `Metadata`: what every object says about itself
* `Metadata.objectName`: the identity of the object
* `ResourceType`: a type of objects that are read, with its name in manifests and in the cluster
* `CustomObject`: an object of a custom resource
-/

namespace GatewayMigration

/-- What an object says about itself. -/
structure Metadata where
  name : Option String
  /-- The namespace. -/
  ns : Option String
  annotations : Option (OrderedMap String String)
  /-- The other members, in their normal form. -/
  others : Json.Fields
  deriving DecidableEq, Inhabited

namespace Metadata

/-- The declared members other than the name, the namespace and the annotations. -/
def othersShape : Shape :=
  .options [
    ("creationTimestamp", .instant),
    ("deletionGracePeriodSeconds", .int64),
    ("deletionTimestamp", .instant),
    ("finalizers", .listOf .text),
    ("generateName", .text),
    ("generation", .int64),
    ("labels", .mapOf .text),
    ("managedFields", .listOf (.options [
      ("apiVersion", .text),
      ("fieldsType", .text),
      ("fieldsV1", .anything),
      ("manager", .text),
      ("operation", .text),
      ("subresource", .text),
      ("time", .instant)])),
    ("ownerReferences", .listOf (.record [
      ("apiVersion", true, .text),
      ("blockOwnerDeletion", false, .flag),
      ("controller", false, .flag),
      ("kind", true, .text),
      ("name", true, .text),
      ("uid", true, .text)])),
    ("resourceVersion", .text),
    ("selfLink", .text),
    ("uid", .text)]

/-- The metadata of an object that says nothing about itself. -/
def empty : Metadata := ⟨none, none, none, []⟩

/-- The metadata of an object that only has an identity; an empty namespace is left out. -/
def ofName (n : ObjectName) : Metadata :=
  ⟨some n.name, if n.ns.isEmpty then none else some n.ns, none, []⟩

def ofJson? (j : Json) : Option Metadata := do
  let m ← j.fields?
  return {
    name := ← m.optional Json.string? "name"
    ns := ← m.optional Json.string? "namespace"
    annotations := ← m.optional (Json.mapOf? Json.string?) "annotations"
    others := ← (othersShape.read? j).bind Json.fields? }

def toJson (m : Metadata) : Json :=
  .object (m.others.map (fun e => (e.1, some e.2)) ++ [
    ("annotations", m.annotations.map .ofStringMap),
    ("name", m.name.map .str),
    ("namespace", m.ns.map .str)])

/-- The identity of the object; what is missing counts as empty. -/
def objectName (m : Metadata) : ObjectName := ⟨m.ns.getD "", m.name.getD ""⟩

/-- The value of an annotation. -/
def annotation? (m : Metadata) (key : String) : Option String := m.annotations.bind (·.find? key)

end Metadata

/-- A type of objects that are read. -/
structure ResourceType (α : Type) where
  /-- The path of its API group and version on the server. -/
  group : String
  /-- Its name in a path on the server. -/
  plural : String
  apiVersion : String
  kind : String
  /-- The type is an extension of the cluster and may be absent from it. -/
  isCustom : Bool
  metadata : α → Metadata
  ofJson? : Json → Option α

/-- The reference to an object. -/
def ResourceType.ref {α : Type} (t : ResourceType α) (x : α) : ObjectRef :=
  ⟨t.kind, (t.metadata x).objectName⟩

/-- The objects by their names; of two with one name, the last one counts. -/
def ResourceType.index {α : Type} (t : ResourceType α) (l : List α) : OrderedMap ObjectName α :=
  .ofList (l.map fun x => ((t.metadata x).objectName, x))

/-- An object of a custom resource, with what it says about its type. -/
structure CustomObject (σ : Type) where
  apiVersion : String
  kind : String
  metadata : Metadata
  spec : σ
  deriving DecidableEq, Inhabited

namespace CustomObject

variable {σ : Type}

def ofJson? (spec : Json → Option σ) (j : Json) : Option (CustomObject σ) := do
  let m ← j.fields?
  return {
    apiVersion := ← m.required Json.string? "apiVersion"
    kind := ← m.required Json.string? "kind"
    metadata := ← m.required Metadata.ofJson? "metadata"
    spec := ← m.required spec "spec" }

def toJson (spec : σ → Json) (o : CustomObject σ) : Json :=
  .object [
    ("apiVersion", some (.str o.apiVersion)),
    ("kind", some (.str o.kind)),
    ("metadata", some o.metadata.toJson),
    ("spec", some (spec o.spec))]

end CustomObject

end GatewayMigration
