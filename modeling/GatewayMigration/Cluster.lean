import GatewayMigration.Failure
import GatewayMigration.Metadata

/-!
# Listing objects of a cluster

A cluster is its API server: what it answers to a request for a path. Listing objects of several
types is a session with the server, which keeps the requests made and ends at the first failure.

## Main definitions

* `ApiServer`, `Answer`: a server and its answers
* `Session`: a session with a server
* `Session.list`: list the objects of a type
* `Session.run`: the outcome of a session, with the requests made
-/

namespace GatewayMigration

open Json

/-- What a server answers to a request. -/
inductive Answer where
  /-- No answer comes. -/
  | lost
  /-- A status with a body, which may not be JSON. -/
  | response (status : Nat) (body : Option Json)

/-- A server: its answer to a request for a path. -/
abbrev ApiServer := String → Answer

namespace Answer

/-- The code of an error that the body describes: an object with the texts of an error. -/
def bodyCode? (body : Json) : Option Nat := do
  let m ← body.record? ["status", "message", "reason", "code"]
  let _ ← m.required string? "status"
  let _ ← m.defaulted "" string? "message"
  let _ ← m.defaulted "" string? "reason"
  return (← m.required uint16? "code").toNat

/-- What is said about a list, apart from its items. -/
def listMetadataShape : Shape :=
  .options [
    ("continue", .text), ("remainingItemCount", .int64), ("resourceVersion", .text),
    ("selfLink", .text)]

/-- The items of a list, each read by `item`; null stands for no items. -/
def items? {α : Type} (item : Json → Option α) (body : Json) : Option (List α) := do
  let m ← body.fields?
  let _ ← m.defaulted .null listMetadataShape.read? "metadata"
  match ← lookup "items" m with
  | .null => return []
  | items => items.listOf? item

/-- The items of a list of objects of a type. The code of a failure is the one that the server
describes, or else its status. -/
def list {α : Type} (t : ResourceType α) : Answer → Except Failure (List α)
  | .lost => .error (.unlistable t.kind none)
  | .response status body =>
    if 400 ≤ status ∧ status ≤ 599 then
      .error (.unlistable t.kind (some ((body.bind bodyCode?).getD status)))
    else
      match body.bind (items? t.ofJson?) with
      | some l => .ok l
      | none => .error (.unlistable t.kind none)

/-- The server does not know the type at all. -/
def isUnknownType : Failure → Bool
  | .unlistable _ code => code == some 404
  | _ => false

end Answer

/-- The path of the list of all objects of a type, or of those in a namespace. -/
def ResourceType.listPath {α : Type} (t : ResourceType α) (ns : Option String) : String :=
  match ns with
  | none => t.group ++ "/" ++ t.plural
  | some ns => t.group ++ "/namespaces/" ++ ns ++ "/" ++ t.plural

/-- A session with a server: it keeps the requests made, and ends at the first failure. -/
abbrev Session := ReaderT ApiServer (ExceptT Failure (StateM (List String)))

namespace Session

/-- Make a request. -/
def get (path : String) : Session Answer := do
  modify (· ++ ["GET " ++ path])
  return (← read) path

/-- List the objects of a type. An extension of the cluster that is not installed has none. -/
def list {α : Type} (t : ResourceType α) (ns : Option String) : Session (List α) := do
  match (← get (t.listPath ns)).list t with
  | .ok l => return l
  | .error e => if t.isCustom && Answer.isUnknownType e then return [] else throw e

/-- The outcome of a session, and the requests made. -/
def run {α : Type} (s : Session α) (server : ApiServer) : Except Failure α × List String :=
  (ReaderT.run s server).run.run []

end Session

end GatewayMigration
