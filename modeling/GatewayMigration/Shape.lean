import GatewayMigration.Json
import GatewayMigration.Timestamp

/-!
# Shapes of values

Much of an object is not converted but must still have its declared shape. A shape says what a
value must look like and gives it a normal form: members that are not declared go, null members
go, and required members that are missing get their default.

## Main definitions

* `Shape`: a declared shape
* `Shape.read?`: the normal form of a value, `none` if it does not have the shape
-/

namespace GatewayMigration

/-- The declared shape of a value. -/
inductive Shape where
  | anything
  | text
  | flag
  | int32
  | int64
  | int32OrText
  | instant
  | listOf (item : Shape)
  | mapOf (value : Shape)
  /-- An object: each member with its shape, and whether it is written even when it is missing. -/
  | record (members : List (String × Bool × Shape))

namespace Shape

/-- The value of a required member that is missing. -/
def default : Shape → Json
  | .anything => .null
  | .text | .instant => .str ""
  | .flag => .bool false
  | .int32 | .int64 | .int32OrText => .int 0
  | .listOf _ => .arr []
  | .mapOf _ | .record _ => .obj []

mutual

/-- The normal form of a value of the shape. -/
def read? : Shape → Json → Option Json
  | .anything, j => some j
  | .text, j => j.string?.map .str
  | .flag, j => j.bool?.map .bool
  | .int32, j => j.int32?.map fun n => .int n.toInt
  | .int64, j => j.int64?.map fun n => .int n.toInt
  | .int32OrText, j => (j.string?.map .str).or (j.int32?.map fun n => .int n.toInt)
  | .instant, j => (j.string?.bind Timestamp.ofText?).map fun t => .str t.text
  | .listOf item, j => (j.listOf? fun v => read? item v).map .arr
  | .mapOf value, j => (j.mapOf? fun v => read? value v).map fun m => .obj m.entries
  | .record members, j => j.fields?.bind fun given => (readMembers? members given).map .ofMembers

/-- The normal forms of the declared members. -/
def readMembers? : List (String × Bool × Shape) → Json.Fields → Option Json.Fields
  | [], _ => some []
  | (k, required, shape) :: rest, given =>
    let v : Option (Option Json) :=
      match Json.lookup k given with
      | none | some .null =>
        if required then (read? shape shape.default).or (some shape.default) |>.map some
        else some none
      | some v => (read? shape v).map some
    match v, readMembers? rest given with
    | some (some v), some rest => some ((k, v) :: rest)
    | some none, some rest => some rest
    | _, _ => none

end

/-- An object whose members may all be missing. -/
def options (members : List (String × Shape)) : Shape :=
  .record (members.map fun m => (m.1, false, m.2))

end Shape

end GatewayMigration
