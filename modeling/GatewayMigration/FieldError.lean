import GatewayMigration.Object

/-!
# Field errors

An object that cannot be converted as a whole is reported field by field: a cause, a message, the
object, and the path from the root of the object to the field.

## Main definitions

* `FieldPath`: a path of fields and indices, root first
* `FieldError`: a cause at a path of an object
* `FieldError.inField`, `FieldError.atIndex`: the same error, seen from one level further out
* `FieldError.text`: the line that a user reads
-/

namespace GatewayMigration

/-- One step of a field path. -/
inductive PathEntry where
  | field (name : String)
  | index (i : Nat)
  deriving DecidableEq, Inhabited, Repr

/-- The steps from the root of an object to a field. -/
abbrev FieldPath := List PathEntry

namespace FieldPath

/-- A field follows a point unless it stands first; an index stands in brackets. -/
def entryText (first : Bool) : PathEntry → String
  | .field name => if first then name else "." ++ name
  | .index i => "[" ++ toString i ++ "]"

/-- A path such as `spec.rules[0].host`. -/
def text : FieldPath → String
  | [] => ""
  | e :: rest => entryText true e ++ String.join (rest.map (entryText false))

end FieldPath

/-- Why a field cannot be converted. -/
inductive FieldErrorKind where
  /-- The value cannot be converted. -/
  | invalid
  /-- The value is valid but has no counterpart. -/
  | notSupported
  /-- The field is missing. -/
  | required
  /-- The field refers to an object that does not exist. -/
  | notFound
  deriving DecidableEq, Inhabited, Repr

/-- The words for a cause. -/
def FieldErrorKind.text : FieldErrorKind → String
  | .invalid => "invalid value"
  | .notSupported => "unsupported value"
  | .required => "required value"
  | .notFound => "not found"

/-- A field that cannot be converted. -/
structure FieldError where
  kind : FieldErrorKind
  message : String
  /-- The object that the path starts from, once it is known. -/
  object : Option ObjectRef
  /-- The path to the field, root first. -/
  path : FieldPath
  deriving DecidableEq, Inhabited, Repr

namespace FieldError

/-- An error at the place where it arises. -/
def here (kind : FieldErrorKind) (message : String) : FieldError := ⟨kind, message, none, []⟩

/-- The error seen from the object or array that holds it under the path. -/
def under (e : FieldError) (path : FieldPath) : FieldError := { e with path := path ++ e.path }

/-- The error seen from the object that holds it in the field. -/
def inField (e : FieldError) (name : String) : FieldError := e.under [.field name]

/-- The error seen from the list that holds it at the index. -/
def atIndex (e : FieldError) (i : Nat) : FieldError := e.under [.index i]

/-- Name the object of an error that has none; the innermost name stays. -/
def ofObject (e : FieldError) (object : ObjectRef) : FieldError :=
  { e with object := e.object.or (some object) }

/-- The object, the path, the cause and the message, without the parts that are missing. -/
def text (e : FieldError) : String :=
  (match e.object with
    | some object => object.text ++ ": "
    | none => "")
  ++ (if e.path.isEmpty then "" else e.path.text ++ ": ")
  ++ e.kind.text ++ ": " ++ e.message

@[simp] theorem inField_path (e : FieldError) (f : String) :
    (e.inField f).path = .field f :: e.path := rfl

@[simp] theorem atIndex_path (e : FieldError) (i : Nat) :
    (e.atIndex i).path = .index i :: e.path := rfl

end FieldError

end GatewayMigration
