import GatewayMigration.Decimal
import GatewayMigration.OrderedMap

/-!
# JSON values

Documents of every kind are read into and written from one type of values. The members of an
object stand in ascending order of their keys, each key once.

## Main definitions

* `Json`: a value
* `Json.object`, `Json.field?`: an object from its optional members, and a member by its key
* `Json.record?`: the members of a record given by names or by positions
* `Json.Fields.required`, `Json.Fields.optional`, `Json.Fields.defaulted`: reading members
-/

namespace GatewayMigration

/-- A JSON value. A number with a fraction or a power of ten is kept apart from an integer. -/
inductive Json where
  | null
  | bool (b : Bool)
  | int (n : Int)
  | float (x : Decimal)
  | str (s : String)
  | arr (items : List Json)
  | obj (members : List (String × Json))
  deriving Inhabited

namespace Json

/-- The members of an object. -/
abbrev Fields := List (String × Json)

/-! ### Equality -/

mutual

/-- Structural equality. -/
def same : Json → Json → Bool
  | .null, .null => true
  | .bool a, .bool b => a == b
  | .int a, .int b => a == b
  | .float a, .float b => a == b
  | .str a, .str b => a == b
  | .arr a, .arr b => sameItems a b
  | .obj a, .obj b => sameMembers a b
  | _, _ => false

def sameItems : List Json → List Json → Bool
  | [], [] => true
  | a :: as, b :: bs => same a b && sameItems as bs
  | _, _ => false

def sameMembers : Fields → Fields → Bool
  | [], [] => true
  | (k, a) :: as, (l, b) :: bs => k == l && same a b && sameMembers as bs
  | _, _ => false

end

mutual

theorem eq_of_same : ∀ {a b : Json}, same a b = true → a = b
  | .null, b, h => by cases b <;> simp_all [same]
  | .bool _, b, h => by cases b <;> simp_all [same]
  | .int _, b, h => by cases b <;> simp_all [same]
  | .float _, b, h => by cases b <;> simp_all [same]
  | .str _, b, h => by cases b <;> simp_all [same]
  | .arr as, b, h => by
    cases b with
    | arr bs => exact congrArg _ (eq_of_sameItems (by simpa [same] using h))
    | _ => simp [same] at h
  | .obj as, b, h => by
    cases b with
    | obj bs => exact congrArg _ (eq_of_sameMembers (by simpa [same] using h))
    | _ => simp [same] at h

theorem eq_of_sameItems : ∀ {a b : List Json}, sameItems a b = true → a = b
  | [], b, h => by cases b <;> simp_all [sameItems]
  | a :: as, b, h => by
    cases b with
    | nil => simp [sameItems] at h
    | cons b bs =>
      simp only [sameItems, Bool.and_eq_true] at h
      rw [eq_of_same h.1, eq_of_sameItems h.2]

theorem eq_of_sameMembers : ∀ {a b : Fields}, sameMembers a b = true → a = b
  | [], b, h => by cases b <;> simp_all [sameMembers]
  | (k, a) :: as, b, h => by
    cases b with
    | nil => simp [sameMembers] at h
    | cons b bs =>
      obtain ⟨l, b⟩ := b
      simp only [sameMembers, Bool.and_eq_true, beq_iff_eq] at h
      rw [h.1.1, eq_of_same h.1.2, eq_of_sameMembers h.2]

end

mutual

theorem same_self : ∀ a : Json, same a a = true
  | .null => rfl
  | .bool _ => by simp [same]
  | .int _ => by simp [same]
  | .float _ => by simp [same]
  | .str _ => by simp [same]
  | .arr as => by simpa [same] using sameItems_self as
  | .obj as => by simpa [same] using sameMembers_self as

theorem sameItems_self : ∀ a : List Json, sameItems a a = true
  | [] => rfl
  | a :: as => by simp [sameItems, same_self a, sameItems_self as]

theorem sameMembers_self : ∀ a : Fields, sameMembers a a = true
  | [] => rfl
  | (_, a) :: as => by simp [sameMembers, same_self a, sameMembers_self as]

end

instance : DecidableEq Json := fun a b =>
  if h : same a b then .isTrue (eq_of_same h) else .isFalse fun e => h (e ▸ same_self a)

/-! ### Building values -/

/-- An object of members in any order; of two members with one key, the last one counts. -/
def ofMembers (members : Fields) : Json := .obj (OrderedMap.ofList members).entries

/-- An object of the members that are present. -/
def object (members : List (String × Option Json)) : Json :=
  ofMembers (members.filterMap fun m => m.2.map (m.1, ·))

/-- The object of a map with string values. -/
def ofStringMap (m : OrderedMap String String) : Json :=
  .obj (m.entries.map fun e => (e.1, .str e.2))

/-- An array of strings. -/
def ofStrings (l : List String) : Json := .arr (l.map .str)

/-! ### Taking values apart -/

/-- The value of the first member with the key. -/
def lookup (k : String) : Fields → Option Json
  | [] => none
  | (k', v) :: rest => if k' = k then some v else lookup k rest

/-- The member of an object with the key; other values have none. -/
def field? (j : Json) (k : String) : Option Json :=
  match j with
  | .obj members => lookup k members
  | _ => none

def string? : Json → Option String
  | .str s => some s
  | _ => none

def bool? : Json → Option Bool
  | .bool b => some b
  | _ => none

/-- An integer between two bounds; a number with a fraction or a power of ten is none. -/
def intWithin? (lo hi : Int) : Json → Option Int
  | .int n => if lo ≤ n ∧ n ≤ hi then some n else none
  | _ => none

def uint16? (j : Json) : Option UInt16 :=
  (j.intWithin? 0 65535).map fun n => UInt16.ofNat n.toNat

def int32? (j : Json) : Option Int32 :=
  (j.intWithin? (-2147483648) 2147483647).map Int32.ofInt

def int64? (j : Json) : Option Int64 :=
  (j.intWithin? (-9223372036854775808) 9223372036854775807).map Int64.ofInt

/-- The items of an array, each read by `item`. -/
def listOf? {α : Type} (item : Json → Option α) : Json → Option (List α)
  | .arr items => items.mapM item
  | _ => none

/-- The members of an object, each value read by `value`. -/
def mapOf? {α : Type} (value : Json → Option α) : Json → Option (OrderedMap String α)
  | .obj members => (members.mapM fun m => (value m.2).map (m.1, ·)).map .ofList
  | _ => none

/-- The members of an object; other values have none. -/
def fields? : Json → Option Fields
  | .obj members => some members
  | _ => none

/-- The members of a record: an object, or an array that gives the leading members in the order of
their names. -/
def record? (names : List String) : Json → Option Fields
  | .obj members => some members
  | .arr items => if items.length ≤ names.length then some (names.zip items) else none
  | _ => none

/-- A value that names one of several variants by a member, or by its first item. -/
def variant? (tag : String) : Json → Option (String × Json)
  | .obj members => ((lookup tag members).bind string?).map (·, .obj members)
  | .arr (.str name :: items) => some (name, .arr items)
  | _ => none

/-- The name of a variant that carries nothing. -/
def unitVariant? : Json → Option String
  | .str name => some name
  | .obj [(name, .null)] => some name
  | _ => none

namespace Fields

variable {α : Type}

/-- A member that has to be there. -/
def required (read : Json → Option α) (members : Fields) (k : String) : Option α :=
  (lookup k members).bind read

/-- A member that may be missing or null. -/
def optional (read : Json → Option α) (members : Fields) (k : String) : Option (Option α) :=
  match lookup k members with
  | none | some .null => some none
  | some v => (read v).map some

/-- A member that may be missing, but not null. -/
def defaulted (default : α) (read : Json → Option α) (members : Fields) (k : String) : Option α :=
  match lookup k members with
  | none => some default
  | some v => read v

/-- A member that may be missing or null and then has a default. -/
def lenient (default : α) (read : Json → Option α) (members : Fields) (k : String) : Option α :=
  (optional read members k).map (·.getD default)

end Fields

end Json

end GatewayMigration
