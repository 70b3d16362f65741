import GatewayMigration.OrderedMap

/-!
# Object identities

## Main definitions

* `ObjectName`: a namespace and a name, ordered by namespace first
* `ObjectRef`: a kind and an object name, ordered by kind first
-/

namespace GatewayMigration

/-- The identity of an object among those of its kind. -/
structure ObjectName where
  /-- The namespace. -/
  ns : String
  name : String
  deriving DecidableEq, Inhabited, Repr

namespace ObjectName

/-- Namespaces are compared first, then names. -/
instance : Ord ObjectName := ⟨compareLex (compareOn ObjectName.ns) (compareOn ObjectName.name)⟩

instance : Std.TransOrd ObjectName :=
  inferInstanceAs (Std.TransCmp (compareLex (compareOn ObjectName.ns) (compareOn ObjectName.name)))

theorem compare_eq (a b : ObjectName) :
    compare a b = (compare a.ns b.ns).then (compare a.name b.name) := rfl

instance : Std.LawfulEqOrd ObjectName where
  eq_of_compare {a b} h := by
    rw [compare_eq, Ordering.then_eq_eq] at h
    obtain ⟨ans, aname⟩ := a
    obtain ⟨bns, bname⟩ := b
    simp_all

/-- The namespace and the name with a slash between them. -/
def text (n : ObjectName) : String := n.ns ++ "/" ++ n.name

/-- The names in ascending order. -/
def sort (l : List ObjectName) : List ObjectName := l.mergeSort fun a b => (compare a b).isLE

end ObjectName

/-- A reference to the object that a message is about. -/
structure ObjectRef where
  kind : String
  name : ObjectName
  deriving DecidableEq, Inhabited, Repr

namespace ObjectRef

/-- Kinds are compared first, then object names. -/
instance : Ord ObjectRef := ⟨compareLex (compareOn ObjectRef.kind) (compareOn ObjectRef.name)⟩

/-- The kind and the object name with a blank between them. -/
def text (r : ObjectRef) : String := r.kind ++ " " ++ r.name.text

/-- The references in ascending order. -/
def sort (l : List ObjectRef) : List ObjectRef := l.mergeSort fun a b => (compare a b).isLE

end ObjectRef

end GatewayMigration
