import GatewayMigration.Yaml.Node
import GatewayMigration.Yaml.Scalar

/-!
# Documents of a YAML text

The nodes of a text are read as JSON values. An alias has the value of the node that it stands for.
Collections may be nested 128 deep, and a document may pass over aliases a hundred times as often as
it has marks and scalars, so no text can grow without bound.

## Main definitions

* `Yaml.Node.value?`: the value of the node of a document
* `Yaml.documents?`: the values of the documents of a text
-/

namespace GatewayMigration.Yaml

namespace Node

/-- How deep collections may be nested. -/
def maxDepth : Nat := 128

/-- A step that may fail, and that counts the aliases that may still be passed over. -/
abbrev Expansion := StateT Nat Option

/-- The node that counts where a node stands: an alias is passed over, and the mark of an anchor
dropped. Of two nodes with one number the later one counts. -/
def target (table : List (Nat × Node)) : Node → Expansion Node
  | .reference anchor => do
    -- every alias counts, also one that stands for a scalar
    let jumps + 1 ← get | failure
    set jumps
    let some (_, n) := table.reverse.find? (·.1 == anchor) | failure
    return n
  | .anchored _ n => return n
  | n => return n

/-- The key of an entry is the text of a scalar. -/
def keyText (table : List (Nat × Node)) (n : Node) : Expansion String := do
  match ← target table n with
  | .scalar _ text _ => return text
  | _ => failure

/-- The value of a node that may hold `depth` levels of collections. -/
def valueWithin (table : List (Nat × Node)) : Nat → Node → Expansion Json
  | depth, n => do
    match ← target table n, depth with
    | .scalar tag text isPlain, _ =>
      let some v := scalarValue? tag text isPlain | failure
      return v
    | .sequence tag items, depth + 1 =>
      if tag.any isLocalTag then
        failure
      return .arr (← items.mapM (valueWithin table depth))
    | .mapping tag entries, depth + 1 =>
      if tag.any isLocalTag then
        failure
      let members ← entries.mapM fun (k, v) => do
        let k ← keyText table k
        return (k, ← valueWithin table depth v)
      return .ofMembers members
    | _, _ => failure

/-- The value of the node of a document. -/
def value? (n : Node) : Option Json :=
  (valueWithin n.anchors maxDepth n).run' (100 * n.size)

end Node

/-- The values of the documents of a text; none if any of them cannot be read. -/
def documents? (text : String) : Option (List Json) := do
  let tokens ← Token.ofText? text
  let nodes ← Node.documents? tokens
  nodes.mapM Node.value?

end GatewayMigration.Yaml
