import GatewayMigration.OrderedMap
import GatewayMigration.Yaml.Token.Scan

/-!
# Nodes of a YAML text

The tokens of a text are read into one node a document. Names of anchors are replaced by numbers:
an anchor has as its number how many names were anchored before it in the document, and an alias
has the number that its name had last.

## Main definitions

* `Yaml.Node`: a node
* `Yaml.Node.size`: how many marks and scalars write a node
* `Yaml.Node.anchors`: the anchored nodes inside a node
* `Yaml.Node.documents?`: the nodes of the documents that tokens write
-/

namespace GatewayMigration.Yaml

/-- A node of a document. -/
inductive Node where
  /-- An alias, which stands for an anchored node. -/
  | reference (anchor : Nat)
  | anchored (anchor : Nat) (node : Node)
  | scalar (tag : Option String) (text : String) (isPlain : Bool)
  | sequence (tag : Option String) (items : List Node)
  | mapping (tag : Option String) (entries : List (Node × Node))
  deriving Inhabited

namespace Node

/-- The scalar where nothing is written. -/
def empty : Node := .scalar none "" true

mutual

/-- How many marks and scalars write a node; a collection has a mark at each end. -/
def size : Node → Nat
  | .reference _ => 1
  | .anchored _ n => n.size
  | .scalar .. => 1
  | .sequence _ items => 2 + sizeItems items
  | .mapping _ entries => 2 + sizeEntries entries

def sizeItems : List Node → Nat
  | [] => 0
  | n :: rest => n.size + sizeItems rest

def sizeEntries : List (Node × Node) → Nat
  | [] => 0
  | (k, v) :: rest => k.size + v.size + sizeEntries rest

end

mutual

/-- The anchored nodes inside a node, in the order of their anchors. -/
def anchors : Node → List (Nat × Node)
  | .reference _ => []
  | .anchored a n => (a, n) :: n.anchors
  | .scalar .. => []
  | .sequence _ items => anchorsOfItems items
  | .mapping _ entries => anchorsOfEntries entries

def anchorsOfItems : List Node → List (Nat × Node)
  | [] => []
  | n :: rest => n.anchors ++ anchorsOfItems rest

def anchorsOfEntries : List (Node × Node) → List (Nat × Node)
  | [] => []
  | (k, v) :: rest => k.anchors ++ v.anchors ++ anchorsOfEntries rest

end

/-! ### Reading tokens -/

/-- What is left to read, and what was declared before it in the document. -/
structure Reading where
  tokens : List Token
  /-- What the handles of tags stand for. -/
  handles : OrderedMap String String
  /-- The numbers of the anchored names. -/
  names : OrderedMap String Nat

/-- A step of reading, which may fail. -/
abbrev Reader := StateT Reading Option

/-- The next token. -/
def peek : Reader Token := do return (← get).tokens.head?.getD .streamEnd

/-- Pass over the next token. -/
def advance : Reader Unit := modify fun s => { s with tokens := s.tokens.tail }

/-- The handles that need no directive. -/
def standardHandles : OrderedMap String String :=
  .ofList [("!", "!"), ("!!", "tag:yaml.org,2002:")]

/-- A tag with what its handle stands for; a tag without a handle is complete. -/
def fullTag (handle suffix : List Char) : Reader String := do
  if handle.isEmpty then
    return String.ofList suffix
  let h := String.ofList handle
  let some target := ((← get).handles.find? h).or (standardHandles.find? h) | failure
  return target ++ String.ofList suffix

/-- The number of an anchor, if one follows. -/
def anchor? : Reader (Option Nat) := do
  match ← peek with
  | .anchor name =>
    advance
    let number := (← get).names.keys.length
    modify fun s => { s with names := s.names.insert (String.ofList name) number }
    return some number
  | _ => return none

/-- A tag, if one follows. -/
def tag? : Reader (Option String) := do
  match ← peek with
  | .tag handle suffix =>
    advance
    return some (← fullTag handle suffix)
  | _ => return none

/-- The anchor and the tag of a node, in either order. -/
def properties : Reader (Option Nat × Option String) := do
  let anchor ← anchor?
  let tag ← tag?
  match anchor with
  | some _ => return (anchor, tag)
  | none => return (← anchor?, tag)

/-- A node, or an empty one before certain tokens. -/
def before (ends : List Token) (node : Reader Node) : Reader Node := do
  if ends.contains (← peek) then return .empty else node

/-- The value of a member, if its mark follows. -/
def valueBefore (ends : List Token) (node : Reader Node) : Reader Node := do
  match ← peek with
  | .value =>
    advance
    before ends node
  | _ => return .empty

/-- Pass over the comma in front of an item inside brackets; the first item has none. -/
def separator (isFirst : Bool) (closing : Token) : Reader Unit := do
  let t ← peek
  if t != closing && !isFirst then
    if t == .flowEntry then advance else failure

/-- A scalar; the tag of an exclamation mark alone counts as none. -/
def scalarOf (tag : Option String) (text : List Char) (isPlain : Bool) : Node :=
  .scalar (if tag == some "!" then none else tag) (String.ofList text) isPlain

mutual

/-- A node. As the member of a block mapping, a sequence of entries needs no indentation. -/
def node : Nat → Bool → Reader Node
  | 0, _ => failure
  | fuel + 1, isMember => do
    match ← peek with
    | .reference name =>
      advance
      let some number := (← get).names.find? (String.ofList name) | failure
      return .reference number
    | _ =>
      let (anchor, tag) ← properties
      let n ← content fuel isMember (anchor.isSome || tag.isSome) tag
      return (anchor.map fun a => .anchored a n).getD n

/-- A node after its properties; with properties it may be empty. -/
def content : Nat → Bool → Bool → Option String → Reader Node
  | 0, _, _, _ => failure
  | fuel + 1, isMember, mayBeEmpty, tag => do
    match ← peek with
    | .scalar text isPlain =>
      advance
      return scalarOf tag text isPlain
    | .flowSequenceStart =>
      advance
      return .sequence tag (← flowItems fuel true)
    | .flowMappingStart =>
      advance
      return .mapping tag (← flowEntries fuel true)
    | .blockSequenceStart =>
      advance
      return .sequence tag (← blockItems fuel)
    | .blockMappingStart =>
      advance
      return .mapping tag (← blockEntries fuel)
    | .blockEntry =>
      if isMember then return .sequence tag (← memberItems fuel)
      else if mayBeEmpty then return .scalar tag "" true
      else failure
    | _ => if mayBeEmpty then return .scalar tag "" true else failure

/-- The items of a block sequence. -/
def blockItems : Nat → Reader (List Node)
  | 0 => failure
  | fuel + 1 => do
    match ← peek with
    | .blockEntry =>
      advance
      let n ← before [.blockEntry, .blockEnd] (node fuel false)
      return n :: (← blockItems fuel)
    | .blockEnd =>
      advance
      return []
    | _ => failure

/-- The items of a sequence without indentation, which ends where no entry follows. -/
def memberItems : Nat → Reader (List Node)
  | 0 => failure
  | fuel + 1 => do
    match ← peek with
    | .blockEntry =>
      advance
      let n ← before [.blockEntry, .key, .value, .blockEnd] (node fuel false)
      return n :: (← memberItems fuel)
    | _ => return []

/-- The entries of a block mapping. -/
def blockEntries : Nat → Reader (List (Node × Node))
  | 0 => failure
  | fuel + 1 => do
    match ← peek with
    | .key =>
      advance
      let k ← before [.key, .value, .blockEnd] (node fuel true)
      let v ← valueBefore [.key, .value, .blockEnd] (node fuel true)
      return (k, v) :: (← blockEntries fuel)
    | .blockEnd =>
      advance
      return []
    | _ => failure

/-- The items of a sequence in brackets. A key in it writes a mapping of one entry; where that key
is empty, the token after its mark is passed over. -/
def flowItems : Nat → Bool → Reader (List Node)
  | 0, _ => failure
  | fuel + 1, isFirst => do
    separator isFirst .flowSequenceEnd
    match ← peek with
    | .flowSequenceEnd =>
      advance
      return []
    | .key =>
      advance
      -- the token after the mark of an empty key is lost
      let isEmpty := [.value, .flowEntry, .flowSequenceEnd].contains (← peek)
      let k ← if isEmpty then do advance; pure .empty else node fuel false
      let v ← valueBefore [.flowEntry, .flowSequenceEnd] (node fuel false)
      return .mapping none [(k, v)] :: (← flowItems fuel false)
    | _ =>
      let n ← node fuel false
      return n :: (← flowItems fuel false)

/-- The entries of a mapping in brackets. -/
def flowEntries : Nat → Bool → Reader (List (Node × Node))
  | 0, _ => failure
  | fuel + 1, isFirst => do
    separator isFirst .flowMappingEnd
    match ← peek with
    | .flowMappingEnd =>
      advance
      return []
    | .key =>
      advance
      let k ← before [.value, .flowEntry, .flowMappingEnd] (node fuel false)
      let v ← valueBefore [.flowEntry, .flowMappingEnd] (node fuel false)
      return (k, v) :: (← flowEntries fuel false)
    | _ =>
      let k ← node fuel false
      return (k, .empty) :: (← flowEntries fuel false)

end

/-! ### Documents -/

/-- The directives in front of a document: the handles that they declare, and what follows. The
version is declared once at most, and so is each handle. -/
def directives? (hasVersion : Bool) (handles : OrderedMap String String) :
    List Token → Option (OrderedMap String String × List Token)
  | .versionDirective major minor :: rest =>
    if !hasVersion && major == 1 && (minor == 1 || minor == 2) then directives? true handles rest
    else none
  | .tagDirective handle target :: rest =>
    let h := String.ofList handle
    if handles.contains h then none
    else directives? hasVersion (handles.insert h (String.ofList target)) rest
  | tokens => some (handles, tokens)

/-- The token stands in front of a document or ends one. -/
def isDocumentBound : Token → Bool
  | .versionDirective .. | .tagDirective .. | .documentStart | .documentEnd | .streamEnd => true
  | _ => false

/-- The document that follows, and what is left. One without the mark of its start can only be the
first. The nesting of steps is bounded by the number of tokens. -/
def document? (isFirst : Bool) (tokens : List Token) : Option (Node × List Token) := do
  let fuel := 4 * tokens.length + 8
  let (handles, body) ← directives? false ∅ tokens
  let (n, s) ← match body with
    | .documentStart :: body =>
      let isEmpty := body.head?.all isDocumentBound
      (if isEmpty then pure .empty else node fuel false : Reader Node).run ⟨body, handles, ∅⟩
    | _ =>
      if isFirst && body.length == tokens.length then (node fuel false).run ⟨body, ∅, ∅⟩ else none
  return (n, if s.tokens.head? == some .documentEnd then s.tokens.tail else s.tokens)

/-- The documents that tokens write. -/
def documentsFrom? : Nat → Bool → List Token → Option (List Node)
  | 0, _, _ => none
  | fuel + 1, isFirst, tokens =>
    let tokens := if isFirst then tokens else tokens.dropWhile (· == .documentEnd)
    if tokens.head?.all (· == .streamEnd) then some []
    else do
      let (n, rest) ← document? isFirst tokens
      return n :: (← documentsFrom? fuel false rest)

/-- The documents that tokens write; each takes a token at least. -/
def documents? (tokens : List Token) : Option (List Node) :=
  documentsFrom? (tokens.length + 1) true tokens

end Node

end GatewayMigration.Yaml
