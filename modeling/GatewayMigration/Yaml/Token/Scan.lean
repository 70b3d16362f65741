import GatewayMigration.Yaml.Token

/-!
# Reading tokens

A text is read into tokens from left to right. The start of a block and the mark of a key are not
written: they are put in front of a word when the colon after it is found. Until then the word is a
pending key, and a key has to end on its line, within 1024 characters.

## Main definitions

* `Yaml.Scan`: a place in a text with the tokens so far
* `Yaml.Scan.token?`: fetch the token that begins at a place
* `Yaml.Token.ofText?`: the tokens of a text, `none` if it cannot be read
-/

namespace GatewayMigration.Yaml

/-- A word that may turn out to be a key. -/
structure PendingKey where
  /-- Nothing else can stand here. -/
  isRequired : Bool
  /-- How many tokens stand before it. -/
  token : Nat
  index : Nat
  line : Nat
  column : Nat

/-- A place in a text with the tokens so far. -/
structure Scan where
  cursor : Cursor
  tokens : Array Token
  /-- The column of the innermost block; -1 outside of all blocks. -/
  indent : Int
  /-- The columns of the enclosing blocks, innermost first. -/
  outerIndents : List Int
  /-- The word that may turn out to be a key. -/
  pending : Option PendingKey
  /-- The same for the enclosing brackets, innermost first. -/
  outerPending : List (Option PendingKey)
  /-- A key may stand here. -/
  keyAllowed : Bool

namespace Scan

/-- The start of a text. -/
def start (cs : List Char) : Scan := ⟨.start cs, #[], -1, [], none, [], true⟩

/-- The place is inside brackets. -/
def inFlow (s : Scan) : Bool := !s.outerPending.isEmpty

def emit (s : Scan) (t : Token) : Scan := { s with tokens := s.tokens.push t }

/-- Move over characters that a token takes. -/
def emitOver (s : Scan) (n : Nat) (t : Token) : Scan :=
  { s with cursor := s.cursor.drop n }.emit t

/-- The tokens with another one in front of the last ones. -/
def insertAt (tokens : Array Token) (n : Nat) (t : Token) : Array Token :=
  let later := tokens.extract n tokens.size
  (tokens.shrink n).push t ++ later

/-! ### Blocks -/

/-- Close blocks that are indented more than `column`. -/
def closeBlocks (column : Int) (s : Scan) : Scan :=
  if s.inFlow then s else go s.indent s.outerIndents s
where
  go (indent : Int) : List Int → Scan → Scan
    | [], s => { s with indent, outerIndents := [] }
    | outer :: rest, s =>
      if column < indent then go outer rest (s.emit .blockEnd)
      else { s with indent, outerIndents := outer :: rest }

/-- Open a block at a column that is deeper than the innermost one, its token put in front of the
token of the given number. -/
def openBlock (column : Nat) (number : Nat) (t : Token) (s : Scan) : Scan :=
  if !s.inFlow && s.indent < column then
    { s with
      indent := column
      outerIndents := s.indent :: s.outerIndents
      tokens := insertAt s.tokens number t }
  else s

/-! ### Pending keys -/

/-- Give up the pending key; one that is required has to be a key. -/
def dropPending? (s : Scan) : Option Scan :=
  if s.pending.any (·.isRequired) then none else some { s with pending := none }

/-- What follows may turn out to be a key. -/
def savePending? (s : Scan) : Option Scan :=
  if s.keyAllowed then do
    let isRequired := !s.inFlow && s.indent == s.cursor.column
    let s ← s.dropPending?
    return { s with
      pending := some ⟨isRequired, s.tokens.size, s.cursor.index, s.cursor.line,
        s.cursor.column⟩ }
  else some s

/-- A key has to end on its line, within 1024 characters. -/
def isStale (c : Cursor) (k : PendingKey) : Bool := k.line < c.line || k.index + 1024 < c.index

/-- Give up the pending keys that have become too long. -/
def dropStale? (s : Scan) : Option Scan :=
  let stale : Option PendingKey → Bool := (·.any (isStale s.cursor))
  if (s.pending :: s.outerPending).any fun k => stale k && k.any (·.isRequired) then none
  else
    let fresh (k : Option PendingKey) : Option PendingKey := if stale k then none else k
    some { s with pending := fresh s.pending, outerPending := s.outerPending.map fresh }

/-! ### Between tokens -/

/-- Pass over blanks, comments and line breaks. Tabs count as blanks inside brackets, and where no
key may stand. A new line in a block may begin with a key. -/
def skipGap : Nat → Scan → Scan
  | 0, s => s
  | fuel + 1, s =>
    let c := s.cursor
    -- a byte order mark is no part of the text, but takes a column
    let c := if c.index == 0 && c.head? == some '\ufeff' then c.drop 1 else c
    let c := c.skip fun ch => ch == ' ' || (ch == '\t' && (s.inFlow || !s.keyAllowed))
    let c := if c.head? == some '#' then c.skipLine else c
    if c.head?.any isBreak then
      skipGap fuel { s with cursor := c.newline.2, keyAllowed := s.keyAllowed || !s.inFlow }
    else { s with cursor := c }

/-! ### Fetching tokens -/

/-- End the block structure before a directive or a document mark. -/
def endBlocks? (s : Scan) : Option Scan := do
  let s ← (s.closeBlocks (-1)).dropPending?
  return { s with keyAllowed := false }

/-- An opening bracket, which may begin a key. -/
def openFlow? (t : Token) (s : Scan) : Option Scan := do
  let s ← s.savePending?
  return { s with
    outerPending := s.pending :: s.outerPending, pending := none, keyAllowed := true }.emitOver 1 t

/-- A closing bracket. -/
def closeFlow? (t : Token) (s : Scan) : Option Scan := do
  let s ← s.dropPending?
  let s := match s.outerPending with
    | [] => s
    | p :: rest => { s with pending := p, outerPending := rest }
  return { s with keyAllowed := false }.emitOver 1 t

/-- A dash or question mark that opens an entry or a key of a block. -/
def openEntry? (block entry : Token) (s : Scan) : Option Scan := do
  if !s.inFlow && !s.keyAllowed then
    none
  let s ← (s.openBlock s.cursor.column s.tokens.size block).dropPending?
  return s.emitOver 1 entry

/-- A colon. If a pending key stands before it, the mark of the key and perhaps the start of a block
are put in front of that. -/
def value? (s : Scan) : Option Scan :=
  match s.pending with
  | some k =>
    let s := { s with tokens := insertAt s.tokens k.token .key }
    let s := s.openBlock k.column k.token .blockMappingStart
    some ({ s with pending := none, keyAllowed := false }.emitOver 1 .value)
  | none =>
    if !s.inFlow && !s.keyAllowed then none
    else
      let s := s.openBlock s.cursor.column s.tokens.size .blockMappingStart
      some ({ s with keyAllowed := !s.inFlow }.emitOver 1 .value)

/-- A token that may begin a key and after which none may begin. -/
def property? (read : Cursor → Option (Token × Cursor)) (s : Scan) : Option Scan := do
  let s ← s.savePending?
  let (t, cursor) ← read s.cursor
  return { s with keyAllowed := false, cursor }.emit t

/-- A plain scalar, after which a key may stand if a new line was begun. -/
def plain? (s : Scan) : Option Scan := do
  let s ← s.savePending?
  let (text, newLine, cursor) ← plainScalar? s.inFlow (s.indent + 1).toNat s.cursor
  return { s with keyAllowed := newLine, cursor }.emit (.scalar text true)

/-- A block scalar, after which a key may stand. -/
def block? (literal : Bool) (s : Scan) : Option Scan := do
  let s ← s.dropPending?
  let (text, cursor) ← blockScalar? literal s.indent s.cursor
  return { s with keyAllowed := true, cursor }.emit (.scalar text false)

/-- The characters that no plain scalar begins with, though three of them may if a word follows. -/
def isIndicator (c : Char) : Bool :=
  isFlowIndicator c || "-?:#&*!|>'\"%@".toList.contains c || c == '\x60'

/-- Fetch the token that a character begins. -/
def token? (ch : Char) (s : Scan) : Option Scan :=
  let c := s.cursor
  let gapNext := isGapOrEnd (c.at? 1)
  -- at the start of a line: directives and the marks of documents
  if c.column == 0 && ch == '%' then do
    let s ← s.endBlocks?
    let (t, cursor) ← directive? (c.drop 1)
    return { s with cursor }.emit t
  else if c.isAtDocumentMark '-' then s.endBlocks?.map (·.emitOver 3 .documentStart)
  else if c.isAtDocumentMark '.' then s.endBlocks?.map (·.emitOver 3 .documentEnd)
  -- brackets and what separates items in them
  else if ch == '[' then s.openFlow? .flowSequenceStart
  else if ch == '\x7b' then s.openFlow? .flowMappingStart
  else if ch == ']' then s.closeFlow? .flowSequenceEnd
  else if ch == '\x7d' then s.closeFlow? .flowMappingEnd
  else if ch == ',' then
    s.dropPending?.map fun s => { s with keyAllowed := true }.emitOver 1 .flowEntry
  -- entries, keys and values
  else if ch == '-' && gapNext then
    (s.openEntry? .blockSequenceStart .blockEntry).map fun s => { s with keyAllowed := true }
  else if ch == '?' && (s.inFlow || gapNext) then
    (s.openEntry? .blockMappingStart .key).map fun s => { s with keyAllowed := !s.inFlow }
  else if ch == ':' && (s.inFlow || gapNext) then s.value?
  -- marks in front of a node
  else if ch == '*' then
    s.property? fun c => (anchorName? (c.drop 1)).map fun (n, c) => (.reference n, c)
  else if ch == '&' then
    s.property? fun c => (anchorName? (c.drop 1)).map fun (n, c) => (.anchor n, c)
  else if ch == '!' then s.property? (tag? s.inFlow)
  -- scalars, the plain ones last
  else if ch == '|' && !s.inFlow then s.block? true
  else if ch == '>' && !s.inFlow then s.block? false
  else if ch == '\'' || ch == '"' then
    s.property? fun c => (quotedScalar? (ch == '\'') c).map fun (t, c) => (.scalar t false, c)
  else if !isGap ch && !isIndicator ch then s.plain?
  else if ch == '-' && !(c.at? 1).any isBlank then s.plain?
  else if (ch == '?' || ch == ':') && !s.inFlow && !gapNext then s.plain?
  else none

/-- Fetch tokens up to the end of the text. -/
def run? : Nat → Scan → Option (Array Token)
  | 0, _ => none
  | fuel + 1, s => do
    let s ← (s.skipGap s.cursor.steps).dropStale?
    let s := s.closeBlocks s.cursor.column
    match s.cursor.head? with
    | none =>
      let s ← (s.closeBlocks (-1)).dropPending?
      return s.tokens.push .streamEnd
    | some ch => run? fuel (← s.token? ch)

end Scan

/-- The tokens of a text. Each token takes a character at least, but the last. -/
def Token.ofText? (text : String) : Option (List Token) :=
  let cs := text.toList
  if cs.all isAllowed then (Scan.run? (cs.length + 1) (.start cs)).map Array.toList else none

end GatewayMigration.Yaml
