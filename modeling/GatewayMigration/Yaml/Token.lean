import GatewayMigration.Yaml.Folding

/-!
# Tokens of a YAML text

Besides scalars a text holds indicators of one or three characters, and marks: anchors, tags and
directives.

## Main definitions

* `Yaml.Token`: the tokens
* `Yaml.anchorName?`, `Yaml.tag?`, `Yaml.directive?`: the marks
-/

namespace GatewayMigration.Yaml

/-- The tokens. -/
inductive Token where
  | streamEnd
  | versionDirective (major minor : Nat)
  | tagDirective (handle target : List Char)
  | documentStart
  | documentEnd
  | blockSequenceStart
  | blockMappingStart
  | blockEnd
  | flowSequenceStart
  | flowSequenceEnd
  | flowMappingStart
  | flowMappingEnd
  | blockEntry
  | flowEntry
  | key
  | value
  | reference (name : List Char)
  | anchor (name : List Char)
  | tag (handle suffix : List Char)
  /-- A scalar; `isPlain` when it stands without quotes and is no block. -/
  | scalar (text : List Char) (isPlain : Bool)
  deriving DecidableEq, Inhabited

/-! ### Texts of tags -/

/-- The handle of a tag: an exclamation mark, and after a word another one. In a directive only a
single mark may go without the second. -/
def tagHandle? (inDirective : Bool) (c : Cursor) : Option (List Char × Cursor) :=
  if c.head? == some '!' then
    let (word, c) := (c.drop 1).span isWordChar
    if c.head? == some '!' then some ('!' :: word ++ ['!'], c.drop 1)
    else if inDirective && !word.isEmpty then none
    else some ('!' :: word, c)
  else none

/-- A byte that is written as a percent sign and two hexadecimal digits. -/
def percentByte? : List Char → Option (Nat × List Char)
  | '%' :: a :: b :: rest => (natOfDigits? 16 [a, b]).map (·, rest)
  | _ => none

/-- Further bytes of a character, six bits each. -/
def percentTail? : Nat → Nat → List Char → Option (Nat × List Char)
  | 0, n, cs => some (n, cs)
  | count + 1, n, cs => do
    let (b, cs) ← percentByte? cs
    if b / 64 != 2 then
      none
    percentTail? count (n * 64 + b % 64) cs

/-- A character that is written as the bytes of its encoding, with the number of its bytes. -/
def percentChar? (cs : List Char) : Option (Char × Nat) := do
  let (b, cs) ← percentByte? cs
  let (count, first) ←
    if b < 0x80 then some (0, b)
    else if b / 32 == 6 then some (1, b % 32)
    else if b / 16 == 14 then some (2, b % 16)
    else if b / 8 == 30 then some (3, b % 8)
    else none
  let (n, _) ← percentTail? count first cs
  return (Char.ofNat n, count + 1)

/-- A character of a tag; the last three only between angle brackets or in a directive. -/
def isTagChar (wide : Bool) (c : Char) : Bool :=
  isWordChar c || ";/?:@&=+$.!~*'()".toList.contains c || (wide && [',', '[', ']'].contains c)

/-- The rest of a tag, and the place after it. -/
def tagText? (wide : Bool) : Nat → Cursor → Option (List Char × Cursor)
  | 0, _ => none
  | fuel + 1, c =>
    match c.head? with
    | some '%' => do
      let (ch, bytes) ← percentChar? c.rest
      let (cs, c) ← tagText? wide fuel (c.drop (3 * bytes))
      return (ch :: cs, c)
    | some ch =>
      if isTagChar wide ch then (tagText? wide fuel (c.drop 1)).map fun (cs, c) => (ch :: cs, c)
      else some ([], c)
    | none => some ([], c)

/-! ### Anchors and tags -/

/-- The name of an anchor or alias after its mark. -/
def anchorName? (c : Cursor) : Option (List Char × Cursor) :=
  let (name, c) := c.span isWordChar
  let ends := match c.head? with
    | none => true
    | some ch => isGap ch || ['?', ':', ',', ']', '\x7d', '%', '@', '\x60'].contains ch
  if name.isEmpty || !ends then none else some (name, c)

/-- A tag at its exclamation mark, as its handle and the rest. A tag with a handle of its own keeps
it; any other has the handle of a single mark, and a mark alone has no handle. -/
def tag? (inFlow : Bool) (c : Cursor) : Option (Token × Cursor) := do
  let (t, c) ←
    if c.at? 1 == some '<' then do
      let c := c.drop 2
      let (suffix, c) ← tagText? true c.steps c
      if suffix.isEmpty || c.head? != some '>' then
        none
      some (Token.tag [] suffix, c.drop 1)
    else do
      let (handle, c) ← tagHandle? false c
      let (suffix, c) ← tagText? false c.steps c
      if 1 < handle.length && handle.getLast? == some '!' then
        if suffix.isEmpty then none else some (Token.tag handle suffix, c)
      else
        let suffix := handle.drop 1 ++ suffix
        some (if suffix.isEmpty then Token.tag [] ['!'] else Token.tag ['!'] suffix, c)
  if isGapOrEnd c.head? || (inFlow && c.head? == some ',') then some (t, c) else none

/-! ### Directives -/

/-- A number of at most nine digits. -/
def shortNumber? (c : Cursor) : Option (Nat × Cursor) :=
  let (ds, c) := c.span Char.isDigit
  if ds.isEmpty || 9 < ds.length then none else some (natOfDecimalDigits ds, c)

/-- A directive after its percent sign. -/
def directive? (c : Cursor) : Option (Token × Cursor) := do
  let (name, c) := c.span isWordChar
  if name.isEmpty || !isGapOrEnd c.head? then
    none
  let (t, c) ← match String.ofList name with
    | "YAML" => do
      let (major, c) ← shortNumber? (c.skip isBlank)
      if c.head? != some '.' then
        none
      let (minor, c) ← shortNumber? (c.drop 1)
      some (Token.versionDirective major minor, c)
    | "TAG" => do
      let (handle, c) ← tagHandle? true (c.skip isBlank)
      if !c.head?.any isBlank then
        none
      let c := c.skip isBlank
      let (target, c) ← tagText? true c.steps c
      if target.isEmpty || !isGapOrEnd c.head? then
        none
      some (Token.tagDirective handle target, c)
    | _ => none
  let c := c.skip isBlank
  let c := if c.head? == some '#' then c.skipLine else c
  if c.head?.all isBreak then some (t, c.newline.2) else none

end GatewayMigration.Yaml
