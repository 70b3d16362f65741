import GatewayMigration.Json

/-!
# JSON text

The strict reader of JSON text. Text is first read into a raw tree, which keeps members in the
order of the text with repeated keys, and shows a string that holds half of a surrogate pair alone
as one that has no value. A raw tree becomes a value where all its strings and numbers have one.

## Main definitions

* `RawJson`: the tree of a text
* `RawJson.ofText?`: the tree of a text; nothing may follow the value but blanks
* `Json.ofText?`: the value of a text
-/

namespace GatewayMigration

/-- The tree of a JSON text. -/
inductive RawJson where
  | null
  | bool (b : Bool)
  | number (n : Numeral)
  /-- A string; `none` when an escape names half of a surrogate pair alone. -/
  | str (s : Option String)
  | arr (items : List RawJson)
  | obj (members : List (Option String × RawJson))
  deriving Inhabited

namespace RawJson

/-- The blanks between tokens. -/
def isBlank (c : Char) : Bool := c == ' ' || c == '\t' || c == '\n' || c == '\r'

def skipBlanks (cs : List Char) : List Char := cs.dropWhile isBlank

/-- The number that four hexadecimal digits write. -/
def hex4? (a b c d : Char) : Option Nat := natOfDigits? 16 [a, b, c, d]

def isHighSurrogate (n : Nat) : Bool := 0xD800 ≤ n && n ≤ 0xDBFF

def isLowSurrogate (n : Nat) : Bool := 0xDC00 ≤ n && n ≤ 0xDFFF

/-- The rest of a string after its opening quote, up to and without its closing quote: its
characters, `none` for half of a surrogate pair alone, and what follows. -/
def stringBody? : List Char → Option (List (Option Char) × List Char)
  | '"' :: rest => some ([], rest)
  | '\\' :: 'u' :: a :: b :: c :: d :: '\\' :: 'u' :: a' :: b' :: c' :: d' :: rest =>
    match hex4? a b c d, hex4? a' b' c' d' with
    | some hi, some lo =>
      if isHighSurrogate hi && isLowSurrogate lo then
        (stringBody? rest).map fun r =>
          (some (Char.ofNat (0x10000 + (hi - 0xD800) * 0x400 + (lo - 0xDC00))) :: r.1, r.2)
      else
        (stringBody? ('\\' :: 'u' :: a' :: b' :: c' :: d' :: rest)).map fun r =>
          ((if isHighSurrogate hi || isLowSurrogate hi then none else some (Char.ofNat hi)) :: r.1,
            r.2)
    | _, _ => none
  | '\\' :: 'u' :: a :: b :: c :: d :: rest =>
    match hex4? a b c d with
    | some n =>
      (stringBody? rest).map fun r =>
        ((if isHighSurrogate n || isLowSurrogate n then none else some (Char.ofNat n)) :: r.1, r.2)
    | none => none
  | '\\' :: c :: rest =>
    let named : Option Char :=
      match c with
      | '"' => some '"'
      | '\\' => some '\\'
      | '/' => some '/'
      | 'b' => some '\x08'
      | 'f' => some '\x0c'
      | 'n' => some '\n'
      | 'r' => some '\r'
      | 't' => some '\t'
      | _ => none
    named.bind fun c => (stringBody? rest).map fun r => (some c :: r.1, r.2)
  | c :: rest =>
    if c.toNat < 0x20 then none else (stringBody? rest).map fun r => (some c :: r.1, r.2)
  | [] => none

/-- A string after its opening quote. -/
def string? (cs : List Char) : Option (Option String × List Char) :=
  (stringBody? cs).map fun r => ((r.1.mapM id).map String.ofList, r.2)

/-- A number; a leading zero stands alone before the point. -/
def number? (cs : List Char) : Option (Numeral × List Char) := do
  let (negative, cs) := match cs with
    | '-' :: rest => (true, rest)
    | _ => (false, cs)
  let (whole, cs) ← Numeral.digits? cs
  if whole.length > 1 && whole.head? == some '0' then
    none
  let (fraction, cs) ← match cs with
    | '.' :: rest => (Numeral.digits? rest).map fun r => (some r.1, r.2)
    | _ => some (none, cs)
  let (exponent, cs) ← match cs with
    | 'e' :: rest | 'E' :: rest => (Numeral.powerOfTen? rest).map fun r => (some r.1, r.2)
    | _ => some (none, cs)
  return (⟨negative, whole, fraction, exponent⟩, cs)

mutual

/-- One value and what follows it. -/
def value? : Nat → List Char → Option (RawJson × List Char)
  | 0, _ => none
  | fuel + 1, cs =>
    match skipBlanks cs with
    | 'n' :: 'u' :: 'l' :: 'l' :: rest => some (.null, rest)
    | 't' :: 'r' :: 'u' :: 'e' :: rest => some (.bool true, rest)
    | 'f' :: 'a' :: 'l' :: 's' :: 'e' :: rest => some (.bool false, rest)
    | '"' :: rest => (string? rest).map fun r => (.str r.1, r.2)
    | '[' :: rest =>
      match skipBlanks rest with
      | ']' :: rest => some (.arr [], rest)
      | rest => (items? fuel rest).map fun r => (.arr r.1, r.2)
    | '\x7b' :: rest =>
      match skipBlanks rest with
      | '\x7d' :: rest => some (.obj [], rest)
      | rest => (members? fuel rest).map fun r => (.obj r.1, r.2)
    | rest => (number? rest).map fun r => (.number r.1, r.2)

/-- The items of an array that is not empty, up to its bracket. -/
def items? : Nat → List Char → Option (List RawJson × List Char)
  | 0, _ => none
  | fuel + 1, cs => do
    let (v, cs) ← value? fuel cs
    match skipBlanks cs with
    | ',' :: rest => (items? fuel rest).map fun r => (v :: r.1, r.2)
    | ']' :: rest => some ([v], rest)
    | _ => none

/-- The members of an object that is not empty, up to its brace. -/
def members? : Nat → List Char → Option (List (Option String × RawJson) × List Char)
  | 0, _ => none
  | fuel + 1, cs =>
    match skipBlanks cs with
    | '"' :: rest => do
      let (k, cs) ← string? rest
      match skipBlanks cs with
      | ':' :: rest =>
        let (v, cs) ← value? fuel rest
        match skipBlanks cs with
        | ',' :: rest => (members? fuel rest).map fun r => ((k, v) :: r.1, r.2)
        | '\x7d' :: rest => some ([(k, v)], rest)
        | _ => none
      | _ => none
    | _ => none

end

/-- The tree of a whole text. Each level of the reader takes a character, or stands between two
levels that do, so twice the length bounds its depth. -/
def ofText? (text : String) : Option RawJson :=
  match value? (2 * text.length + 2) text.toList with
  | some (v, rest) => if (skipBlanks rest).isEmpty then some v else none
  | none => none

/-- The value of a number: an integer if it is written as one and fits 64 bits, else the nearest
double, and none if that is infinite. -/
def numberValue? (n : Numeral) : Option Json :=
  let i := n.toInt
  if n.isWhole && -9223372036854775808 ≤ i && i ≤ 18446744073709551615
      && !(n.negative && i == 0) then
    some (.int i)
  else
    n.toDecimal.round?.map .float

mutual

/-- The value of a tree. -/
def toJson? : RawJson → Option Json
  | .null => some .null
  | .bool b => some (.bool b)
  | .number n => numberValue? n
  | .str s => s.map .str
  | .arr items => (itemsToJson? items).map .arr
  | .obj members => (membersToJson? members).map .ofMembers

def itemsToJson? : List RawJson → Option (List Json)
  | [] => some []
  | v :: rest => do
    let v ← toJson? v
    let rest ← itemsToJson? rest
    return v :: rest

def membersToJson? : List (Option String × RawJson) → Option Json.Fields
  | [] => some []
  | (k, v) :: rest => do
    let k ← k
    let v ← toJson? v
    let rest ← membersToJson? rest
    return (k, v) :: rest

end

end RawJson

/-- The value of a JSON text. -/
def Json.ofText? (text : String) : Option Json := (RawJson.ofText? text).bind RawJson.toJson?

end GatewayMigration
