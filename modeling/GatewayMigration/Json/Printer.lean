import GatewayMigration.Json

/-!
# Writing JSON text

## Main definitions

* `Json.compact`: one line without blanks
* `Json.pretty`: one member or item a line, two blanks a level
-/

namespace GatewayMigration.Json

/-- Two hexadecimal digits of a number below 256. -/
def hexPair (n : Nat) : List Char := [Nat.digitChar (n / 16), Nat.digitChar (n % 16)]

/-- A character inside a string: control characters, quotes and backslashes are escaped. -/
def escapeChar (c : Char) : List Char :=
  if c = '"' then ['\\', '"']
  else if c = '\\' then ['\\', '\\']
  else if c = '\n' then ['\\', 'n']
  else if c = '\r' then ['\\', 'r']
  else if c = '\t' then ['\\', 't']
  else if c = '\x08' then ['\\', 'b']
  else if c = '\x0c' then ['\\', 'f']
  else if c.toNat < 0x20 then '\\' :: 'u' :: '0' :: '0' :: hexPair c.toNat
  else [c]

/-- A string with its quotes. -/
def quote (s : String) : String := "\"" ++ String.ofList (s.toList.flatMap escapeChar) ++ "\""

/-- A number with a fraction, as its coefficient and a power of ten. -/
def decimalText (x : Decimal) : String :=
  (if x.negative then "-" else "") ++ toString x.coefficient ++ "e" ++ toString x.exponent

mutual

/-- The value on one line without blanks. -/
def compact : Json → String
  | .null => "null"
  | .bool true => "true"
  | .bool false => "false"
  | .int n => toString n
  | .float x => decimalText x
  | .str s => quote s
  | .arr items => "[" ++ ",".intercalate (compactItems items) ++ "]"
  | .obj members => "\x7b" ++ ",".intercalate (compactMembers members) ++ "\x7d"

def compactItems : List Json → List String
  | [] => []
  | v :: rest => compact v :: compactItems rest

def compactMembers : Fields → List String
  | [] => []
  | (k, v) :: rest => (quote k ++ ":" ++ compact v) :: compactMembers rest

end

/-- Lines between two brackets, indented one level more than the brackets. -/
def bracketed (indent : Nat) (opening closing : String) (lines : List String) : String :=
  match lines with
  | [] => opening ++ closing
  | lines =>
    let pad := "".pushn ' ' (2 * indent)
    opening ++ "\n" ++ ",\n".intercalate (lines.map (pad ++ "  " ++ ·)) ++ "\n" ++ pad ++ closing

mutual

/-- The value over several lines, its own line at level `indent`. -/
def prettyAt (indent : Nat) : Json → String
  | .arr items => bracketed indent "[" "]" (prettyItems (indent + 1) items)
  | .obj members => bracketed indent "\x7b" "\x7d" (prettyMembers (indent + 1) members)
  | .null => "null"
  | .bool true => "true"
  | .bool false => "false"
  | .int n => toString n
  | .float x => decimalText x
  | .str s => quote s

def prettyItems (indent : Nat) : List Json → List String
  | [] => []
  | v :: rest => prettyAt indent v :: prettyItems indent rest

def prettyMembers (indent : Nat) : Fields → List String
  | [] => []
  | (k, v) :: rest => (quote k ++ ": " ++ prettyAt indent v) :: prettyMembers indent rest

end

/-- The value over several lines: one member or item a line, two blanks a level. -/
def pretty (j : Json) : String := prettyAt 0 j

end GatewayMigration.Json
