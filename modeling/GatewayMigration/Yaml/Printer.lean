import GatewayMigration.Json.Printer
import GatewayMigration.Yaml.Cursor

/-!
# Writing YAML text

A value is written in block style, two blanks a level, its members in the order of their keys. The
items of a sequence stand below the key of the sequence, without indentation of their own. A text
stands plain where it can only be read as itself, else in single quotes, and in double quotes where
it holds characters that need an escape. A text with line feeds is a literal block.

## Main definitions

* `Yaml.textStyle`: the style in which a text is written
* `Yaml.print`: a document
-/

namespace GatewayMigration.Yaml

/-! ### Styles of texts -/

/-- A character that stands for itself in a text. -/
def isPrintable (c : Char) : Bool :=
  let n := c.toNat
  n == 0x0A || (0x20 ≤ n && n ≤ 0x7E)
    || (0xA0 ≤ n && n != 0xFEFF && n != 0xFFFE && n != 0xFFFF)

/-- A text that some reader of YAML takes for something else: an empty one, a word for null or a
boolean in any spelling, and all that could begin a number. -/
def isAmbiguous (text : String) : Bool :=
  text.toList.head?.all (fun c => c.isDigit || ['-', '.', '+'].contains c)
    || ["true", "false", "null", "~", "y", "yes", "n", "no", "on", "off"].contains
      (String.ofList (text.toList.map Char.toLower))

/-- An indicator that no plain text begins with. -/
def isLeadingIndicator (c : Char) : Bool := "#,[]\x7b\x7d&*!|>'\"%@\x60".toList.contains c

/-- A character that ends a plain text where it stands: a colon before a gap, and the mark of a
comment after one. `before` is the character in front, if there is one. -/
def endsPlain : Option Char → List Char → Bool
  | _, [] => false
  | before, c :: rest =>
    (c == ':' && isGapOrEnd rest.head?) || (c == '#' && isGapOrEnd before)
      || endsPlain (some c) rest

/-- The text cannot stand plain by its indicators. -/
def hasIndicator (cs : List Char) : Bool :=
  cs.take 3 == ['-', '-', '-'] || cs.take 3 == ['.', '.', '.']
    || cs.head?.any isLeadingIndicator
    || (cs.head?.any (fun c => c == '?' || c == '-') && isGapOrEnd cs[1]?)
    || endsPlain none cs

/-- A character of one class stands in front of one of another. -/
def hasPair (first second : Char → Bool) (cs : List Char) : Bool :=
  (cs.zip cs.tail).any fun p => first p.1 && second p.2

/-- The styles of texts. -/
inductive TextStyle where
  | plain
  | singleQuoted
  | doubleQuoted
  | literal
  deriving DecidableEq, Repr

/-- A literal block can hold the text. -/
def fitsLiteral (cs : List Char) : Bool :=
  cs.all isPrintable && cs.getLast? != some ' ' && !hasPair (· == ' ') isBreak cs

/-- Single quotes can hold the text. -/
def fitsSingleQuotes (cs : List Char) : Bool :=
  cs.all isPrintable && !hasPair (· == ' ') isBreak cs && !hasPair isBreak (· == ' ') cs

/-- The text can stand without quotes. -/
def fitsPlain (cs : List Char) : Bool :=
  cs.all isPrintable && !cs.any isBreak && cs.head? != some ' ' && cs.getLast? != some ' '
    && !hasIndicator cs

/-- The style in which a text is written. -/
def textStyle (text : String) : TextStyle :=
  let cs := text.toList
  if cs.contains '\n' then if fitsLiteral cs then .literal else .doubleQuoted
  else if !isAmbiguous text && fitsPlain cs then .plain
  else if fitsSingleQuotes cs then .singleQuoted
  else .doubleQuoted

/-! ### Texts -/

/-- The blanks in front of a line. -/
def margin (column : Nat) : List Char := List.replicate column ' '

/-- Lines with a margin; empty ones have none. `isStart` when the text begins a line. -/
def indented (column : Nat) : Bool → List Char → List Char
  | _, [] => []
  | isStart, c :: rest =>
    if isBreak c then c :: indented column true rest
    else (if isStart then margin column else []) ++ c :: indented column false rest

/-- Digits of a number in base sixteen, with zeros in front up to a width. -/
def hexDigits (width n : Nat) : List Char :=
  let ds := (Nat.toDigits 16 n).map Char.toUpper
  List.replicate (width - ds.length) '0' ++ ds

/-- A character inside double quotes. -/
def escape (c : Char) : List Char :=
  match c with
  | '\x00' => ['\\', '0']
  | '\x07' => ['\\', 'a']
  | '\x08' => ['\\', 'b']
  | '\t' => ['\\', 't']
  | '\n' => ['\\', 'n']
  | '\x0b' => ['\\', 'v']
  | '\x0c' => ['\\', 'f']
  | '\r' => ['\\', 'r']
  | '\x1b' => ['\\', 'e']
  | '"' => ['\\', '"']
  | '\\' => ['\\', '\\']
  | '\x85' => ['\\', 'N']
  | '\u2028' => ['\\', 'L']
  | '\u2029' => ['\\', 'P']
  | c =>
    let n := c.toNat
    if isPrintable c then [c]
    else if n ≤ 0xFF then '\\' :: 'x' :: hexDigits 2 n
    else if n ≤ 0xFFFF then '\\' :: 'u' :: hexDigits 4 n
    else '\\' :: 'U' :: hexDigits 8 n

/-- The head of a literal block: how wide its margin is, if its first line does not show it, and
what becomes of the breaks at its end. -/
def literalHead (cs : List Char) : List Char :=
  let width := if cs.head?.any (fun c => c == ' ' || isBreak c) then ['2'] else []
  let chomping :=
    match cs.reverse with
    | c :: rest => if !isBreak c then ['-'] else if rest.head?.all isBreak then ['+'] else []
    | [] => ['-']
  '|' :: width ++ chomping

/-- A text in its style; further lines of it stand at a column. The break after the last line of a
literal block is left to what follows. -/
def printText (column : Nat) (text : String) : String :=
  let cs := text.toList
  String.ofList <|
    match textStyle text with
    | .plain => cs
    | .singleQuoted =>
      let body := indented column false (cs.flatMap fun c => if c == '\'' then [c, c] else [c])
      let ending := if cs.getLast?.any isBreak then margin column else []
      '\'' :: body ++ ending ++ ['\'']
    | .doubleQuoted => '"' :: cs.flatMap escape ++ ['"']
    | .literal =>
      let lines := if cs.getLast? == some '\n' then cs.dropLast else cs
      literalHead cs ++ '\n' :: indented column true lines

/-! ### Values -/

/-- Blocks below each other at a column. -/
def stack (column : Nat) (blocks : List String) : String :=
  ("\n" ++ String.ofList (margin column)).intercalate blocks

/-- The column of a value that begins below its key; none if it stands on the line of the key. -/
def columnBelow (column : Nat) : Json → Option Nat
  | .arr (_ :: _) => some column
  | .obj (_ :: _) => some (column + 2)
  | _ => none

mutual

/-- A value whose first line stands at a column where the text already is. -/
def printAt (column : Nat) : Json → String
  | .arr items => if items.isEmpty then "[]" else stack column (printItems column items)
  | .obj members =>
    if members.isEmpty then "\x7b\x7d" else stack column (printMembers column members)
  | .str s => printText column s
  | .null => "null"
  | .bool true => "true"
  | .bool false => "false"
  | .int n => toString n
  | .float x => Json.decimalText x

def printItems (column : Nat) : List Json → List String
  | [] => []
  | v :: rest => ("- " ++ printAt (column + 2) v) :: printItems column rest

def printMembers (column : Nat) : Json.Fields → List String
  | [] => []
  | (k, v) :: rest =>
    let body :=
      match columnBelow column v with
      | some c => stack c ["", printAt c v]
      | none => " " ++ printAt (column + 2) v
    (printText column k ++ ":" ++ body) :: printMembers column rest

end

/-- A document. -/
def print (j : Json) : String := printAt 0 j ++ "\n"

end GatewayMigration.Yaml
