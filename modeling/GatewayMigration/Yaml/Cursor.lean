/-!
# Places in a text

## Main definitions

* `Yaml.Cursor`: a place in a text, with what follows it
* `Yaml.Cursor.drop`, `Yaml.Cursor.newline`: move over characters, and over a line break
* `Yaml.isBlank`, `Yaml.isBreak`, `Yaml.isWordChar`: the classes of characters
-/

namespace GatewayMigration.Yaml

/-- A blank or a tab. -/
def isBlank (c : Char) : Bool := c == ' ' || c == '\t'

/-- A line break: carriage return, line feed, next line, line or paragraph separator. -/
def isBreak (c : Char) : Bool :=
  c == '\r' || c == '\n' || c == '\x85' || c == '\u2028' || c == '\u2029'

/-- A character that ends a word. -/
def isGap (c : Char) : Bool := isBlank c || isBreak c

/-- The text is at its end, or a word ends here. -/
def isGapOrEnd : Option Char → Bool
  | none => true
  | some c => isGap c

/-- A character of names: a letter or digit of ASCII, a dash or an underscore. -/
def isWordChar (c : Char) : Bool := c.isAlphanum || c == '-' || c == '_'

/-- A character that a text may hold. -/
def isAllowed (c : Char) : Bool :=
  let n := c.toNat
  n == 0x09 || n == 0x0A || n == 0x0D || (0x20 ≤ n && n ≤ 0x7E) || n == 0x85
    || (0xA0 ≤ n && n ≤ 0xD7FF) || (0xE000 ≤ n && n ≤ 0xFFFD) || 0x10000 ≤ n

/-- A place in a text. -/
structure Cursor where
  /-- How many characters the text has. -/
  size : Nat
  /-- What follows the place. -/
  rest : List Char
  /-- How many characters stand before it. -/
  index : Nat
  line : Nat
  column : Nat

namespace Cursor

/-- The start of a text. -/
def start (cs : List Char) : Cursor := ⟨cs.length, cs, 0, 0, 0⟩

/-- More steps than there are characters after the place, for a reader that takes one at each. -/
def steps (c : Cursor) : Nat := c.size - c.index + 1

/-- The next character. -/
def head? (c : Cursor) : Option Char := c.rest.head?

/-- The character `n` places further. -/
def at? (c : Cursor) (n : Nat) : Option Char := c.rest[n]?

/-- Move over characters of the same line. -/
def drop (c : Cursor) (n : Nat) : Cursor :=
  ⟨c.size, c.rest.drop n, c.index + n, c.line, c.column + n⟩

/-- The characters of the same line that pass a test, and the place after them. -/
def span (c : Cursor) (p : Char → Bool) : List Char × Cursor :=
  let cs := c.rest.takeWhile p
  (cs, c.drop cs.length)

/-- The place after the characters of the same line that pass a test. -/
def skip (c : Cursor) (p : Char → Bool) : Cursor := (c.span p).2

/-- Move over the line break that follows, if one does; the break comes with it. A line break is
read as a line feed, except a line or paragraph separator, which stays. -/
def newline (c : Cursor) : List Char × Cursor :=
  match c.rest with
  | '\r' :: '\n' :: rest => (['\n'], ⟨c.size, rest, c.index + 2, c.line + 1, 0⟩)
  | ch :: rest =>
    if isBreak ch then
      ([if ch == '\u2028' || ch == '\u2029' then ch else '\n'],
        ⟨c.size, rest, c.index + 1, c.line + 1, 0⟩)
    else ([], c)
  | [] => ([], c)

/-- The place after the rest of the line, before its break. -/
def skipLine (c : Cursor) : Cursor := c.skip fun ch => !isBreak ch

/-- The mark of the start or the end of a document stands here: three dashes or points at the
start of a line, with a word ending after them. -/
def isAtDocumentMark (mark : Char) (c : Cursor) : Bool :=
  c.column == 0 && c.rest.take 3 == [mark, mark, mark] && isGapOrEnd (c.at? 3)

/-- Either mark stands here. -/
def isAtAnyDocumentMark (c : Cursor) : Bool := c.isAtDocumentMark '-' || c.isAtDocumentMark '.'

end Cursor

end GatewayMigration.Yaml
