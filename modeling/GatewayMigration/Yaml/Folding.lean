import GatewayMigration.Decimal
import GatewayMigration.Yaml.Cursor

/-!
# Scalars over several lines

The texts of scalars. In plain and quoted scalars a single line break is read as a blank, and of
several breaks the first is dropped. Block scalars keep their lines or fold them, by their style.

## Main definitions

* `Yaml.Gap`: what separates two words of a scalar
* `Yaml.plainScalar?`, `Yaml.quotedScalar?`, `Yaml.blockScalar?`: the text of a scalar of each style
-/

namespace GatewayMigration.Yaml

/-! ### Gaps between words -/

/-- What separates two words of a scalar. -/
inductive Gap where
  | blanks (cs : List Char)
  /-- Line breaks: the first, and the others. -/
  | breaks (first others : List Char)

namespace Gap

def isBreaks : Gap → Bool
  | .blanks _ => false
  | .breaks _ _ => true

/-- How the gap is read: blanks stay, a single line feed is a blank, and of several breaks a line
feed in front is dropped. -/
def fold : Gap → List Char
  | .blanks cs => cs
  | .breaks ['\n'] [] => [' ']
  | .breaks ['\n'] others => others
  | .breaks first others => first ++ others

/-- Read the rest of a gap. With `tabLimit`, a tab that stands in a new line before that column is
refused. -/
def scan? (tabLimit : Option Nat) : Nat → Gap → Cursor → Option (Gap × Cursor)
  | 0, _, _ => none
  | fuel + 1, g, c =>
    match c.head? with
    | none => some (g, c)
    | some ch =>
      if isBlank ch then
        match g with
        | .blanks cs => scan? tabLimit fuel (.blanks (cs ++ [ch])) (c.drop 1)
        | .breaks .. =>
          if ch == '\t' && tabLimit.any (c.column < ·) then none
          else scan? tabLimit fuel g (c.drop 1)
      else if isBreak ch then
        let (b, c) := c.newline
        match g with
        | .blanks _ => scan? tabLimit fuel (.breaks b []) c
        | .breaks first others => scan? tabLimit fuel (.breaks first (others ++ b)) c
      else some (g, c)

end Gap

/-! ### Plain scalars -/

/-- An indicator that ends a plain scalar inside brackets. -/
def isFlowIndicator (c : Char) : Bool := [',', '[', ']', '\x7b', '\x7d'].contains c

/-- The word of a plain scalar that stands first. A colon ends it before a gap; inside brackets a
colon before an indicator is refused. -/
def plainWord? (inFlow : Bool) : List Char → Option (List Char)
  | [] => some []
  | c :: rest =>
    if isGap c then some []
    else if inFlow && c == ':' && rest.head?.any (fun d => d == '?' || isFlowIndicator d) then none
    else if c == ':' && isGapOrEnd rest.head? then some []
    else if inFlow && isFlowIndicator c then some []
    else (plainWord? inFlow rest).map (c :: ·)

/-- A plain scalar from a word on, with the gap before it: its text from that gap on, whether a new
line was begun after it, and the place after it. A gap at the end is dropped. -/
def plainWords? (inFlow : Bool) (indent : Nat) :
    Nat → Gap → Cursor → Option (List Char × Bool × Cursor)
  | 0, _, _ => none
  | fuel + 1, gap, c =>
    if c.isAtAnyDocumentMark || c.head? == some '#' then some ([], gap.isBreaks, c)
    else do
      let word ← plainWord? inFlow c.rest
      let (text, gap) := if word.isEmpty then ([], gap) else (gap.fold ++ word, .blanks [])
      let c := c.drop word.length
      if c.head?.any isGap then
        let (gap, c) ← gap.scan? (some indent) c.steps c
        if !inFlow && c.column < indent then some (text, gap.isBreaks, c)
        else
          let (more, newLine, c) ← plainWords? inFlow indent fuel gap c
          some (text ++ more, newLine, c)
      else some (text, gap.isBreaks, c)

/-- A plain scalar whose lines are indented by `indent` at least. -/
def plainScalar? (inFlow : Bool) (indent : Nat) (c : Cursor) :
    Option (List Char × Bool × Cursor) :=
  plainWords? inFlow indent c.steps (.blanks []) c

/-! ### Quoted scalars -/

/-- Where a word of a quoted scalar ends. -/
inductive WordEnd where
  | closing
  | gap
  /-- A line break that is escaped. -/
  | escapedBreak
  deriving DecidableEq

/-- A character by its number; halves of surrogate pairs and numbers beyond the last are none. -/
def charOf? (n : Nat) : Option Char :=
  if n.isValidChar then some (Char.ofNat n) else none

/-- The character that an escape of one letter stands for. -/
def escaped? : Char → Option Char
  | '0' => some '\x00'
  | 'a' => some '\x07'
  | 'b' => some '\x08'
  | 't' | '\t' => some '\t'
  | 'n' => some '\n'
  | 'v' => some '\x0b'
  | 'f' => some '\x0c'
  | 'r' => some '\r'
  | 'e' => some '\x1b'
  | ' ' => some ' '
  | '"' => some '"'
  | '/' => some '/'
  | '\\' => some '\\'
  | 'N' => some '\x85'
  | '_' => some '\xa0'
  | 'L' => some '\u2028'
  | 'P' => some '\u2029'
  | _ => none

/-- The word of a quoted scalar that stands first: its text, how many characters it takes, and
where it ends. -/
def quotedWord? (single : Bool) : List Char → Option (List Char × Nat × WordEnd)
  | [] => some ([], 0, .gap)
  | '\'' :: '\'' :: rest =>
    if single then (quotedWord? single rest).map fun (t, n, e) => ('\'' :: t, n + 2, e)
    else (quotedWord? single ('\'' :: rest)).map fun (t, n, e) => ('\'' :: t, n + 1, e)
  | '\\' :: rest =>
    if single then (quotedWord? single rest).map fun (t, n, e) => ('\\' :: t, n + 1, e)
    else
      let push (width : Nat) (ch : Option Char) (r : Option (List Char × Nat × WordEnd)) :
          Option (List Char × Nat × WordEnd) :=
        ch.bind fun ch => r.map fun (t, n, e) => (ch :: t, n + width, e)
      match rest with
      | 'x' :: a :: b :: rest =>
        push 4 ((natOfDigits? 16 [a, b]).bind charOf?) (quotedWord? single rest)
      | 'u' :: a :: b :: c :: d :: rest =>
        push 6 ((natOfDigits? 16 [a, b, c, d]).bind charOf?) (quotedWord? single rest)
      | 'U' :: a :: b :: c :: d :: a' :: b' :: c' :: d' :: rest =>
        push 10 ((natOfDigits? 16 [a, b, c, d, a', b', c', d']).bind charOf?)
          (quotedWord? single rest)
      | c :: rest =>
        if isBreak c then some ([], 0, .escapedBreak)
        else push 2 (escaped? c) (quotedWord? single rest)
      | [] => none
  | c :: rest =>
    if isGap c then some ([], 0, .gap)
    else if c == (if single then '\'' else '"') then some ([], 0, .closing)
    else (quotedWord? single rest).map fun (t, n, e) => (c :: t, n + 1, e)

/-- A quoted scalar from a word on: its text and the place after its closing quote. -/
def quotedWords? (single : Bool) : Nat → Cursor → Option (List Char × Cursor)
  | 0, _ => none
  | fuel + 1, c =>
    if c.isAtAnyDocumentMark || c.rest.isEmpty then none
    else do
      let (word, width, ending) ← quotedWord? single c.rest
      let c := c.drop width
      match ending with
      | .closing => some (word, c.drop 1)
      | .gap =>
        let (gap, c) ← Gap.scan? none c.steps (.blanks []) c
        let (more, c) ← quotedWords? single fuel c
        some (word ++ gap.fold ++ more, c)
      | .escapedBreak =>
        let c := (c.drop 1).newline.2
        let (gap, c) ← Gap.scan? none c.steps (.breaks [] []) c
        let (more, c) ← quotedWords? single fuel c
        some (word ++ gap.fold ++ more, c)

/-- A quoted scalar at its opening quote. -/
def quotedScalar? (single : Bool) (c : Cursor) : Option (List Char × Cursor) :=
  quotedWords? single c.steps (c.drop 1)

/-! ### Block scalars -/

/-- What becomes of the line breaks at the end of a block scalar. -/
inductive Chomping where
  | strip
  | clip
  | keep
  deriving DecidableEq

/-- The head of a block scalar after its indicator: chomping and the indentation it asks for, in
either order. -/
def blockHead? (c : Cursor) : Option (Chomping × Option Nat × Cursor) :=
  let chomping? : Option Char → Option Chomping
    | some '+' => some .keep
    | some '-' => some .strip
    | _ => none
  let increment? (c : Cursor) : Option (Option Nat × Cursor) :=
    match c.head? with
    | some d =>
      if d == '0' then none
      else if d.isDigit then some (digitValue? 10 d, c.drop 1)
      else some (none, c)
    | none => some (none, c)
  match chomping? c.head? with
  | some chomping => (increment? (c.drop 1)).map fun (n, c) => (chomping, n, c)
  | none =>
    (increment? c).map fun (n, c) =>
      match n, chomping? c.head? with
      | some _, some chomping => (chomping, n, c.drop 1)
      | _, _ => (.clip, n, c)

/-- The empty lines before a line of a block scalar: their breaks, the widest indentation among
them and the line, and the place of the line. Without an indentation that is known, a tab where
indentation is still possible is refused. -/
def blockBreaks? (indent : Option Nat) :
    Nat → List Char → Nat → Cursor → Option (List Char × Nat × Cursor)
  | 0, _, _, _ => none
  | fuel + 1, breaks, widest, c =>
    let room (c : Cursor) : Bool := indent.all (c.column < ·)
    let spaces := (c.rest.takeWhile (· == ' ')).length
    let c := c.drop (match indent with
      | none => spaces
      | some n => min spaces (n - c.column))
    let widest := max widest c.column
    if room c && c.head? == some '\t' then none
    else if c.head?.any isBreak then
      let (b, c) := c.newline
      blockBreaks? indent fuel (breaks ++ b) widest c
    else some (breaks, widest, c)

/-- What ends a block scalar: the break after its last line, and the breaks of empty lines. -/
structure BlockEnd where
  lineBreak : List Char
  empties : List Char
  cursor : Cursor

/-- The lines of a block scalar, with the break before the next line, the breaks of empty lines
after that, and whether the last line began with a blank. -/
def blockLines? (literal : Bool) (indent : Nat) :
    Nat → List Char → List Char → Bool → Cursor → Option (List Char × BlockEnd)
  | 0, _, _, _, _ => none
  | fuel + 1, lineBreak, empties, afterBlank, c =>
    if c.column == indent && !c.rest.isEmpty then do
      let blank := c.head?.any isBlank
      -- between two lines that do not begin with a blank, folding drops the first break
      let joint :=
        if !literal && lineBreak == ['\n'] && !afterBlank && !blank then
          if empties.isEmpty then [' '] else empties
        else lineBreak ++ empties
      let (line, c) := c.span fun ch => !isBreak ch
      let (lineBreak, c) := c.newline
      let (empties, _, c) ← blockBreaks? (some indent) c.steps [] 0 c
      let (more, ending) ← blockLines? literal indent fuel lineBreak empties blank c
      some (joint ++ line ++ more, ending)
    else some ([], ⟨lineBreak, empties, c⟩)

/-- A block scalar at its indicator, inside a block that is indented by `outer`: its text and the
place after it. -/
def blockScalar? (literal : Bool) (outer : Int) (c : Cursor) : Option (List Char × Cursor) := do
  let (chomping, increment, c) ← blockHead? (c.drop 1)
  let c := c.skip isBlank
  let c := if c.head? == some '#' then c.skipLine else c
  if !(c.head?.all isBreak) then
    none
  let c := c.newline.2
  -- an indentation that is asked for counts from the block around the scalar
  let given := increment.map fun n => if 0 ≤ outer then outer.toNat + n else n
  let (empties, widest, c) ← blockBreaks? given c.steps [] 0 c
  let indent := given.getD (max (max widest (outer + 1).toNat) 1)
  let (text, ending) ← blockLines? literal indent c.steps [] empties false c
  let tail :=
    match chomping with
    | .strip => []
    | .clip => ending.lineBreak
    | .keep => ending.lineBreak ++ ending.empties
  return (text ++ tail, ending.cursor)

end GatewayMigration.Yaml
