import GatewayMigration.Json

/-!
# Values of YAML scalars

The text of a plain scalar is read as null, a boolean, an integer, a number or a string, whichever
is the first that it writes. A quoted scalar is a string. One of the standard tags asks for a type.

## Main definitions

* `Yaml.plainValue?`: the value of a plain scalar
* `Yaml.scalarValue?`: the value of a scalar with its tag
-/

namespace GatewayMigration.Yaml

/-- The words for null. -/
def isNullWord (text : String) : Bool := ["~", "null", "Null", "NULL"].contains text

/-- The boolean that a word stands for. -/
def boolOf? (text : String) : Option Bool :=
  if ["true", "True", "TRUE"].contains text then some true
  else if ["false", "False", "FALSE"].contains text then some false
  else none

/-- A sign in front of a number, and what follows it. -/
def splitSign : List Char → Bool × List Char
  | '-' :: cs => (true, cs)
  | '+' :: cs => (false, cs)
  | cs => (false, cs)

/-- Several digits with a zero in front, which write no decimal number. -/
def isZeroPadded (digits : List Char) : Bool :=
  1 < digits.length && digits.head? == some '0' && digits.all Char.isDigit

/-- The magnitude of an integer without its sign. -/
def magnitude? : List Char → Option Nat
  | '0' :: 'x' :: digits => natOfDigits? 16 digits
  | '0' :: 'o' :: digits => natOfDigits? 8 digits
  | '0' :: 'b' :: digits => natOfDigits? 2 digits
  | digits => if isZeroPadded digits then none else natOfDigits? 10 digits

/-- The integer that a text writes, if it fits 128 bits. -/
def intOf? (cs : List Char) : Option Int := do
  let (negative, cs) := splitSign cs
  let n ← magnitude? cs
  if negative then
    if n ≤ Nat.pow 2 127 then some (-(n : Int)) else none
  else if n < Nat.pow 2 128 then some n
  else none

/-- The integer fits 64 bits, with or without a sign. -/
def fitsWord (n : Int) : Bool := -9223372036854775808 ≤ n && n ≤ 18446744073709551615

/-- A number with or without a point and a power of ten; a digit has to stand on one side of the
point. -/
def numeralOf? (cs : List Char) : Option Numeral := do
  let (negative, cs) := splitSign cs
  let (whole, cs) := (cs.takeWhile Char.isDigit, cs.dropWhile Char.isDigit)
  let (fraction, cs) := match cs with
    | '.' :: rest => (some (rest.takeWhile Char.isDigit), rest.dropWhile Char.isDigit)
    | _ => (none, cs)
  if whole.isEmpty && (fraction.getD []).isEmpty then
    none
  match cs with
  | [] => some ⟨negative, whole, fraction, none⟩
  | 'e' :: rest | 'E' :: rest => do
    let (power, []) ← Numeral.powerOfTen? rest | none
    some ⟨negative, whole, fraction, some power⟩
  | _ => none

/-- The words for infinity, with or without a sign, and for no number. -/
def isNonFinite (text : String) : Bool :=
  [".inf", ".Inf", ".INF"].contains (String.ofList (splitSign text.toList).2)
    || [".nan", ".NaN", ".NAN"].contains text

/-- The number that a text writes; one that is not finite is null. -/
def numberOf? (text : String) : Option Json :=
  if isNonFinite text then some .null
  else ((numeralOf? text.toList).bind fun n => n.toDecimal.round?).map .float

/-- The value of a plain scalar; none for an integer that does not fit 64 bits but fits 128. -/
def plainValue? (text : String) : Option Json :=
  if text.isEmpty || isNullWord text then some .null
  -- a boolean, else an integer, else a number, else a string
  else match boolOf? text with
  | some b => some (.bool b)
  | none =>
    match intOf? text.toList with
    | some n => if fitsWord n then some (.int n) else none
    | none =>
      if isZeroPadded (splitSign text.toList).2 then some (.str text)
      else some ((numberOf? text).getD (.str text))

/-- A local tag, which only some application knows, begins with an exclamation mark. -/
def isLocalTag (tag : String) : Bool := tag.toList.head? == some '!'

/-- The value of a scalar. A standard tag asks for a type, of which the text has to be; any other
asks for a string. A local tag is refused. -/
def scalarValue? (tag : Option String) (text : String) (isPlain : Bool) : Option Json :=
  match tag with
  | none => if isPlain then plainValue? text else some (.str text)
  | some "tag:yaml.org,2002:null" => if isNullWord text then some .null else none
  | some "tag:yaml.org,2002:bool" => (boolOf? text).map .bool
  | some "tag:yaml.org,2002:int" => ((intOf? text.toList).filter fitsWord).map .int
  | some "tag:yaml.org,2002:float" => numberOf? text
  | some tag => if isLocalTag tag then none else some (.str text)

end GatewayMigration.Yaml
