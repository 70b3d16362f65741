/-!
# Decimal numerals and double precision

A numeral is read as an exact decimal and then rounded to double precision. A rounded number is
kept as the shortest decimal that rounds to it, so two numerals of one double have one form. All
arithmetic is on natural numbers.

## Main definitions

* `Decimal`: a signed decimal, coefficient times a power of ten
* `Numeral`: the parts of a written number
* `Decimal.round? d`: the shortest decimal of the double nearest to `d`, `none` beyond the largest
* `Decimal.positional d`: the digits of `d`, never with an exponent
-/

namespace GatewayMigration

/-- A signed decimal: `coefficient * 10 ^ exponent`. -/
structure Decimal where
  negative : Bool
  coefficient : Nat
  exponent : Int
  deriving DecidableEq, Inhabited, Repr

/-- The parts of a written number: sign, digits before and after the point, and power of ten. -/
structure Numeral where
  negative : Bool
  whole : List Char
  /-- The digits after the point; `none` when there is no point. -/
  fraction : Option (List Char)
  /-- The power of ten; `none` when it is not written. -/
  exponent : Option Int
  deriving DecidableEq, Inhabited, Repr

/-- The value of a digit in a base up to sixteen. -/
def digitValue? (base : Nat) (c : Char) : Option Nat :=
  let v :=
    if '0' ≤ c ∧ c ≤ '9' then c.toNat - '0'.toNat
    else if 'a' ≤ c ∧ c ≤ 'f' then c.toNat - 'a'.toNat + 10
    else if 'A' ≤ c ∧ c ≤ 'F' then c.toNat - 'A'.toNat + 10
    else base
  if v < base then some v else none

/-- The number that digits write in a base; `none` for no digits or a character that is none. -/
def natOfDigits? (base : Nat) : List Char → Option Nat
  | [] => none
  | cs => cs.foldlM (fun n c => (digitValue? base c).map (n * base + ·)) 0

/-- The number that decimal digits write; other characters count as zero. -/
def natOfDecimalDigits (cs : List Char) : Nat :=
  cs.foldl (fun n c => n * 10 + (digitValue? 10 c).getD 0) 0

namespace Numeral

/-- The digits that stand first, at least one. -/
def digits? (cs : List Char) : Option (List Char × List Char) :=
  let ds := cs.takeWhile Char.isDigit
  if ds.isEmpty then none else some (ds, cs.drop ds.length)

/-- The power of ten after its letter. -/
def powerOfTen? : List Char → Option (Int × List Char)
  | '+' :: cs => (digits? cs).map fun r => (natOfDecimalDigits r.1, r.2)
  | '-' :: cs => (digits? cs).map fun r => (-(natOfDecimalDigits r.1 : Int), r.2)
  | cs => (digits? cs).map fun r => (natOfDecimalDigits r.1, r.2)

/-- Neither a point nor a power of ten is written. -/
def isWhole (n : Numeral) : Bool := n.fraction.isNone && n.exponent.isNone

/-- The exact value of a numeral. -/
def toDecimal (n : Numeral) : Decimal :=
  let fraction := n.fraction.getD []
  { negative := n.negative
    coefficient := natOfDecimalDigits (n.whole ++ fraction)
    exponent := n.exponent.getD 0 - fraction.length }

/-- The value of a whole numeral. -/
def toInt (n : Numeral) : Int :=
  let v : Int := natOfDecimalDigits n.whole
  if n.negative then -v else v

end Numeral

namespace Decimal

/-- How many digits a number has; zero has one. -/
def digitCount (n : Nat) : Nat := (Nat.toDigits 10 n).length

/-- The quotient rounded to nearest, a half to the even neighbour. -/
def roundDiv (num den : Nat) : Nat :=
  let q := num / den
  let r := num % den
  if 2 * r < den then q else if den < 2 * r then q + 1 else q + q % 2

/-- A positive double: `significand * 2 ^ exponent`. -/
structure Double where
  significand : Nat
  exponent : Int
  deriving DecidableEq, Repr

/-- The double nearest to `num / den`, its exponent not bounded above. -/
def nearestDouble (num den : Nat) : Double :=
  let scaled (q : Int) : Nat × Nat := (num * Nat.pow 2 (-q).toNat, den * Nat.pow 2 q.toNat)
  let low : Int := max ((Nat.log2 num : Int) - Nat.log2 den - 53) (-1074)
  let q : Int := if Nat.pow 2 53 ≤ (scaled low).1 / (scaled low).2 then low + 1 else low
  let m := roundDiv (scaled q).1 (scaled q).2
  if m = Nat.pow 2 53 then ⟨Nat.pow 2 52, q + 1⟩ else ⟨m, q⟩

namespace Double

/-- A point of the grid of step `10 ^ e` that rounds to the double, the nearest if there are two:
`lo` and `hi` bound what rounds to it, over the denominator `den`. -/
def gridPoint? (x : Double) (e : Int) : Option Nat :=
  -- all four bounds are scaled by four, so that half and quarter steps are whole
  let up := Nat.pow 2 x.exponent.toNat * Nat.pow 10 (-e).toNat
  let den := 4 * Nat.pow 2 (-x.exponent).toNat * Nat.pow 10 e.toNat
  let value := 4 * x.significand * up
  -- below a power of two the doubles are twice as dense
  let below := if x.significand = Nat.pow 2 52 ∧ -1074 < x.exponent then 1 else 2
  let lo := (4 * x.significand - below) * up
  let hi := (4 * x.significand + 2) * up
  let inside (n : Nat) : Bool :=
    if x.significand % 2 = 0 then lo ≤ n * den ∧ n * den ≤ hi else lo < n * den ∧ n * den < hi
  let floor := value / den
  match inside floor && floor != 0, inside (floor + 1) with
  | true, true => some (roundDiv value den)
  | true, false => some floor
  | false, true => some (floor + 1)
  | false, false => none

/-- The shortest decimal that rounds to the double, searched from the coarsest of `steps` grids
that starts at `10 ^ e`. -/
def shortest (x : Double) : Nat → Int → Nat × Int
  | 0, e => (0, e)
  | steps + 1, e =>
    match x.gridPoint? e with
    | some n => (n, e)
    | none => shortest x steps (e - 1)

end Double

/-- Move trailing zeros of a coefficient into the exponent. -/
def stripZeros : Nat → Nat → Int → Nat × Int
  | 0, n, e => (n, e)
  | fuel + 1, n, e => if n ≠ 0 ∧ n % 10 = 0 then stripZeros fuel (n / 10) (e + 1) else (n, e)

/-- The shortest decimal of the double nearest to a decimal; `none` if that is infinite. -/
def round? (d : Decimal) : Option Decimal :=
  let magnitude : Int := digitCount d.coefficient + d.exponent
  if d.coefficient = 0 ∨ magnitude < -330 then
    some ⟨d.negative, 0, 0⟩
  else if 310 < magnitude then
    none
  else
    let x := nearestDouble (d.coefficient * Nat.pow 10 d.exponent.toNat)
      (Nat.pow 10 (-d.exponent).toNat)
    if x.significand = 0 then
      some ⟨d.negative, 0, 0⟩
    else if 971 < x.exponent then
      none
    else
      let (n, e) := x.shortest 24 (magnitude + 1)
      let (n, e) := stripZeros 20 n e
      some ⟨d.negative, n, e⟩

/-- The digits of a decimal with a point where one is needed, never with an exponent. -/
def positional (d : Decimal) : String :=
  let digits := Nat.toDigits 10 d.coefficient
  let text :=
    if 0 ≤ d.exponent then
      if d.coefficient = 0 then ['0'] else digits ++ List.replicate d.exponent.toNat '0'
    else
      let places := (-d.exponent).toNat
      let padded := List.replicate (places + 1 - digits.length) '0' ++ digits
      padded.take (padded.length - places) ++ '.' :: padded.drop (padded.length - places)
  String.ofList (if d.negative then '-' :: text else text)

end Decimal

end GatewayMigration
