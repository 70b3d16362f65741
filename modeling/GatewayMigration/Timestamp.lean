import GatewayMigration.Decimal

/-!
# Timestamps

Instants in the notation of RFC 3339, to the second and in universal time when they are written.

## Main definitions

* `Timestamp`: a date and a time of day in universal time
* `Timestamp.ofText?`, `Timestamp.text`: reading and writing
-/

namespace GatewayMigration

/-- A date and a time of day in universal time; a leap second has the number sixty. -/
structure Timestamp where
  year : Int
  month : Nat
  day : Nat
  hour : Nat
  minute : Nat
  second : Nat
  deriving DecidableEq, Inhabited

namespace Timestamp

def isLeapYear (y : Int) : Bool := y % 4 == 0 && (y % 100 != 0 || y % 400 == 0)

def daysInMonth (y : Int) (m : Nat) : Nat :=
  if m = 2 then (if isLeapYear y then 29 else 28) else if m ∈ [4, 6, 9, 11] then 30 else 31

/-- The day before a date, if `forward` is false, or after it. -/
def neighbour (forward : Bool) (t : Timestamp) : Timestamp :=
  if forward then
    if t.day < daysInMonth t.year t.month then { t with day := t.day + 1 }
    else if t.month < 12 then { t with month := t.month + 1, day := 1 }
    else { t with year := t.year + 1, month := 1, day := 1 }
  else
    if 1 < t.day then { t with day := t.day - 1 }
    else if 1 < t.month then
      { t with month := t.month - 1, day := daysInMonth t.year (t.month - 1) }
    else { t with year := t.year - 1, month := 12, day := 31 }

/-- The instant of a local date and time that is `minutes` ahead of universal time. -/
def fromOffset (t : Timestamp) (minutes : Int) : Timestamp :=
  let ofDay : Int := t.hour * 60 + t.minute - minutes
  let t := if ofDay < 0 then t.neighbour false else if 1440 ≤ ofDay then t.neighbour true else t
  let ofDay := (ofDay % 1440).toNat
  { t with hour := ofDay / 60, minute := ofDay % 60 }

/-- Two digits as a number no greater than `limit`. -/
def twoDigits? (limit : Nat) (a b : Char) : Option Nat :=
  (natOfDigits? 10 [a, b]).filter (· ≤ limit)

/-- The offset from universal time, in minutes. -/
def offset? : List Char → Option Int
  | ['Z'] | ['z'] => some 0
  | [sign, a, b, ':', c, d] | [sign, a, b, c, d] => do
    let h ← twoDigits? 23 a b
    let m ← twoDigits? 59 c d
    match sign with
    | '+' => return (h * 60 + m : Int)
    | '-' => return -(h * 60 + m : Int)
    | _ => none
  | _ => none

/-- The digits of a fraction of a second, if there is a point, are passed over. -/
def skipFraction? : List Char → Option (List Char)
  | '.' :: c :: rest => if c.isDigit then some (rest.dropWhile Char.isDigit) else none
  | cs => some cs

/-- Read a date and a time of day with an offset from universal time. -/
def ofText? (s : String) : Option Timestamp :=
  match s.toList with
  | y₁ :: y₂ :: y₃ :: y₄ :: '-' :: m₁ :: m₂ :: '-' :: d₁ :: d₂ :: separator ::
      h₁ :: h₂ :: ':' :: n₁ :: n₂ :: ':' :: s₁ :: s₂ :: rest => do
    if separator ∉ ['T', 't', ' '] then
      none
    let year ← natOfDigits? 10 [y₁, y₂, y₃, y₄]
    let month ← (twoDigits? 12 m₁ m₂).filter (1 ≤ ·)
    let day ← (twoDigits? (daysInMonth year month) d₁ d₂).filter (1 ≤ ·)
    let hour ← twoDigits? 23 h₁ h₂
    let minute ← twoDigits? 59 n₁ n₂
    let second ← twoDigits? 60 s₁ s₂
    let offset ← (skipFraction? rest).bind offset?
    return fromOffset ⟨year, month, day, hour, minute, second⟩ offset
  | _ => none

/-- A number with zeros in front, up to a width. -/
def zeroPadded (w n : Nat) : String :=
  String.ofList (List.replicate (w - (Nat.toDigits 10 n).length) '0' ++ Nat.toDigits 10 n)

/-- The instant to the second, in universal time. -/
def text (t : Timestamp) : String :=
  (if t.year < 0 then "-" else "") ++ zeroPadded 4 t.year.natAbs ++ "-" ++ zeroPadded 2 t.month
    ++ "-" ++ zeroPadded 2 t.day ++ "T" ++ zeroPadded 2 t.hour ++ ":" ++ zeroPadded 2 t.minute
    ++ ":" ++ zeroPadded 2 t.second ++ "Z"

end Timestamp

end GatewayMigration
