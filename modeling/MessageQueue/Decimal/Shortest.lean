import MessageQueue.Decimal.Binary64

/-!
# The shortest decimal that reads back

A positive number of the binary format stands for all reals that round to it: those up to half a
step away on either side, the ends included exactly if its mantissa is even.  Its shortest decimal
is the one with the fewest digits among those reals, and of several the nearest to the number.  The
search tries one digit, then two, up to seventeen, which always suffice.  For each count it looks at
the number's two neighbours on the grid of decimals with that many digits: if a point of the grid
lies among the reals, one of the neighbours does.
-/

namespace MessageQueue.Decimal

/-- Decimal digits, most significant first, and the power of ten their last one counts. -/
structure Digits where
  /-- The digits as a number. -/
  value : Nat
  /-- The power of ten of the last digit. -/
  exponent : Int
deriving DecidableEq, Repr

/-- A positive real written with a common denominator, with the two ends of what rounds to it. -/
structure Interval where
  value : Nat
  low : Nat
  high : Nat
  denominator : Nat
  /-- Whether the ends belong to it. -/
  closed : Bool

/-- What rounds to `mantissa * 2 ^ exponent`.  Below a power of two the numbers lie half as far
apart. -/
def Interval.of (mantissa : Nat) (exponent : Int) : Interval :=
  let below := if mantissa = Nat.pow 2 52 ∧ -1074 < exponent then 1 else 2
  let unit := if 0 ≤ exponent then Nat.pow 2 exponent.toNat else 1
  let denominator := if 0 ≤ exponent then 4 else 4 * Nat.pow 2 (-exponent).toNat
  { value := 4 * mantissa * unit
    low := (4 * mantissa - below) * unit
    high := (4 * mantissa + 2) * unit
    denominator
    closed := mantissa % 2 = 0 }

/-- Whether `digits * 10 ^ exponent` belongs to the interval. -/
def Interval.holds (i : Interval) (digits : Nat) (exponent : Int) : Bool :=
  let n :=
    if 0 ≤ exponent then digits * Nat.pow 10 exponent.toNat * i.denominator
      else digits * i.denominator
  let scale := if 0 ≤ exponent then 1 else Nat.pow 10 (-exponent).toNat
  if i.closed then i.low * scale ≤ n && n ≤ i.high * scale
    else i.low * scale < n && n < i.high * scale

/-- The number divided by `10 ^ exponent`, as a quotient. -/
def Interval.quotient (i : Interval) (exponent : Int) : Nat × Nat :=
  if 0 ≤ exponent then (i.value, i.denominator * Nat.pow 10 exponent.toNat)
  else (i.value * Nat.pow 10 (-exponent).toNat, i.denominator)

/-- The best decimal on the grid of one power of ten, if one reads back. -/
def Interval.onGrid? (i : Interval) (exponent : Int) : Option Digits :=
  let (n, d) := i.quotient exponent
  let below := n / d
  let nearer := roundQuotient n d
  let farther := if nearer = below then below + 1 else below
  if i.holds nearer exponent then some ⟨nearer, exponent⟩
  else if i.holds farther exponent then some ⟨farther, exponent⟩
  else none

/-- How many digits the whole part has when the number is divided by a power of ten that makes its
first digit the units digit: the exponent of its first digit. -/
def Interval.leading (i : Interval) : Int :=
  let guess : Int :=
    ((Nat.toDigits 10 i.value).length : Int) - (Nat.toDigits 10 i.denominator).length
  let (n, d) := i.quotient guess
  if n < d then guess - 1 else guess

/-- Tries grids from coarse to fine; `left` counts those still to try. -/
def Interval.search (i : Interval) (leading : Int) : Nat → Nat → Digits
  | 0, _ => ⟨0, 0⟩
  | left + 1, count =>
    match i.onGrid? (leading + 1 - count) with
    | some digits => digits
    | none => i.search leading left (count + 1)

/-- Drops zeros at the end of the digits. -/
def Digits.trim (value : Nat) (exponent : Int) : Nat → Digits
  | 0 => ⟨value, exponent⟩
  | fuel + 1 =>
    if value ≠ 0 ∧ value % 10 = 0 then Digits.trim (value / 10) (exponent + 1) fuel
      else ⟨value, exponent⟩

/-- The shortest decimal of a positive number of the format. -/
def shortest (mantissa : Nat) (exponent : Int) : Digits :=
  let i := Interval.of mantissa exponent
  let found := i.search i.leading 17 1
  Digits.trim found.value found.exponent 17

/-- The least number, one tenth, and one third. -/
example : shortest 1 (-1074) = ⟨5, -324⟩ ∧ shortest 0x1999999999999A (-56) = ⟨1, -1⟩ ∧
    shortest 0x15555555555555 (-54) = ⟨3333333333333333, -16⟩ := by decide +kernel

end MessageQueue.Decimal
