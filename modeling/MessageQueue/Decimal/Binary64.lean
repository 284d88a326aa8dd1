/-!
# Numbers in binary floating point

A number in the 64-bit binary format is an integer of at most 53 bits times a power of two, or a
sign with infinity, or no number at all.  This module takes such a number apart and goes the other
way: `nearest` rounds a quotient of two naturals to the closest number of the format, and to the
even one of two that are equally close.
-/

namespace MessageQueue

/-- A number of the 64-bit binary format, taken apart. -/
inductive Binary64 where
  /-- No number. -/
  | nan
  /-- Beyond every number, on one side. -/
  | infinite (negative : Bool)
  /-- `mantissa * 2 ^ exponent`, negated if `negative`. -/
  | finite (negative : Bool) (mantissa : Nat) (exponent : Int)
deriving DecidableEq, Repr

/-- The quotient of two naturals rounded to the nearest natural, a half to the even one. -/
def roundQuotient (numerator denominator : Nat) : Nat :=
  let whole := numerator / denominator
  let rest := numerator % denominator
  if 2 * rest < denominator then whole
  else if denominator < 2 * rest then whole + 1
  else whole + whole % 2

/-- A half goes to the even neighbour. -/
example : (roundQuotient 5 2, roundQuotient 7 2, roundQuotient 8 3) = (2, 4, 3) := by decide

namespace Binary64

/-- Takes a bit pattern apart: a sign bit, eleven bits of exponent, fifty-two bits of mantissa. -/
def ofBits (bits : Nat) : Binary64 :=
  let negative := Nat.pow 2 63 ≤ bits
  let field : Nat := bits / Nat.pow 2 52 % Nat.pow 2 11
  let fraction : Nat := bits % Nat.pow 2 52
  if field = 2047 then if fraction = 0 then .infinite negative else .nan
  else if field = 0 then .finite negative fraction (-1074)
  else .finite negative (Nat.pow 2 52 + fraction) ((field : Int) - 1075)

/-- A number taken apart. -/
def ofFloat (x : Float) : Binary64 := ofBits x.toBits.toNat

/-- `n * 2 ^ e / d` as a quotient of naturals. -/
def scaled (n d : Nat) (e : Int) : Nat × Nat :=
  if 0 ≤ e then (n * Nat.pow 2 e.toNat, d) else (n, d * Nat.pow 2 (-e).toNat)

/-- The exponent that leaves a mantissa of 53 bits, or the least one of the format. -/
def exponentOf (numerator denominator : Nat) : Int :=
  let guess : Int := (numerator.log2 : Int) - denominator.log2
  let (n, d) := scaled numerator denominator (-guess)
  let magnitude := if n < d then guess - 1 else guess
  max (magnitude - 52) (-1074)

/-- The bit pattern of the closest number to a quotient of naturals; the denominator is positive. -/
def nearestBits (negative : Bool) (numerator denominator : Nat) : Nat :=
  let sign := if negative then Nat.pow 2 63 else 0
  if numerator = 0 then sign
  else
    let e := exponentOf numerator denominator
    let (n, d) := scaled numerator denominator (-e)
    let mantissa := roundQuotient n d
    let magnitude :=
      if mantissa < Nat.pow 2 52 then mantissa
        else (e + 1075).toNat * Nat.pow 2 52 + (mantissa - Nat.pow 2 52)
    sign + min magnitude (2047 * Nat.pow 2 52)

/-- The closest number to a quotient of naturals, with a sign. -/
def nearest (negative : Bool) (numerator denominator : Nat) : Float :=
  Float.ofBits (UInt64.ofNat (nearestBits negative numerator denominator))

/-- One tenth, one third and the least number of all. -/
example : nearestBits false 1 10 = 0x3FB999999999999A ∧ nearestBits false 1 3 = 0x3FD5555555555555 ∧
    nearestBits false 1 (Nat.pow 2 1074) = 1 ∧ nearestBits true 0 1 = Nat.pow 2 63 ∧
    nearestBits false (Nat.pow 2 1024) 1 = 0x7FF0000000000000 := by decide +kernel

end Binary64
end MessageQueue
