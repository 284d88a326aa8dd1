/-!
# Whole numbers in digits

A natural number is written in one digit or more, and a plus sign may stand in front.  An integer
may have either sign in front, so that zero can be written as `-0`.
-/

namespace MessageQueue.Decimal

/-- The number that digits write, if there are any and nothing else is there. -/
def ofDigits? (digits : List Char) : Option Nat :=
  if digits = [] ∨ !digits.all Char.isDigit then none
  else some (digits.foldl (fun n c => 10 * n + (c.toNat - '0'.toNat)) 0)

/-- The natural number that a text writes. -/
def natural? (text : String) : Option Nat :=
  match text.toList with
  | '+' :: digits => ofDigits? digits
  | digits => ofDigits? digits

/-- The integer that a text writes. -/
def integer? (text : String) : Option Int :=
  match text.toList with
  | '-' :: digits => (ofDigits? digits).map fun n => -(n : Int)
  | '+' :: digits => (ofDigits? digits).map Int.ofNat
  | digits => (ofDigits? digits).map Int.ofNat

end MessageQueue.Decimal
