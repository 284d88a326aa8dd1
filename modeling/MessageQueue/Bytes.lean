/-!
# Octets

A message body and everything that is hashed is a list of octets.  The module also writes and reads
octets as pairs of hexadecimal digits, the form in which digests appear in headers.
-/

namespace MessageQueue

/-- A sequence of octets. -/
abbrev Bytes := List UInt8

namespace Bytes

/-- The lower case hexadecimal digit of a number below sixteen. -/
def hexDigit (n : Nat) : Char :=
  if n < 10 then Char.ofNat ('0'.toNat + n) else Char.ofNat ('a'.toNat + (n - 10))

/-- The number a hexadecimal digit of either case stands for. -/
def hexValue? (c : Char) : Option Nat :=
  if '0' ≤ c ∧ c ≤ '9' then some (c.toNat - '0'.toNat)
  else if 'a' ≤ c ∧ c ≤ 'f' then some (c.toNat - 'a'.toNat + 10)
  else if 'A' ≤ c ∧ c ≤ 'F' then some (c.toNat - 'A'.toNat + 10)
  else none

/-- The two lower case digits of an octet. -/
def hexPair (b : UInt8) : List Char := [hexDigit (b.toNat / 16), hexDigit (b.toNat % 16)]

/-- Octets written as lower case hexadecimal digits, two to an octet. -/
def toHex (bytes : Bytes) : String := String.ofList (bytes.flatMap hexPair)

/-- Reads pairs of hexadecimal digits, keeping what is read so far reversed. -/
def ofHexFrom (done : Bytes) : List Char → Option Bytes
  | [] => some done.reverse
  | [_] => none
  | high :: low :: rest =>
    match hexValue? high, hexValue? low with
    | some h, some l => ofHexFrom (UInt8.ofNat (16 * h + l) :: done) rest
    | _, _ => none

/-- Octets read from pairs of hexadecimal digits; `none` for any other text. -/
def ofHex? (text : String) : Option Bytes := ofHexFrom [] text.toList

theorem hexValue?_hexDigit {n : Nat} (h : n < 16) : hexValue? (hexDigit n) = some n := by
  have cases : n = 0 ∨ n = 1 ∨ n = 2 ∨ n = 3 ∨ n = 4 ∨ n = 5 ∨ n = 6 ∨ n = 7 ∨ n = 8 ∨ n = 9 ∨
      n = 10 ∨ n = 11 ∨ n = 12 ∨ n = 13 ∨ n = 14 ∨ n = 15 := by omega
  rcases cases with rfl | rfl | rfl | rfl | rfl | rfl | rfl | rfl | rfl | rfl | rfl | rfl | rfl |
    rfl | rfl | rfl <;> decide

/-- An octet is two digits long. -/
theorem length_hexPair (b : UInt8) : (hexPair b).length = 2 := rfl

end Bytes
end MessageQueue
