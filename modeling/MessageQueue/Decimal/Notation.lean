import MessageQueue.Decimal.Shortest

/-!
# Writing and reading numbers as decimals

A number is written with its shortest decimal: positionally, with at least one digit on each side of
the point, from 10⁻⁴ up to below 10¹⁶, and otherwise with one digit before the point and an
exponent.  It is read from a sign, digits with an optional point, and an optional exponent, or from
the names of infinity and of no number in any case.
-/

namespace MessageQueue.Decimal

/-- A count of zeros. -/
def zeros (n : Nat) : List Char := List.replicate n '0'

/-- Digits written positionally, with at least one on each side of the point. -/
def positional (d : Digits) : List Char :=
  let ds := Nat.toDigits 10 d.value
  if 0 ≤ d.exponent then ds ++ zeros d.exponent.toNat ++ ['.', '0']
  else
    let places := (-d.exponent).toNat
    if places < ds.length then ds.take (ds.length - places) ++ '.' :: ds.drop (ds.length - places)
    else '0' :: '.' :: (zeros (places - ds.length) ++ ds)

/-- Digits written with one before the point and an exponent. -/
def withExponent (d : Digits) : List Char :=
  let ds := Nat.toDigits 10 d.value
  let exponent := d.exponent + (ds.length - 1 : Nat)
  ds.take 1 ++ (if 1 < ds.length then '.' :: ds.drop 1 else []) ++ 'e' :: (toString exponent).toList

/-- The text of a number taken apart. -/
def textOf : Binary64 → List Char
  | .nan => ['N', 'a', 'N']
  | .infinite negative => (if negative then ['-'] else []) ++ ['i', 'n', 'f']
  | .finite negative mantissa exponent =>
    let sign := if negative then ['-'] else []
    if mantissa = 0 then sign ++ ['0', '.', '0']
    else
      let d := shortest mantissa exponent
      let leading := d.exponent + ((Nat.toDigits 10 d.value).length : Int) - 1
      sign ++ if -4 ≤ leading ∧ leading < 16 then positional d else withExponent d

/-- The text of a number. -/
def text (x : Float) : String := String.ofList (textOf (Binary64.ofFloat x))

/-- The closest number to `mantissa * 10 ^ exponent`.  Exponents that no digits can make up for are
cut off before the power is computed. -/
def toFloat (negative : Bool) (mantissa : Nat) (exponent : Int) : Float :=
  let size : Int := (Nat.toDigits 10 mantissa).length
  if mantissa = 0 ∨ exponent + size < -400 then Binary64.nearest negative 0 1
  else if 400 < exponent + size then Binary64.nearest negative (Nat.pow 2 1024) 1
  else if 0 ≤ exponent then Binary64.nearest negative (mantissa * Nat.pow 10 exponent.toNat) 1
  else Binary64.nearest negative mantissa (Nat.pow 10 (-exponent).toNat)

/-- The digits at the start of a text: their number, how many there are, and what follows. -/
def digits (value count : Nat) : List Char → Nat × Nat × List Char
  | [] => (value, count, [])
  | c :: rest =>
    if c.isDigit then digits (10 * value + (c.toNat - '0'.toNat)) (count + 1) rest
      else (value, count, c :: rest)

/-- An exponent part at the end of a text: a letter, an optional sign and digits, or nothing. -/
def exponentPart : List Char → Option Int
  | [] => some 0
  | e :: rest =>
    if e = 'e' ∨ e = 'E' then
      let (negative, rest) := match rest with
        | '-' :: r => (true, r)
        | '+' :: r => (false, r)
        | r => (false, r)
      match digits 0 0 rest with
      | (value, count, []) =>
        if count = 0 then none else some (if negative then -(value : Int) else value)
      | _ => none
    else none

/-- An unsigned decimal: its mantissa and its exponent. -/
def unsigned? (text : List Char) : Option (Nat × Int) :=
  let (whole, before, rest) := digits 0 0 text
  let (mantissa, after, rest) := match rest with
    | '.' :: r => let (m, a, r) := digits whole 0 r; (m, a, r)
    | r => (whole, 0, r)
  if before + after = 0 then none
  else (exponentPart rest).map fun e => (mantissa, e - after)

/-- Lower case, for ASCII letters. -/
def lower (text : List Char) : List Char := text.map Char.toLower

/-- Reads an optional sign: whether it was a minus, and what follows. -/
def signed : List Char → Bool × List Char
  | '-' :: rest => (true, rest)
  | '+' :: rest => (false, rest)
  | rest => (false, rest)

/-- Reads a number. -/
def read? (text : String) : Option Float :=
  let (negative, rest) := signed text.toList
  let word := lower rest
  if word = ['i', 'n', 'f'] ∨ word = ['i', 'n', 'f', 'i', 'n', 'i', 't', 'y'] then
    some (Binary64.nearest negative (Nat.pow 2 1024) 1)
  else if word = ['n', 'a', 'n'] then some (0.0 / 0.0)
  else (unsigned? rest).map fun (mantissa, exponent) => toFloat negative mantissa exponent

end MessageQueue.Decimal
