/-!
# Punycode

A label of a domain name that holds characters beyond ASCII is written in ASCII alone: first its
ASCII characters, then a hyphen, then for each other character, in increasing order, how far the
place where it is inserted lies from the one before.  The distances are written in a mixed radix
with digits `a` to `z` and `0` to `9`, whose thresholds adapt to the distances seen so far.
-/

namespace MessageQueue.Punycode

/-- The radix of the digits. -/
def base : Nat := 36

/-- The threshold adapts after each distance: `points` characters have been written so far. -/
def adapt (delta points : Nat) (first : Bool) : Nat :=
  let delta := if first then delta / 700 else delta / 2
  let rec shrink (k delta : Nat) : Nat → Nat
    | 0 => k
    | fuel + 1 =>
      if 455 < delta then shrink (k + base) (delta / 35) fuel else k + 36 * delta / (delta + 38)
  shrink 0 (delta + delta / points) 64

/-- The threshold at a digit's place. -/
def threshold (k bias : Nat) : Nat := if k ≤ bias then 1 else min 26 (k - bias)

/-- The character of a digit. -/
def digitChar (d : Nat) : Char :=
  if d < 26 then Char.ofNat ('a'.toNat + d) else Char.ofNat ('0'.toNat + (d - 26))

/-- The digit a character stands for. -/
def digitOf? (c : Char) : Option Nat :=
  if 'a' ≤ c ∧ c ≤ 'z' then some (c.toNat - 'a'.toNat)
  else if 'A' ≤ c ∧ c ≤ 'Z' then some (c.toNat - 'A'.toNat)
  else if '0' ≤ c ∧ c ≤ '9' then some (c.toNat - '0'.toNat + 26)
  else none

/-- The digits of a distance. -/
def distance (bias : Nat) : Nat → Nat → Nat → List Char
  | 0, _, _ => []
  | fuel + 1, q, k =>
    let t := threshold k bias
    if q < t then [digitChar q]
    else digitChar (t + (q - t) % (base - t)) ::
      distance bias fuel ((q - t) / (base - t)) (k + base)

/-- What has been written so far. -/
structure Writer where
  delta : Nat
  bias : Nat
  /-- How many characters of the label are accounted for. -/
  handled : Nat
  /-- Whether no distance has been written yet. -/
  first : Bool
  /-- Digits written, last first. -/
  done : List Char

/-- Goes over the label once, to insert every occurrence of the character `n`. -/
def Writer.pass (n : Nat) (w : Writer) : List Nat → Writer
  | [] => w
  | c :: rest =>
    if c < n then Writer.pass n { w with delta := w.delta + 1 } rest
    else if c = n then
      let digits := distance w.bias 64 w.delta base
      Writer.pass n
        { delta := 0, bias := adapt w.delta (w.handled + 1) w.first, handled := w.handled + 1,
          first := false, done := digits.reverse ++ w.done } rest
    else Writer.pass n w rest

/-- Inserts the characters beyond ASCII in increasing order; each round handles at least one. -/
def Writer.rounds (label : List Nat) : Nat → Nat → Writer → Writer
  | 0, _, w => w
  | fuel + 1, n, w =>
    match (label.filter (n ≤ ·)).min? with
    | none => w
    | some m =>
      let w := { w with delta := w.delta + (m - n) * (w.handled + 1) }
      let w := w.pass m label
      Writer.rounds label fuel (m + 1) { w with delta := w.delta + 1 }

/-- The label in ASCII. -/
def encode (label : List Char) : List Char :=
  let ascii := label.filter (·.toNat < 128)
  let start := if ascii.isEmpty then [] else ascii ++ ['-']
  let w := Writer.rounds (label.map Char.toNat) label.length 128
    ⟨0, 72, ascii.length, true, []⟩
  start ++ w.done.reverse

/-- Reads the digits of one distance: its value and what follows. -/
def readDistance (bias : Nat) : List Char → Nat → Nat → Nat → Option (Nat × List Char)
  | [], _, _, _ => none
  | c :: rest, i, weight, k =>
    match digitOf? c with
    | none => none
    | some d =>
      let i := i + d * weight
      let t := threshold k bias
      if Nat.pow 2 32 ≤ i then none
      else if d < t then some (i, rest)
      else readDistance bias rest i (weight * (base - t)) (k + base)

/-- Inserts the characters the digits describe into the label. -/
def insertAll : Nat → List Char → Nat → Nat → Nat → Bool → List Char → Option (List Char)
  | _, [], _, _, _, _, label => some label
  | 0, _ :: _, _, _, _, _, _ => none
  | fuel + 1, text@(_ :: _), n, i, bias, first, label =>
    match readDistance bias text i 1 base with
    | none => none
    | some (j, rest) =>
      let points := label.length + 1
      let n := n + j / points
      let place := j % points
      if 0x10FFFF < n ∨ (0xD800 ≤ n ∧ n ≤ 0xDFFF) then none
      else
        insertAll fuel rest n (place + 1) (adapt (j - i) points first) false
          (label.take place ++ Char.ofNat n :: label.drop place)

/-- The label whose ASCII form this is. -/
def decode? (text : List Char) : Option (List Char) :=
  let back := text.reverse
  let digits := (back.takeWhile (· ≠ '-')).reverse
  let ascii := ((back.dropWhile (· ≠ '-')).drop 1).reverse
  insertAll digits.length digits 128 0 72 true ascii

end MessageQueue.Punycode
