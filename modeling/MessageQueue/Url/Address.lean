import MessageQueue.Text.Fields
import MessageQueue.Bytes

/-!
# Numeric addresses

An IPv4 address is up to four numbers with full stops between them, each decimal, octal behind a `0`
or hexadecimal behind `0x`; the last one fills all octets that are left.  An IPv6 address is eight
groups of up to four hexadecimal digits with colons between them; one run of groups that are zero
may be left out, and the last two groups may be written as four decimal octets.
-/

namespace MessageQueue.Address

open MessageQueue.Text

/-! ## IPv4 -/

/-- A number in a radix, if all its digits are below the radix. -/
def numberIn? (radix : Nat) (text : List Char) : Option Nat :=
  text.foldl (fun n c => n.bind fun n => (Bytes.hexValue? c).bind fun d =>
    if d < radix then some (radix * n + d) else none) (some 0)

/-- One part of an address; no digits behind a mark of the radix stand for zero. -/
def part? : List Char → Option Nat
  | [] => none
  | ['0'] => some 0
  | '0' :: 'x' :: rest => numberIn? 16 rest
  | '0' :: 'X' :: rest => numberIn? 16 rest
  | '0' :: rest => numberIn? 8 rest
  | text => numberIn? 10 text

/-- The parts of a text between full stops, without an empty last one. -/
def parts (text : List Char) : List (List Char) :=
  let all := fields '.' text
  if 1 < all.length ∧ all.getLast? = some [] then all.dropLast else all

/-- Whether the last part of a name is a number, so that the name is meant as an address. -/
def endsInNumber (text : List Char) : Bool :=
  match (parts text).getLast? with
  | none => false
  | some last => (last ≠ [] && last.all Char.isDigit) || (part? last).isSome

/-- The address of its parts: all but the last are octets, and the last fills what is left. -/
def ofParts? (numbers : List Nat) : Option Nat :=
  match numbers.reverse with
  | [] => none
  | last :: others =>
    if 3 < others.length then none
    else if others.any (255 < ·) then none
    else if Nat.pow 256 (4 - others.length) ≤ last then none
    else
      let high := others.reverse.foldl (fun n o => 256 * n + o) 0
      some (high * Nat.pow 256 (4 - others.length) + last)

/-- Reads an IPv4 address. -/
def ipv4? (text : List Char) : Option Nat :=
  match (parts text).mapM part? with
  | none => none
  | some numbers => ofParts? numbers

/-- An IPv4 address as four decimal octets. -/
def ipv4Text (address : Nat) : List Char :=
  joined '.'
    ([Nat.pow 2 24, Nat.pow 2 16, Nat.pow 2 8, 1].map fun unit =>
      Nat.toDigits 10 (address / unit % 256))

/-! ## IPv6 -/

/-- A decimal octet without leading zeros. -/
def octet? (text : List Char) : Option Nat :=
  match text with
  | [] => none
  | ['0'] => some 0
  | '0' :: _ => none
  | _ => if text.length ≤ 3 ∧ text.all Char.isDigit then
      (numberIn? 10 text).bind fun n => if n ≤ 255 then some n else none
    else none

/-- Four decimal octets as two groups. -/
def octets? (text : List Char) : Option (List Nat) :=
  match (fields '.' text).mapM octet? with
  | some [a, b, c, d] => some [256 * a + b, 256 * c + d]
  | _ => none

/-- A group of one to four hexadecimal digits. -/
def group? (text : List Char) : Option Nat :=
  if text = [] ∨ 4 < text.length then none else numberIn? 16 text

/-- Groups with colons between them; the last may be two groups written as octets. -/
def groups? : List (List Char) → Option (List Nat)
  | [] => some []
  | [last] => if '.' ∈ last then octets? last else (group? last).map ([·])
  | text :: rest => (group? text).bind fun g => (groups? rest).map (g :: ·)

/-- What stands before and after the first two colons in a row. -/
def cutGap? : List Char → List Char → Option (List Char × List Char)
  | _, [] => none
  | before, ':' :: ':' :: rest => some (before.reverse, rest)
  | before, c :: rest => cutGap? (c :: before) rest

/-- Groups in part of an address; an empty part has none. -/
def run? (text : List Char) : Option (List Nat) :=
  if text = [] then some [] else groups? (fields ':' text)

/-- Reads an IPv6 address.  A gap stands for one group or more. -/
def ipv6? (text : List Char) : Option (List Nat) :=
  match cutGap? [] text with
  | none =>
    match run? text with
    | some groups => if groups.length = 8 then some groups else none
    | none => none
  | some (before, rest) =>
    if '.' ∈ before then none
    else match run? before, run? rest with
      | some front, some back =>
        if front.length + back.length < 8 then
          some (front ++ List.replicate (8 - front.length - back.length) 0 ++ back)
        else none
      | _, _ => none

/-- How many zeros stand at the start. -/
def zeroRun (groups : List Nat) : Nat := (groups.takeWhile (· = 0)).length

/-- The first longest run of zeros: where it begins and its length. -/
def longestRun : Nat → List Nat → Nat × Nat
  | _, [] => (0, 0)
  | i, g :: rest =>
    let later := longestRun (i + 1) rest
    let here := zeroRun (g :: rest)
    if later.2 ≤ here then (i, here) else later

/-- The groups in hexadecimal, with colons between them. -/
def groupText (groups : List Nat) : List Char := joined ':' (groups.map (Nat.toDigits 16))

/-- An IPv6 address, with its first longest run of two or more zero groups left out. -/
def ipv6Text (groups : List Nat) : List Char :=
  let (start, length) := longestRun 0 groups
  if length < 2 then groupText groups
  else groupText (groups.take start) ++ [':', ':'] ++ groupText (groups.drop (start + length))

example : ipv4? "0x7f.1".toList = some 0x7F000001 := by decide +kernel

example : ipv6? "1::2:0:3".toList = some [1, 0, 0, 0, 0, 2, 0, 3] := by cbv

end MessageQueue.Address
