import MessageQueue.Bytes

/-!
# References in text

An ampersand begins a reference, which ends at the next semicolon.  It is one of five names, or a
number sign and the number of a character in decimal or, behind a small `x`, in hexadecimal.
-/

namespace MessageQueue.Markup

/-- The digits of a number in a radix. -/
def numeral? (radix : Nat) (digits : List Char) : Option Nat :=
  digits.foldl (fun n c => n.bind fun n => (Bytes.hexValue? c).bind fun d =>
    if d < radix then some (radix * n + d) else none) (some 0)

/-- The character of a number; zero and the halves of surrogate pairs have none. -/
def character? (n : Nat) : Option Char :=
  if n = 0 ∨ (0xD800 ≤ n ∧ n ≤ 0xDFFF) ∨ 0x10FFFF < n then none else some (Char.ofNat n)

/-- The character that a reference stands for. -/
def referent? (name : List Char) : Option Char :=
  match name with
  | '#' :: 'x' :: digits => if 6 < digits.length then none else (numeral? 16 digits).bind character?
  | '#' :: digits => if 7 < digits.length then none else (numeral? 10 digits).bind character?
  | ['l', 't'] => some '<'
  | ['g', 't'] => some '>'
  | ['a', 'm', 'p'] => some '&'
  | ['a', 'p', 'o', 's'] => some '\x27'
  | ['q', 'u', 'o', 't'] => some '"'
  | _ => none

/-- Resolves the references of a text.  `done` is what has been resolved, and `name` the reference
being read, both last first. -/
def resolveFrom (done : List Char) (name : Option (List Char)) : List Char → Option (List Char)
  | [] => if name.isSome then none else some done.reverse
  | c :: rest =>
    match name with
    | none => if c = '&' then resolveFrom done (some []) rest else resolveFrom (c :: done) none rest
    | some n =>
      if c = ';' then
        match referent? n.reverse with
        | some r => resolveFrom (r :: done) none rest
        | none => none
      else if c = '&' then none
      else resolveFrom done (some (c :: n)) rest

/-- The text with its references resolved, if all of them stand for something. -/
def resolve (text : List Char) : Option (List Char) := resolveFrom [] none text

example : resolve "a&amp;&#x41;;&#66;".toList = some "a&A;B".toList := by cbv

example : resolve "a&b".toList = none := by cbv

end MessageQueue.Markup
