import MessageQueue.Json.Basic
import MessageQueue.Bytes

/-!
# Reading JSON

The grammar is strict: no comments, no trailing commas, no leading zeros, no control characters
inside strings, and nothing but blanks around the value.  Strings and numbers recurse on the
characters.  Values inside values are read with a bound on the calls; every second call takes a
character away, so twice the length of the text always suffices.
-/

namespace MessageQueue.Json

/-- Whether a character may stand between the parts of a value. -/
def isBlank (c : Char) : Bool := c = ' ' || c = '\n' || c = '\t' || c = '\x0d'

/-- The text without blanks at its start. -/
def skipBlanks (text : List Char) : List Char := text.dropWhile isBlank

/-! ## Strings -/

/-- A string read up to some character. -/
structure StringScan where
  /-- The characters, last first. -/
  done : List Char
  /-- The first half of a surrogate pair, if the second must follow. -/
  half : Option Nat
  /-- Whether every half so far had its partner. -/
  sound : Bool

/-- Takes a character that is not written as a number. -/
def StringScan.push (s : StringScan) (c : Char) : StringScan :=
  ⟨c :: s.done, none, s.sound && s.half.isNone⟩

/-- Takes a character written as a number of 16 bits. -/
def StringScan.pushUnit (s : StringScan) (n : Nat) : StringScan :=
  if 0xDC00 ≤ n ∧ n < 0xE000 then
    match s.half with
    | some high =>
      ⟨Char.ofNat (0x10000 + (high - 0xD800) * 0x400 + (n - 0xDC00)) :: s.done, none, s.sound⟩
    | none => { s with sound := false }
  else if 0xD800 ≤ n ∧ n < 0xDC00 then ⟨s.done, some n, s.sound && s.half.isNone⟩
  else s.push (Char.ofNat n)

/-- The text of the string, or that it is none. -/
def StringScan.close (s : StringScan) : Option String :=
  if s.sound && s.half.isNone then some (String.ofList s.done.reverse) else none

/-- The character that an escape of one letter stands for. -/
def escaped? (c : Char) : Option Char :=
  if c = '"' ∨ c = '\\' ∨ c = '/' then some c
  else if c = 'b' then some '\x08'
  else if c = 'f' then some '\x0c'
  else if c = 'n' then some '\n'
  else if c = 'r' then some '\x0d'
  else if c = 't' then some '\t'
  else none

/-- Four hexadecimal digits as a number. -/
def unit? (a b c d : Char) : Option Nat :=
  match Bytes.hexValue? a, Bytes.hexValue? b, Bytes.hexValue? c, Bytes.hexValue? d with
  | some w, some x, some y, some z => some (4096 * w + 256 * x + 16 * y + z)
  | _, _, _, _ => none

/-- Reads the rest of a string behind its opening quote: what it spells, and what follows it. -/
def stringRest (s : StringScan) : List Char → Option (Option String × List Char)
  | [] => none
  | '"' :: rest => some (s.close, rest)
  | '\\' :: 'u' :: a :: b :: c :: d :: rest =>
    match unit? a b c d with
    | some n => stringRest (s.pushUnit n) rest
    | none => none
  | '\\' :: e :: rest =>
    match escaped? e with
    | some c => stringRest (s.push c) rest
    | none => none
  | c :: rest => if c.toNat < 0x20 ∨ c = '\\' then none else stringRest (s.push c) rest

/-- Reads a string behind its opening quote. -/
def string? (text : List Char) : Option (Option String × List Char) :=
  stringRest ⟨[], none, true⟩ text

/-! ## Numbers -/

/-- The fraction of a number: its digits behind the point, how many, and what follows. -/
def fraction? (whole : Nat) : List Char → Option (Nat × Nat × List Char)
  | '.' :: rest =>
    let (mantissa, count, rest) := Decimal.digits whole 0 rest
    if count = 0 then none else some (mantissa, count, rest)
  | rest => some (whole, 0, rest)

/-- The exponent of a number, and what follows; `none` stands for a broken one. -/
def exponent? : List Char → Option (Option Int × List Char)
  | e :: rest =>
    if e = 'e' ∨ e = 'E' then
      let (negative, rest) := Decimal.signed rest
      let (value, count, rest) := Decimal.digits 0 0 rest
      if count = 0 then none else some (some (if negative then -(value : Int) else value), rest)
    else some (none, e :: rest)
  | [] => some (none, [])

/-- Reads a number from its first digit on. -/
def unsigned? (negative : Bool) (text : List Char) : Option (Number × List Char) :=
  let (whole, count, rest) := Decimal.digits 0 0 text
  if count = 0 ∨ (1 < count ∧ text.head? = some '0') then none
  else match fraction? whole rest with
    | none => none
    | some (mantissa, places, rest) =>
      match exponent? rest with
      | none => none
      | some (exponent, rest) =>
        let plain := places = 0 ∧ exponent = none ∧ ¬(negative ∧ whole = 0)
        if plain then some (.integer (if negative then -(whole : Int) else whole), rest)
        else some (.decimal negative mantissa (exponent.getD 0 - places), rest)

/-- Reads a number. -/
def number? : List Char → Option (Number × List Char)
  | '-' :: rest => unsigned? true rest
  | chars => unsigned? false chars

/-! ## Values -/

/-- The object with these members, if all of its names are texts. -/
def ofMembers (members : List (Option String × Json)) : Json :=
  match members.mapM fun m => m.1.map fun name => (name, m.2) with
  | some members => object members
  | none => brokenText

mutual

/-- Reads a value: the value, and what follows it. -/
def value? : Nat → List Char → Option (Json × List Char)
  | 0, _ => none
  | fuel + 1, chars =>
    match skipBlanks chars with
    | 'n' :: 'u' :: 'l' :: 'l' :: rest => some (null, rest)
    | 't' :: 'r' :: 'u' :: 'e' :: rest => some (bool true, rest)
    | 'f' :: 'a' :: 'l' :: 's' :: 'e' :: rest => some (bool false, rest)
    | '"' :: rest =>
      match string? rest with
      | some (some s, rest) => some (.text s, rest)
      | some (none, rest) => some (brokenText, rest)
      | none => none
    | '[' :: rest =>
      match skipBlanks rest with
      | ']' :: rest => some (array [], rest)
      | rest => (items? fuel [] rest).map fun (items, rest) => (array items, rest)
    | '{' :: rest =>
      match skipBlanks rest with
      | '}' :: rest => some (object [], rest)
      | rest => (members? fuel [] rest).map fun (members, rest) => (ofMembers members, rest)
    | rest => (number? rest).map fun (n, rest) => (number n, rest)

/-- Reads the items of an array, at least one, up to the bracket; those read are kept reversed. -/
def items? : Nat → List Json → List Char → Option (List Json × List Char)
  | 0, _, _ => none
  | fuel + 1, done, chars =>
    match value? fuel chars with
    | none => none
    | some (item, rest) =>
      match skipBlanks rest with
      | ',' :: rest => items? fuel (item :: done) rest
      | ']' :: rest => some ((item :: done).reverse, rest)
      | _ => none

/-- Reads the members of an object, at least one, up to the brace; those read are kept reversed. -/
def members? :
    Nat → List (Option String × Json) → List Char → Option (List (Option String × Json) × List Char)
  | 0, _, _ => none
  | fuel + 1, done, chars =>
    match skipBlanks chars with
    | '"' :: rest =>
      match string? rest with
      | some (name, rest) =>
        match skipBlanks rest with
        | ':' :: rest =>
          match value? fuel rest with
          | none => none
          | some (item, rest) =>
            match skipBlanks rest with
            | ',' :: rest => members? fuel ((name, item) :: done) rest
            | '}' :: rest => some (((name, item) :: done).reverse, rest)
            | _ => none
        | _ => none
      | _ => none
    | _ => none

end

/-- Reads a JSON text. -/
def read? (text : String) : Option Json :=
  let chars := text.toList
  match value? (2 * chars.length + 2) chars with
  | some (value, rest) => if skipBlanks rest = [] then some value else none
  | none => none

end MessageQueue.Json
