import MessageQueue.Bytes

/-!
# Text as octets

Text leaves the program as UTF-8 and comes back as octets that need not be UTF-8.  `encode` and
`decode?` are the exact pair: `decode? bytes` is some text only when `bytes` is its encoding.
`decodeLossy` accepts all octets and puts the replacement character U+FFFD in place of each part
that is no character, one for each longest piece that begins some character.

The lossy reader is a machine that takes one octet at a time, so it recurses on the octets alone.
Between octets it knows how many more the current character owes and which octets may come next.
-/

namespace MessageQueue.Utf8

/-- The octets of a text. -/
def encode (text : String) : Bytes := text.toByteArray.data.toList

/-- The text whose encoding the octets are, if they are well formed. -/
def decode? (bytes : Bytes) : Option String := String.fromUTF8? ⟨bytes.toArray⟩

/-- Decoding gives back what was encoded. -/
theorem decode?_encode (text : String) : decode? (encode text) = some text := by
  simp [decode?, encode, String.fromUTF8?, text.isValidUTF8]
  rfl

/-- Octets that can be decoded are the encoding of what they decode to. -/
theorem encode_of_decode? {bytes : Bytes} {text : String} (decoded : decode? bytes = some text) :
    encode text = bytes := by
  unfold decode? String.fromUTF8? at decoded
  split at decoded
  · cases decoded
    rfl
  · cases decoded

theorem decode?_eq_some_iff (bytes : Bytes) (text : String) :
    decode? bytes = some text ↔ encode text = bytes :=
  ⟨encode_of_decode?, fun encoded => encoded ▸ decode?_encode text⟩

/-- Octets that cannot be decoded are the encoding of nothing. -/
theorem decode?_eq_none_iff (bytes : Bytes) :
    decode? bytes = none ↔ ∀ text, encode text ≠ bytes := by
  rw [Option.eq_none_iff_forall_ne_some]
  exact forall_congr' fun text => not_congr (decode?_eq_some_iff bytes text)

/-- What a character begun but not complete still owes. -/
structure Owed where
  /-- How many octets are missing. -/
  count : Nat
  /-- The least octet that may come next. -/
  least : Nat
  /-- The greatest octet that may come next. -/
  greatest : Nat
  /-- The bits read so far. -/
  bits : Nat
deriving DecidableEq, Repr

/-- The mark that stands for a piece that is no character. -/
def replacement : Char := '\uFFFD'

/-- What an octet begins: a character of its own, a longer one, or nothing. -/
inductive Beginning where
  | whole (c : Char)
  | longer (owed : Owed)
  | nothing

/-- Reads an octet that stands where a character may begin. -/
def beginning (b : Nat) : Beginning :=
  if b < 0x80 then .whole (Char.ofNat b)
  else if b < 0xC2 then .nothing
  else if b < 0xE0 then .longer ⟨1, 0x80, 0xBF, b - 0xC0⟩
  else if b = 0xE0 then .longer ⟨2, 0xA0, 0xBF, 0⟩
  else if b = 0xED then .longer ⟨2, 0x80, 0x9F, 0xD⟩
  else if b < 0xF0 then .longer ⟨2, 0x80, 0xBF, b - 0xE0⟩
  else if b = 0xF0 then .longer ⟨3, 0x90, 0xBF, 0⟩
  else if b < 0xF4 then .longer ⟨3, 0x80, 0xBF, b - 0xF0⟩
  else if b = 0xF4 then .longer ⟨3, 0x80, 0x8F, 4⟩
  else .nothing

/-- The reader between two octets. -/
structure Reader where
  /-- What the character being read still owes, if one has begun. -/
  pending : Option Owed
  /-- The characters read so far, last first. -/
  done : List Char

/-- Takes an octet where a character may begin. -/
def Reader.start (done : List Char) (b : Nat) : Reader :=
  match beginning b with
  | .whole c => ⟨none, c :: done⟩
  | .longer owed => ⟨some owed, done⟩
  | .nothing => ⟨none, replacement :: done⟩

/-- Takes one octet.  An octet that cannot continue the character begun ends it as broken and is
read again as a beginning. -/
def Reader.step (r : Reader) (byte : UInt8) : Reader :=
  let b := byte.toNat
  match r.pending with
  | none => Reader.start r.done b
  | some owed =>
    if owed.least ≤ b ∧ b ≤ owed.greatest then
      let bits := owed.bits * 64 + (b - 0x80)
      if owed.count ≤ 1 then ⟨none, Char.ofNat bits :: r.done⟩
      else ⟨some ⟨owed.count - 1, 0x80, 0xBF, bits⟩, r.done⟩
    else Reader.start (replacement :: r.done) b

/-- The characters once the octets have ended; a character still owed counts as broken. -/
def Reader.finish (r : Reader) : List Char :=
  match r.pending with
  | none => r.done.reverse
  | some _ => (replacement :: r.done).reverse

/-- The octets as text, with the replacement character for each broken piece. -/
def decodeLossy (bytes : Bytes) : String :=
  String.ofList (bytes.foldl Reader.step ⟨none, []⟩).finish

example :
    (([0x28, 0xC3, 0x28] : Bytes).foldl Reader.step ⟨none, []⟩).finish =
      ['(', replacement, '('] := by
  decide

example :
    (([0xE2, 0x82, 0x61] : Bytes).foldl Reader.step ⟨none, []⟩).finish = [replacement, 'a'] := by
  decide

end MessageQueue.Utf8
