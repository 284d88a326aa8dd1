import MessageQueue.Markup.Reference
import Mathlib.Data.List.Basic

/-!
# Texts and their references

A character of a text is written as itself or as a reference: by one of five names, or by its number
in decimal or hexadecimal digits.  Only an ampersand and an opening angle bracket cannot be written
as themselves.  However the characters are written, resolving the references gives them back
(`Spelled.resolve_write`), as long as no number has more digits than the greatest number of a
character needs.  A longer one, with zeros in front, is not read.
-/

namespace MessageQueue.Markup

/-! ## Ways to write a character -/

/-- The characters with a reference by name. -/
inductive Entity where
  | less
  | greater
  | ampersand
  | apostrophe
  | quotation

/-- The name by which a reference is made. -/
def Entity.name : Entity → List Char
  | less => ['l', 't']
  | greater => ['g', 't']
  | ampersand => ['a', 'm', 'p']
  | apostrophe => ['a', 'p', 'o', 's']
  | quotation => ['q', 'u', 'o', 't']

/-- The character that is meant. -/
def Entity.char : Entity → Char
  | less => '<'
  | greater => '>'
  | ampersand => '&'
  | apostrophe => '\x27'
  | quotation => '"'

/-- Digits of a radix write a number, perhaps with zeros in front. -/
def Writes (radix : Nat) (digits : List Char) (n : Nat) : Prop :=
  ∃ values : List Nat, digits.map Bytes.hexValue? = values.map some ∧ (∀ d ∈ values, d < radix) ∧
    values.foldl (fun n d => radix * n + d) 0 = n

/-- A character as it is written. -/
inductive Letter where
  | plain (c : Char) (ordinary : c ≠ '&' ∧ c ≠ '<')
  | named (entity : Entity)
  | decimal (c : Char) (digits : List Char) (number : Writes 10 digits c.toNat)
      (positive : 0 < c.toNat)
  | hexadecimal (c : Char) (digits : List Char) (number : Writes 16 digits c.toNat)
      (positive : 0 < c.toNat)

namespace Letter

/-- The character that is meant. -/
def char : Letter → Char
  | plain c _ => c
  | named entity => entity.char
  | decimal c _ _ _ => c
  | hexadecimal c _ _ _ => c

/-- A reference with a name. -/
def reference (name : List Char) : List Char := '&' :: name ++ [';']

/-- What is written. -/
def write : Letter → List Char
  | plain c _ => [c]
  | named entity => reference entity.name
  | decimal _ digits _ _ => reference ('#' :: digits)
  | hexadecimal _ digits _ _ => reference ('#' :: 'x' :: digits)

/-- A number has no more digits than the greatest number of a character needs. -/
def Short : Letter → Prop
  | decimal _ digits _ _ => digits.length ≤ 7
  | hexadecimal _ digits _ _ => digits.length ≤ 6
  | _ => True

instance : DecidablePred Short
  | plain _ _ => .isTrue trivial
  | named _ => .isTrue trivial
  | decimal _ digits _ _ => inferInstanceAs (Decidable (digits.length ≤ 7))
  | hexadecimal _ digits _ _ => inferInstanceAs (Decidable (digits.length ≤ 6))

end Letter

/-- A text, as it is written. -/
abbrev Spelled := List Letter

namespace Spelled

/-- The text that is meant. -/
def content (s : Spelled) : List Char := s.map Letter.char

/-- What is written. -/
def write (s : Spelled) : List Char := s.flatMap Letter.write

/-- No number in a reference is too long. -/
def Short (s : Spelled) : Prop := ∀ letter ∈ s, letter.Short

instance : DecidablePred Short := fun s => inferInstanceAs (Decidable (∀ letter ∈ s, letter.Short))

end Spelled

/-! ## Numbers -/

section Numbers

variable {radix n : Nat} {digits : List Char}

theorem foldl_numeral (values : List Nat) (digits : List Char) (n : Nat)
    (written : digits.map Bytes.hexValue? = values.map some) (small : ∀ d ∈ values, d < radix) :
    digits.foldl (fun n c => n.bind fun n => (Bytes.hexValue? c).bind fun d =>
      if d < radix then some (radix * n + d) else none) (some n) =
      some (values.foldl (fun n d => radix * n + d) n) := by
  induction values generalizing digits n with
  | nil =>
    obtain rfl := List.map_eq_nil_iff.mp written
    rfl
  | cons d values ih =>
    obtain ⟨c, rest, rfl, first, others⟩ := List.map_eq_cons_iff.mp written
    obtain ⟨least, smaller⟩ := List.forall_mem_cons.mp small
    simp only [List.foldl_cons, Option.bind_some, first, if_pos least]
    exact ih rest (radix * n + d) others smaller

theorem numeral?_of_writes (writes : Writes radix digits n) : numeral? radix digits = some n := by
  obtain ⟨values, written, small, rfl⟩ := writes
  exact foldl_numeral values digits 0 written small

/-- What has no value as a digit does not stand in a number. -/
theorem not_mem_of_writes {c : Char} (writes : Writes radix digits n)
    (noDigit : Bytes.hexValue? c = none) :
    c ∉ digits := by
  intro member
  obtain ⟨values, written, -, -⟩ := writes
  have value := List.mem_map_of_mem (f := Bytes.hexValue?) member
  rw [noDigit, written] at value
  obtain ⟨d, -, impossible⟩ := List.mem_map.mp value
  cases impossible

theorem character?_toNat {c : Char} (positive : 0 < c.toNat) : character? c.toNat = some c := by
  have valid : ¬ (c.toNat = 0 ∨ (0xD800 ≤ c.toNat ∧ c.toNat ≤ 0xDFFF) ∨ 0x10FFFF < c.toNat) := by
    have range := c.valid
    simp only [UInt32.isValidChar, Nat.isValidChar] at range
    change c.toNat < 0xD800 ∨ 0xDFFF < c.toNat ∧ c.toNat < 0x110000 at range
    omega
  rw [character?, if_neg valid, Char.ofNat_toNat]

end Numbers

/-! ## References -/

theorem resolveFrom_name (done begun rest : List Char) {name : List Char} {c : Char}
    (semicolon : ';' ∉ name)
    (ampersand : '&' ∉ name) (stands : referent? (begun.reverse ++ name) = some c) :
    resolveFrom done (some begun) (name ++ ';' :: rest) = resolveFrom (c :: done) none rest := by
  induction name generalizing begun with
  | nil =>
    rw [List.append_nil] at stands
    simp [resolveFrom, stands]
  | cons d name ih =>
    rw [List.mem_cons, not_or] at semicolon ampersand
    have next : referent? ((d :: begun).reverse ++ name) = some c := by simpa using stands
    rw [List.cons_append, resolveFrom, if_neg (Ne.symm semicolon.1), if_neg (Ne.symm ampersand.1)]
    exact ih (d :: begun) semicolon.2 ampersand.2 next

/-- A reference is replaced by the character that its name stands for. -/
theorem resolveFrom_reference (done rest : List Char) {name : List Char} {c : Char}
    (semicolon : ';' ∉ name) (ampersand : '&' ∉ name) (stands : referent? name = some c) :
    resolveFrom done none (Letter.reference name ++ rest) = resolveFrom (c :: done) none rest := by
  have text : Letter.reference name ++ rest = '&' :: (name ++ ';' :: rest) := by
    simp [Letter.reference]
  rw [text, resolveFrom, if_pos rfl]
  exact resolveFrom_name done [] rest semicolon ampersand stands

theorem referent?_decimal {c : Char} {digits : List Char} (number : Writes 10 digits c.toNat)
    (positive : 0 < c.toNat) (short : digits.length ≤ 7) : referent? ('#' :: digits) = some c := by
  -- The letter that announces hexadecimal digits is no decimal digit.
  have decimal : ∀ rest, digits ≠ 'x' :: rest := by
    rintro rest rfl
    exact not_mem_of_writes number (c := 'x') (by decide) List.mem_cons_self
  rw [referent?.eq_2 digits decimal, if_neg (Nat.not_lt.mpr short), numeral?_of_writes number,
    Option.bind_some, character?_toNat positive]

theorem referent?_hexadecimal {c : Char} {digits : List Char} (number : Writes 16 digits c.toNat)
    (positive : 0 < c.toNat) (short : digits.length ≤ 6) :
    referent? ('#' :: 'x' :: digits) = some c := by
  rw [referent?, if_neg (Nat.not_lt.mpr short), numeral?_of_writes number, Option.bind_some,
    character?_toNat positive]

theorem referent?_name (entity : Entity) : referent? entity.name = some entity.char := by
  cases entity <;> rfl

/-! ## Texts -/

/-- A character is given back, however it is written. -/
theorem Letter.resolveFrom_write (letter : Letter) (short : letter.Short) (done rest : List Char) :
    resolveFrom done none (letter.write ++ rest) = resolveFrom (letter.char :: done) none rest := by
  cases letter with
  | plain c ordinary =>
    show resolveFrom done none (c :: rest) = _
    rw [resolveFrom, if_neg ordinary.1]
    rfl
  | named entity =>
    have plain : ';' ∉ entity.name ∧ '&' ∉ entity.name := by cases entity <;> decide
    exact resolveFrom_reference done rest plain.1 plain.2 (referent?_name entity)
  | decimal c digits number positive =>
    have semicolon := not_mem_of_writes (c := ';') number (by decide)
    have ampersand := not_mem_of_writes (c := '&') number (by decide)
    exact resolveFrom_reference done rest (by simpa using semicolon) (by simpa using ampersand)
      (referent?_decimal number positive short)
  | hexadecimal c digits number positive =>
    have semicolon := not_mem_of_writes (c := ';') number (by decide)
    have ampersand := not_mem_of_writes (c := '&') number (by decide)
    exact resolveFrom_reference done rest (by simpa using semicolon) (by simpa using ampersand)
      (referent?_hexadecimal number positive short)

/-- No angle bracket is written, whatever is meant. -/
theorem Letter.not_mem_write (letter : Letter) : '<' ∉ letter.write := by
  cases letter with
  | plain c ordinary => simpa [write] using Ne.symm ordinary.2
  | named entity => cases entity <;> decide
  | decimal c digits number _ =>
    simpa [write, reference] using not_mem_of_writes (c := '<') number (by decide)
  | hexadecimal c digits number _ =>
    simpa [write, reference] using not_mem_of_writes (c := '<') number (by decide)

namespace Spelled

theorem not_mem_write (s : Spelled) : '<' ∉ s.write := by
  intro member
  obtain ⟨letter, -, written⟩ := List.mem_flatMap.mp member
  exact letter.not_mem_write written

theorem write_eq_nil_iff (s : Spelled) : s.write = [] ↔ s = [] := by
  constructor
  · intro empty
    cases s with
    | nil => rfl
    | cons letter s =>
      have noLetter := (List.append_eq_nil_iff.mp empty).1
      cases letter <;> cases noLetter
  · rintro rfl
    rfl

theorem resolveFrom_write (s : Spelled) (short : s.Short) (done : List Char) :
    resolveFrom done none s.write = some (done.reverse ++ s.content) := by
  induction s generalizing done with
  | nil => simp [write, content, resolveFrom]
  | cons letter s ih =>
    obtain ⟨first, others⟩ := List.forall_mem_cons.mp short
    have text : write (letter :: s) = letter.write ++ write s := rfl
    have meant : content (letter :: s) = letter.char :: content s := rfl
    rw [text, meant, letter.resolveFrom_write first, ih others, List.reverse_cons,
      List.append_assoc]
    rfl

/-- A text is given back by resolving the references in what is written. -/
theorem resolve_write (s : Spelled) (short : s.Short) : resolve s.write = some s.content :=
  s.resolveFrom_write short []

end Spelled
end MessageQueue.Markup
