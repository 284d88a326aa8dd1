import MessageQueue.Json.Printer
import MessageQueue.Json.Reader
import Mathlib.Data.List.Basic

/-!
# What is printed is read back

A value that is printed is read back from its text (`read?_toText`).  There is one exception, a
number with an exponent of zero: it is printed in digits alone, and what is read from digits alone
is an integer (`Exact`).

The text of a value tells by its first character what kind of value it is, and where it ends, except
for a number, which ends where no character follows that could go on with it (`Ends`).  Everything
is stated for a text with more behind it, so that values inside values follow by induction.  The
bound on the calls is no obstacle, because a value never needs more calls than its text has
characters.
-/

namespace MessageQueue.Json

/-! ## Digits -/

/-- What follows does not go on with a number. -/
def Ends (rest : List Char) : Prop :=
  ∀ c ∈ rest.head?, c.isDigit = false ∧ c ≠ '.' ∧ c ≠ 'e' ∧ c ≠ 'E'

theorem ends_nil : Ends [] := by
  intro c member
  cases member

theorem ends_cons {c : Char} {rest : List Char}
    (other : c.isDigit = false ∧ c ≠ '.' ∧ c ≠ 'e' ∧ c ≠ 'E') :
    Ends (c :: rest) := by
  intro d member
  cases member
  exact other

/-- Digits are read as far as they go. -/
theorem digits_append {written rest : List Char} (all : ∀ c ∈ written, c.isDigit = true)
    (stops : ∀ c ∈ rest.head?, c.isDigit = false) (value count : Nat) :
    Decimal.digits value count (written ++ rest) =
      (Nat.ofDigitChars 10 written value, count + written.length, rest) := by
  induction written generalizing value count with
  | nil =>
    cases rest with
    | nil => rfl
    | cons c rest => simp [Decimal.digits, stops c rfl]
  | cons c written ih =>
    obtain ⟨digit, others⟩ := List.forall_mem_cons.mp all
    simp only [List.cons_append, Decimal.digits, digit, if_true, ih others, List.length_cons,
      Nat.ofDigitChars_cons]
    simp only [Nat.add_assoc, Nat.add_comm 1]

variable {rest : List Char}

/-- The digits of a number are read as the number. -/
theorem digits_toDigits (n : Nat) (stops : ∀ c ∈ rest.head?, c.isDigit = false) :
    Decimal.digits 0 0 (Nat.toDigits 10 n ++ rest) = (n, (Nat.toDigits 10 n).length, rest) := by
  rw [digits_append (fun c => Nat.isDigit_of_mem_toDigits (by decide) (by decide)) stops,
    Nat.ofDigitChars_ten_toDigits, Nat.zero_add]

theorem toDigits_eq_cons (n : Nat) :
    ∃ c more, Nat.toDigits 10 n = c :: more ∧ c.isDigit = true := by
  obtain ⟨c, more, written⟩ := List.exists_cons_of_ne_nil (Nat.toDigits_ne_nil (n := n) (b := 10))
  have digit : c ∈ Nat.toDigits 10 n := written ▸ List.mem_cons_self
  exact ⟨c, more, written, Nat.isDigit_of_mem_toDigits (by decide) (by decide) digit⟩

/-- Only zero is written with a zero in front. -/
theorem head?_toDigits (n : Nat) (positive : n ≠ 0) : (Nat.toDigits 10 n).head? ≠ some '0' := by
  induction n using Nat.strongRecOn with
  | ind n ih =>
    rcases Nat.lt_or_ge n 10 with small | large
    · have one : n = 1 ∨ n = 2 ∨ n = 3 ∨ n = 4 ∨ n = 5 ∨ n = 6 ∨ n = 7 ∨ n = 8 ∨ n = 9 := by omega
      rcases one with rfl | rfl | rfl | rfl | rfl | rfl | rfl | rfl | rfl <;> decide
    · have front := ih (n / 10) (by omega) (by omega)
      obtain ⟨c, more, written, -⟩ := toDigits_eq_cons (n / 10)
      rw [Nat.toDigits_of_base_le (by decide) large, written]
      rwa [written] at front

/-- A number is never written with a zero too many. -/
theorem not_leading_zero (n : Nat) (rest : List Char) :
    ¬ ((Nat.toDigits 10 n).length = 0 ∨
      1 < (Nat.toDigits 10 n).length ∧ (Nat.toDigits 10 n ++ rest).head? = some '0') := by
  obtain ⟨c, more, written, -⟩ := toDigits_eq_cons n
  rintro (empty | ⟨long, zero⟩)
  · simp [written] at empty
  · by_cases zeroValue : n = 0
    · subst zeroValue
      exact absurd long (by decide)
    · refine head?_toDigits n zeroValue ?_
      rw [written, List.cons_append] at zero
      rw [written]
      exact zero

/-! ## Numbers -/

/-- A number that is not printed like another one. -/
def Number.Exact : Number → Prop
  | .integer _ => True
  | .decimal _ _ exponent => exponent ≠ 0

theorem fraction?_of_ends (whole : Nat) (ends : Ends rest) :
    fraction? whole rest = some (whole, 0, rest) := by
  unfold fraction?
  split
  next rest => exact absurd rfl (ends '.' rfl).2.1
  next => rfl

theorem exponent?_of_ends (ends : Ends rest) : exponent? rest = some (none, rest) := by
  cases rest with
  | nil => rfl
  | cons c rest =>
    obtain ⟨-, -, small, large⟩ := ends c rfl
    simp [exponent?, small, large]

theorem signed_of_digit {c : Char} (digit : c.isDigit = true) (rest : List Char) :
    Decimal.signed (c :: rest) = (false, c :: rest) := by
  unfold Decimal.signed
  split
  next same => cases same; exact absurd digit (by decide)
  next same => cases same; exact absurd digit (by decide)
  next => rfl

/-- The exponent of a number is read back. -/
theorem exponent?_printInt (e : Int) (ends : Ends rest) :
    exponent? ('e' :: (printInt e ++ rest)) = some (some e, rest) := by
  have stops : ∀ c ∈ rest.head?, c.isDigit = false := fun c member => (ends c member).1
  have counted : (Nat.toDigits 10 e.natAbs).length ≠ 0 := by simp
  rw [printInt]
  split
  next negative =>
    have value : -((e.natAbs : Nat) : Int) = e := by omega
    simp only [List.cons_append, exponent?, true_or, if_true, Decimal.signed,
      digits_toDigits _ stops, if_neg counted, value]
  next positive =>
    have value : ((e.natAbs : Nat) : Int) = e := by omega
    obtain ⟨c, more, written, digit⟩ := toDigits_eq_cons e.natAbs
    have read := digits_toDigits e.natAbs stops
    rw [written] at counted read ⊢
    rw [List.cons_append] at read ⊢
    simp only [exponent?, true_or, if_true, signed_of_digit digit, read, if_neg counted,
      Bool.false_eq_true, if_false, value]

theorem unsigned?_integer {negative : Bool} {n : Nat} (ends : Ends rest)
    (sensible : ¬ (negative = true ∧ n = 0)) :
    unsigned? negative (Nat.toDigits 10 n ++ rest) =
      some (.integer (if negative then -(n : Int) else n), rest) := by
  have stops : ∀ c ∈ rest.head?, c.isDigit = false := fun c member => (ends c member).1
  simp only [unsigned?, digits_toDigits n stops, if_neg (not_leading_zero n rest),
    fraction?_of_ends n ends, exponent?_of_ends ends]
  simp [sensible]

theorem unsigned?_decimal (negative : Bool) (mantissa : Nat) (e : Int) (ends : Ends rest) :
    unsigned? negative (Nat.toDigits 10 mantissa ++ 'e' :: (printInt e ++ rest)) =
      some (.decimal negative mantissa e, rest) := by
  have stops : ∀ c ∈ ('e' :: (printInt e ++ rest)).head?, c.isDigit = false := by
    intro c member
    cases member
    decide
  have fraction : fraction? mantissa ('e' :: (printInt e ++ rest)) =
      some (mantissa, 0, 'e' :: (printInt e ++ rest)) := rfl
  simp only [unsigned?, digits_toDigits mantissa stops, if_neg (not_leading_zero mantissa _),
    fraction, exponent?_printInt e ends]
  simp

theorem number?_of_digit {c : Char} (digit : c.isDigit = true) (rest : List Char) :
    number? (c :: rest) = unsigned? false (c :: rest) := by
  unfold number?
  split
  next same => cases same; exact absurd digit (by decide)
  next => rfl

theorem number?_toDigits (n : Nat) (rest : List Char) :
    number? (Nat.toDigits 10 n ++ rest) = unsigned? false (Nat.toDigits 10 n ++ rest) := by
  obtain ⟨c, more, written, digit⟩ := toDigits_eq_cons n
  rw [written, List.cons_append, number?_of_digit digit]

/-- A number is read back. -/
theorem number?_print {n : Number} (exact : n.Exact) (ends : Ends rest) :
    number? (printNumber n ++ rest) = some (n, rest) := by
  cases n with
  | integer n =>
    rw [printNumber, printInt]
    split
    next negative =>
      have value : -((n.natAbs : Nat) : Int) = n := by omega
      rw [List.cons_append, number?, unsigned?_integer ends (by omega)]
      simp only [if_true, value]
    next positive =>
      have value : ((n.natAbs : Nat) : Int) = n := by omega
      rw [number?_toDigits, unsigned?_integer ends (by simp)]
      simp only [Bool.false_eq_true, if_false, value]
  | decimal negative mantissa e =>
    have scaled : e ≠ 0 := exact
    simp only [printNumber, if_neg scaled, List.append_assoc, List.cons_append]
    cases negative with
    | true => exact unsigned?_decimal true mantissa e ends
    | false => exact (number?_toDigits mantissa _).trans (unsigned?_decimal false mantissa e ends)

/-! ## Strings -/

/-- What is written for a character is read as this character. -/
theorem stringRest_escapedChar (s : StringScan) (c : Char) (rest : List Char) :
    stringRest s (escapedChar c ++ rest) = stringRest (s.push c) rest := by
  unfold escapedChar
  split_ifs with quote backslash backspace feed newline ret tab control
  · subst quote; rfl
  · subst backslash; rfl
  · subst backspace; rfl
  · subst feed; rfl
  · subst newline; rfl
  · subst ret; rfl
  · subst tab; rfl
  · have unit : unit? '0' '0' (Bytes.hexDigit (c.toNat / 16)) (Bytes.hexDigit (c.toNat % 16)) =
        some c.toNat := by
      have high : c.toNat / 16 < 16 := by omega
      have low : c.toNat % 16 < 16 := by omega
      have zero : Bytes.hexValue? '0' = some 0 := rfl
      simp only [unit?, zero, Bytes.hexValue?_hexDigit high, Bytes.hexValue?_hexDigit low]
      congr 1
      omega
    have pushed : s.pushUnit c.toNat = s.push c := by
      have low : ¬ (0xDC00 ≤ c.toNat ∧ c.toNat < 0xE000) := by omega
      have high : ¬ (0xD800 ≤ c.toNat ∧ c.toNat < 0xDC00) := by omega
      rw [StringScan.pushUnit, if_neg low, if_neg high, Char.ofNat_toNat]
    simp only [List.cons_append, List.nil_append, stringRest, unit, pushed]
  · simp [stringRest, backslash, control]

theorem stringRest_flatMap (written : List Char) (s : StringScan) (rest : List Char) :
    stringRest s (written.flatMap escapedChar ++ rest) =
      stringRest (written.foldl StringScan.push s) rest := by
  induction written generalizing s with
  | nil => rfl
  | cons c written ih =>
    rw [List.flatMap_cons, List.append_assoc, stringRest_escapedChar, ih, List.foldl_cons]

theorem foldl_push (written done : List Char) :
    written.foldl StringScan.push ⟨done, none, true⟩ = ⟨written.reverse ++ done, none, true⟩ := by
  induction written generalizing done with
  | nil => rfl
  | cons c written ih => simpa [StringScan.push] using ih (c :: done)

/-- A text is read back from the string that is written for it. -/
theorem string?_escaped (s : String) (rest : List Char) :
    string? (s.toList.flatMap escapedChar ++ '"' :: rest) = some (some s, rest) := by
  rw [string?, stringRest_flatMap, foldl_push]
  simp [stringRest, StringScan.close]

/-! ## Values -/

mutual

/-- No number in a value is printed like another one. -/
def Exact : Json → Prop
  | number n => n.Exact
  | array items => ExactItems items
  | object members => ExactMembers members
  | _ => True

/-- No number in the items is printed like another one. -/
def ExactItems : List Json → Prop
  | [] => True
  | item :: rest => item.Exact ∧ ExactItems rest

/-- No number in the members is printed like another one. -/
def ExactMembers : List (String × Json) → Prop
  | [] => True
  | (_, item) :: rest => item.Exact ∧ ExactMembers rest

end

theorem exactItems_of_forall {items : List Json} (each : ∀ item ∈ items, item.Exact) :
    ExactItems items := by
  induction items with
  | nil => trivial
  | cons item items ih =>
    obtain ⟨first, others⟩ := List.forall_mem_cons.mp each
    exact ⟨first, ih others⟩

theorem exactMembers_of_forall {members : List (String × Json)} (each : ∀ m ∈ members, m.2.Exact) :
    ExactMembers members := by
  induction members with
  | nil => trivial
  | cons m members ih =>
    obtain ⟨first, others⟩ := List.forall_mem_cons.mp each
    exact ⟨first, ih others⟩

theorem skipBlanks_cons {c : Char} (rest : List Char) (dark : isBlank c = false) :
    skipBlanks (c :: rest) = c :: rest := by
  simp [skipBlanks, dark]

theorem isBlank_of_digit {c : Char} (digit : c.isDigit = true) : isBlank c = false := by
  rw [Bool.eq_false_iff]
  intro blank
  simp only [isBlank, Bool.or_eq_true, decide_eq_true_eq] at blank
  rcases blank with ((rfl | rfl) | rfl) | rfl <;> exact absurd digit (by decide)

/-- A number starts with a sign or a digit. -/
theorem printNumber_eq_cons (n : Number) :
    ∃ c more, printNumber n = c :: more ∧ (c = '-' ∨ c.isDigit = true) := by
  cases n with
  | integer n =>
    rw [printNumber, printInt]
    split
    next => exact ⟨'-', _, rfl, .inl rfl⟩
    next =>
      obtain ⟨c, more, written, digit⟩ := toDigits_eq_cons n.natAbs
      exact ⟨c, more, written, .inr digit⟩
  | decimal negative mantissa e =>
    cases negative with
    | true => exact ⟨'-', _, rfl, .inl rfl⟩
    | false =>
      obtain ⟨c, more, written, digit⟩ := toDigits_eq_cons mantissa
      refine ⟨c, more ++ if e = 0 then [] else 'e' :: printInt e, ?_, .inr digit⟩
      simp [printNumber, written]

/-- No value starts with a blank or a closing bracket. -/
theorem print_eq_cons (j : Json) : ∃ c more, print j = c :: more ∧ isBlank c = false ∧ c ≠ ']' := by
  cases j with
  | null => exact ⟨'n', _, rfl, rfl, by decide⟩
  | bool b => cases b <;> exact ⟨_, _, rfl, rfl, by decide⟩
  | number n =>
    obtain ⟨c, more, written, front⟩ := printNumber_eq_cons n
    refine ⟨c, more, by rw [print, written], ?_⟩
    rcases front with rfl | digit
    · decide
    · refine ⟨isBlank_of_digit digit, ?_⟩
      rintro rfl
      exact absurd digit (by decide)
  | text s => exact ⟨'"', _, rfl, rfl, by decide⟩
  | brokenText => exact ⟨'"', _, rfl, rfl, by decide⟩
  | array items => exact ⟨'[', _, rfl, rfl, by decide⟩
  | object members => exact ⟨'\x7b', _, rfl, rfl, by decide⟩

theorem printItems_eq_cons (item : Json) (items : List Json) :
    ∃ c more, printItems (item :: items) = c :: more ∧ isBlank c = false ∧ c ≠ ']' := by
  obtain ⟨c, more, written, front⟩ := print_eq_cons item
  cases items with
  | nil => exact ⟨c, more ++ [']'], by rw [printItems, written, List.cons_append], front⟩
  | cons next items =>
    exact ⟨c, more ++ ',' :: printItems (next :: items), by simp [printItems, written], front⟩

theorem printMembers_eq_cons (name : String) (item : Json) (members : List (String × Json)) :
    ∃ more, printMembers ((name, item) :: members) = '"' :: more := by
  cases members with
  | nil => exact ⟨_, rfl⟩
  | cons next members => exact ⟨_, rfl⟩

/-- Members as they are read when all names are texts. -/
def named (members : List (String × Json)) : List (Option String × Json) :=
  members.map fun m => (some m.1, m.2)

theorem ofMembers_named (members : List (String × Json)) :
    ofMembers (named members) = object members := by
  have all : (named members).mapM (fun m => m.1.map fun name => (name, m.2)) = some members := by
    induction members with
    | nil => rfl
    | cons m members ih =>
      rw [named, List.map_cons, List.mapM_cons, ← named, ih]
      rfl
  rw [ofMembers, all]

/-- What starts with a sign or a digit is read as a number. -/
theorem value?_of_front {c : Char} (front : c = '-' ∨ c.isDigit = true) (fuel : Nat)
    (rest : List Char) :
    value? (fuel + 1) (c :: rest) =
      (number? (c :: rest)).map fun (n, rest) => (number n, rest) := by
  have dark : isBlank c = false := by
    rcases front with rfl | digit
    · rfl
    · exact isBlank_of_digit digit
  have other : ∀ d : Char, d ≠ '-' → d.isDigit = false → c ≠ d := by
    rintro d sign digit rfl
    rcases front with same | digit'
    · exact sign same
    · rw [digit] at digit'
      cases digit'
  rw [value?, skipBlanks_cons rest dark]
  split
  next same => cases same; exact absurd rfl (other 'n' (by decide) rfl)
  next same => cases same; exact absurd rfl (other 't' (by decide) rfl)
  next same => cases same; exact absurd rfl (other 'f' (by decide) rfl)
  next same => cases same; exact absurd rfl (other '"' (by decide) rfl)
  next same => cases same; exact absurd rfl (other '[' (by decide) rfl)
  next same => cases same; exact absurd rfl (other '\x7b' (by decide) rfl)
  next => rfl

theorem ends_of_closing {c : Char} (closing : c = ',' ∨ c = ']' ∨ c = '\x7d') (rest : List Char) :
    Ends (c :: rest) := by
  refine ends_cons ?_
  rcases closing with rfl | rfl | rfl <;> decide

mutual

/-- A value is read back from its text, with no more calls than the text has characters. -/
theorem value?_print (j : Json) (exact : j.Exact) (fuel : Nat) (enough : (print j).length ≤ fuel)
    (rest : List Char) (ends : Ends rest) : value? fuel (print j ++ rest) = some (j, rest) := by
  obtain ⟨c, more, written, -⟩ := print_eq_cons j
  -- The induction is on the calls: a value inside stands behind a character of its own, so a call
  -- less is enough.
  obtain ⟨fuel, rfl⟩ : ∃ n,
    fuel = n + 1 := ⟨fuel - 1, by rw [written, List.length_cons] at enough; omega⟩
  cases j with
  | null => rfl
  | bool b => cases b <;> rfl
  | number n =>
    obtain ⟨c, more, written, front⟩ := printNumber_eq_cons n
    have read := number?_print (n := n) exact ends
    rw [written, List.cons_append] at read
    rw [print, written, List.cons_append, value?_of_front front, read]
    rfl
  | text s =>
    simp only [print, printText, List.cons_append, List.append_assoc, List.nil_append, value?]
    rw [skipBlanks_cons _ rfl]
    simp only [string?_escaped]
  | brokenText => rfl
  | array items =>
    simp only [print, List.cons_append, value?]
    rw [skipBlanks_cons _ rfl]
    cases items with
    | nil => rfl
    | cons item items =>
      have shorter : (printItems (item :: items)).length ≤ fuel := by simpa [print] using enough
      have read := items?_print item items exact fuel shorter [] rest
      obtain ⟨c, more, written, dark, open_⟩ := printItems_eq_cons item items
      rw [written, List.cons_append] at read ⊢
      simp only [skipBlanks_cons _ dark]
      split
      next same => cases same; exact absurd rfl open_
      next => rw [read]; rfl
  | object members =>
    simp only [print, List.cons_append, value?]
    rw [skipBlanks_cons _ rfl]
    cases members with
    | nil => rfl
    | cons member members =>
      obtain ⟨name, item⟩ := member
      have shorter : (printMembers ((name, item) :: members)).length ≤ fuel := by
        simpa [print] using enough
      have read := members?_print name item members exact fuel shorter [] rest
      obtain ⟨more, written⟩ := printMembers_eq_cons name item members
      rw [written, List.cons_append] at read ⊢
      simp only [skipBlanks_cons _ (show isBlank '"' = false from rfl)]
      change (members? fuel [] ('"' :: (more ++ rest))).map (fun x => (ofMembers x.1, x.2)) = _
      rw [read, List.reverse_nil, List.nil_append, Option.map_some, ofMembers_named]
termination_by fuel

/-- The items of an array are read back from their text, behind those read before. -/
theorem items?_print (item : Json) (items : List Json) (exact : ExactItems (item :: items))
    (fuel : Nat)
    (enough : (printItems (item :: items)).length ≤ fuel) (done : List Json) (rest : List Char) :
    items? fuel done (printItems (item :: items) ++ rest) =
      some (done.reverse ++ item :: items, rest) := by
  obtain ⟨fuel, rfl⟩ : ∃ n, fuel = n + 1 := by
    obtain ⟨c, more, written, -⟩ := printItems_eq_cons item items
    exact ⟨fuel - 1, by rw [written, List.length_cons] at enough; omega⟩
  cases items with
  | nil =>
    simp only [printItems, List.length_append, List.length_singleton, List.append_assoc,
      List.singleton_append] at enough ⊢
    rw [items?, value?_print item exact.1 fuel (by omega) _ (ends_of_closing (by decide) rest)]
    simp only [skipBlanks_cons _ (show isBlank ']' = false from rfl), List.reverse_cons]
  | cons next items =>
    simp only [printItems, List.length_append, List.length_cons, List.append_assoc,
      List.cons_append] at enough ⊢
    rw [items?, value?_print item exact.1 fuel (by omega) _ (ends_of_closing (by decide) _)]
    simp only [skipBlanks_cons _ (show isBlank ',' = false from rfl)]
    rw [items?_print next items exact.2 fuel (by omega) (item :: done) rest, List.reverse_cons,
      List.append_assoc, List.singleton_append]
termination_by fuel

/-- The members of an object are read back from their text, behind those read before. -/
theorem members?_print (name : String) (item : Json) (members : List (String × Json))
    (exact : ExactMembers ((name, item) :: members)) (fuel : Nat)
    (enough : (printMembers ((name, item) :: members)).length ≤ fuel)
    (done : List (Option String × Json)) (rest : List Char) :
    members? fuel done (printMembers ((name, item) :: members) ++ rest) =
      some (done.reverse ++ named ((name, item) :: members), rest) := by
  obtain ⟨fuel, rfl⟩ : ∃ n, fuel = n + 1 := by
    obtain ⟨more, written⟩ := printMembers_eq_cons name item members
    exact ⟨fuel - 1, by rw [written, List.length_cons] at enough; omega⟩
  cases members with
  | nil =>
    simp only [printMembers, printText, List.length_append, List.length_cons, List.append_assoc,
      List.cons_append, List.nil_append] at enough ⊢
    rw [members?, skipBlanks_cons _ rfl]
    simp only [string?_escaped, skipBlanks_cons _ (show isBlank ':' = false from rfl)]
    rw [value?_print item exact.1 fuel (by omega) _ (ends_of_closing (by decide) rest)]
    simp only [skipBlanks_cons _ (show isBlank '\x7d' = false from rfl), List.reverse_cons]
    rfl
  | cons next members =>
    obtain ⟨other, value⟩ := next
    simp only [printMembers, printText, List.length_append, List.length_cons, List.append_assoc,
      List.cons_append, List.nil_append] at enough ⊢
    rw [members?, skipBlanks_cons _ rfl]
    simp only [string?_escaped, skipBlanks_cons _ (show isBlank ':' = false from rfl)]
    rw [value?_print item exact.1 fuel (by omega) _ (ends_of_closing (by decide) _)]
    simp only [skipBlanks_cons _ (show isBlank ',' = false from rfl)]
    rw [members?_print other value members exact.2 fuel (by omega) ((some name, item) :: done) rest,
      List.reverse_cons, List.append_assoc, List.singleton_append]
    rfl
termination_by fuel

end

/-- A value is read back from its text. -/
theorem read?_toText {j : Json} (exact : j.Exact) : read? (toText j) = some j := by
  have read := value?_print j exact (2 * (print j).length + 2) (by omega) [] ends_nil
  rw [List.append_nil] at read
  simp only [read?, toText, String.toList_ofList, read]
  rfl

end MessageQueue.Json
