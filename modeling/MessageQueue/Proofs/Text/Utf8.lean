import MessageQueue.Text.Utf8
import Mathlib.Data.List.Basic

/-!
# Texts and their octets

The octets of a text are those of its characters, one after another, and those of ASCII characters
are their numbers.  The octets of one character come before those of another in the order of octets
if the characters do, even when more octets follow (`utf8EncodeChar_lt`).  So the order of texts is
the order of their octets.
-/

namespace MessageQueue.Utf8

theorem encode_ofList (cs : List Char) :
    encode (String.ofList cs) = cs.flatMap String.utf8EncodeChar := by
  simp [encode, List.utf8Encode, List.data_toByteArray]

theorem encode_eq (text : String) : encode text = text.toList.flatMap String.utf8EncodeChar := by
  rw [← encode_ofList, String.ofList_toList]

/-! ## ASCII -/

theorem utf8EncodeChar_of_ascii {c : Char} (ascii : c.toNat < 128) :
    String.utf8EncodeChar c = [UInt8.ofNat c.toNat] := by
  have low : c.val.toNat ≤ 127 := Nat.le_of_lt_succ ascii
  simp only [String.utf8EncodeChar, if_pos low]
  rfl

theorem encode_of_ascii {cs : List Char} (ascii : ∀ c ∈ cs, c.toNat < 128) :
    encode (String.ofList cs) = cs.map fun c => UInt8.ofNat c.toNat := by
  rw [encode_ofList]
  induction cs with
  | nil => rfl
  | cons c rest ih =>
    obtain ⟨first, others⟩ := List.forall_mem_cons.mp ascii
    rw [List.flatMap_cons, utf8EncodeChar_of_ascii first, ih others]
    rfl

/-! ## Order -/

/-- Octets that are made of small numbers are compared as these numbers are. -/
theorem ofNat_cons_lt_iff {a b : Nat} (first : a < 256) (second : b < 256) (x y : Bytes) :
    UInt8.ofNat a :: x < UInt8.ofNat b :: y ↔ a < b ∨ a = b ∧ x < y := by
  have same (n : Nat) (small : n < 256) : (UInt8.ofNat n).toNat = n :=
    UInt8.toNat_ofNat_of_lt' small
  rw [List.cons_lt_cons_iff, UInt8.lt_iff_toNat_lt, ← UInt8.toNat_inj, same a first, same b second]

/-- The octets of a character come before those of a later one, whatever follows. -/
theorem utf8EncodeChar_lt {c d : Char} (less : c < d) (x y : Bytes) :
    String.utf8EncodeChar c ++ x < String.utf8EncodeChar d ++ y := by
  have below : c.val.toNat < d.val.toNat := UInt32.lt_iff_toNat_lt.mp less
  have bound : d.val.toNat < 0x110000 := by
    rcases d.valid with low | ⟨-, high⟩
    · exact Nat.lt_trans low (by decide)
    · exact high
  unfold String.utf8EncodeChar
  generalize c.val.toNat = m at below
  generalize d.val.toNat = n at below bound
  dsimp only
  -- A longer form begins with a greater octet; forms of one length differ first where the numbers
  -- do.
  split
  next one =>
    repeat' split
    all_goals
      simp (disch := omega) only [List.cons_append, ofNat_cons_lt_iff]
      omega
  next =>
    rw [if_neg (show ¬ n ≤ 127 by omega)]
    split
    next two =>
      repeat' split
      all_goals
        simp (disch := omega) only [List.cons_append, ofNat_cons_lt_iff]
        omega
    next =>
      rw [if_neg (show ¬ n ≤ 2047 by omega)]
      split
      next three =>
        repeat' split
        all_goals
          simp (disch := omega) only [List.cons_append, ofNat_cons_lt_iff]
          omega
      next =>
        rw [if_neg (show ¬ n ≤ 65535 by omega)]
        simp (disch := omega) only [List.cons_append, ofNat_cons_lt_iff]
        have last : m / 64 < n / 64 ∨ m / 64 = n / 64 ∧ m % 64 < n % 64 := by omega
        have third : m / 64 < n / 64 →
            m / 4096 < n / 4096 ∨ m / 4096 = n / 4096 ∧ m / 64 % 64 < n / 64 % 64 := by omega
        have second : m / 4096 < n / 4096 →
            m / 262144 < n / 262144 ∨ m / 262144 = n / 262144 ∧ m / 4096 % 64 < n / 4096 % 64 := by
          omega
        have first : m / 262144 % 8 = m / 262144 ∧ n / 262144 % 8 = n / 262144 := by omega
        rcases last with high | ⟨same, low⟩
        · rcases third high with high | ⟨same, low⟩
          · rcases second high with high | ⟨same, low⟩ <;> omega
          · omega
        · omega

/-- A text comes before another in the order of characters exactly if its octets do in the order of
octets. -/
theorem encode_lt_encode {a b : String} (less : a < b) : encode a < encode b := by
  rw [encode_eq, encode_eq]
  rw [String.lt_iff] at less
  generalize a.toList = cs at less
  generalize b.toList = ds at less
  induction cs generalizing ds with
  | nil =>
    cases ds with
    | nil => exact absurd less (List.lt_irrefl [])
    | cons d ds =>
      obtain ⟨first, rest, octets⟩ :=
        List.exists_cons_of_ne_nil (String.utf8EncodeChar_ne_nil (c := d))
      rw [List.flatMap_cons, octets]
      exact List.nil_lt_cons _ _
  | cons c cs ih =>
    cases ds with
    | nil => exact absurd less (List.not_lt_nil _)
    | cons d ds =>
      rw [List.flatMap_cons, List.flatMap_cons]
      rcases List.cons_lt_cons_iff.mp less with before | ⟨rfl, later⟩
      · exact utf8EncodeChar_lt before _ _
      · exact List.append_left_lt (ih ds later)

end MessageQueue.Utf8
