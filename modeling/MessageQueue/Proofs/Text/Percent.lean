import MessageQueue.Proofs.Text.Utf8
import MessageQueue.Text.Percent

/-!
# Percent encoding is lossless

What is written for an octet is read back as this octet, whatever follows (`decodeFrom_encodeByte`),
so a text is read back from its percent encoding.  Only ASCII letters, digits, percent signs and
four marks are written.  Neither an ampersand nor an equals sign is among them, so these can
separate encoded texts.
-/

namespace MessageQueue.Percent

/-! ## What is written -/

theorem toNat_ofNat_of_ascii {n : Nat} (ascii : n < 128) : (Char.ofNat n).toNat = n := by
  have valid : n.isValidChar := .inl (by omega)
  rw [Char.ofNat, dif_pos valid]
  rfl

theorem upperDigit_spec :
    ∀ n < 16, Bytes.hexValue? (upperDigit n) = some n ∧ (upperDigit n).toNat < 128 ∧
    upperDigit n ≠ '&' ∧ upperDigit n ≠ '=' := by decide

theorem high_lt (b : UInt8) : b.toNat / 16 < 16 := by
  have := b.toNat_lt
  omega

theorem low_lt (b : UInt8) : b.toNat % 16 < 16 := Nat.mod_lt _ (by decide)

/-- A character that stands in an encoded text. -/
structure Written (c : Char) : Prop where
  ascii : c.toNat < 128
  ne_ampersand : c ≠ '&'
  ne_equals : c ≠ '='

theorem written_upperDigit {n : Nat} (digit : n < 16) : Written (upperDigit n) :=
  have spec := upperDigit_spec n digit
  ⟨spec.2.1, spec.2.2.1, spec.2.2.2⟩

theorem ascii_of_unreserved {b : UInt8} (kept : isUnreserved b = true) : b.toNat < 128 := by
  simp only [isUnreserved, Bool.and_eq_true, decide_eq_true_eq] at kept
  exact kept.1

theorem written_of_unreserved {b : UInt8} (kept : isUnreserved b = true) :
    Written (Char.ofNat b.toNat) := by
  have small := ascii_of_unreserved kept
  refine ⟨?_, fun same => ?_, fun same => ?_⟩
  · rw [toNat_ofNat_of_ascii small]
    exact small
  · simp only [isUnreserved, same] at kept
    exact absurd (Bool.and_eq_true_iff.mp kept).2 (by decide)
  · simp only [isUnreserved, same] at kept
    exact absurd (Bool.and_eq_true_iff.mp kept).2 (by decide)

theorem written_encodeByte (b : UInt8) : ∀ c ∈ encodeByte isUnreserved b, Written c := by
  unfold encodeByte
  split
  next kept => exact List.forall_mem_singleton.mpr (written_of_unreserved kept)
  next =>
    have percent : Written '%' := ⟨by decide, by decide, by decide⟩
    simpa [escape] using ⟨percent, written_upperDigit (high_lt b), written_upperDigit (low_lt b)⟩

theorem written_encode (text : String) : ∀ c ∈ (encode text).toList, Written c := by
  intro c member
  rw [encode, String.toList_ofList, encodeBytes, List.mem_flatMap] at member
  obtain ⟨b, -, written⟩ := member
  exact written_encodeByte b c written

/-! ## What is read -/

theorem decodeFrom_of_ne {a : UInt8} (plain : a ≠ 0x25) (done rest : Bytes) :
    decodeFrom done (a :: rest) = decodeFrom (a :: done) rest := by
  match rest with
  | [] => rfl
  | [b] => rfl
  | b :: c :: others => rw [decodeFrom, if_neg plain]

/-- The octet of an ASCII character. -/
theorem ofNat_toNat_of_ascii {c : Char} (ascii : c.toNat < 128) :
    Char.ofNat (UInt8.ofNat c.toNat).toNat = c := by
  rw [UInt8.toNat_ofNat_of_lt' (Nat.lt_trans ascii (by decide)), Char.ofNat_toNat]

theorem decodeFrom_escape (b : UInt8) (done rest : Bytes) :
    decodeFrom done ((escape b).map (fun c => UInt8.ofNat c.toNat) ++ rest) =
      decodeFrom (b :: done) rest := by
  obtain ⟨high, highAscii, -⟩ := upperDigit_spec _ (high_lt b)
  obtain ⟨low, lowAscii, -⟩ := upperDigit_spec _ (low_lt b)
  simp only [escape, List.map_cons, List.map_nil, List.cons_append, List.nil_append]
  rw [decodeFrom, if_pos (by decide)]
  simp only [ofNat_toNat_of_ascii highAscii, ofNat_toNat_of_ascii lowAscii, high, low]
  rw [Nat.div_add_mod, UInt8.ofNat_toNat]

theorem decodeFrom_encodeByte (b : UInt8) (done rest : Bytes) :
    decodeFrom done ((encodeByte isUnreserved b).map (fun c => UInt8.ofNat c.toNat) ++ rest) =
      decodeFrom (b :: done) rest := by
  unfold encodeByte
  split
  next kept =>
    have octet : UInt8.ofNat (Char.ofNat b.toNat).toNat = b := by
      rw [toNat_ofNat_of_ascii (ascii_of_unreserved kept), UInt8.ofNat_toNat]
    have plain : b ≠ 0x25 := fun percent => by
      rw [percent] at kept
      exact absurd kept (by decide)
    simp only [List.map_cons, List.map_nil, List.cons_append, List.nil_append, octet]
    exact decodeFrom_of_ne plain done rest
  next => exact decodeFrom_escape b done rest

theorem decodeFrom_encodeBytes (bytes done : Bytes) :
    decodeFrom done ((encodeBytes isUnreserved bytes).map fun c => UInt8.ofNat c.toNat) =
      done.reverse ++ bytes := by
  induction bytes generalizing done with
  | nil => simp [encodeBytes, decodeFrom]
  | cons b rest ih =>
    rw [encodeBytes, List.flatMap_cons, List.map_append, decodeFrom_encodeByte]
    rw [← encodeBytes, ih, List.reverse_cons, List.append_assoc]
    rfl

/-- A text is read back from its percent encoding. -/
theorem decode?_encode (text : String) : decode? (encode text) = some text := by
  have ascii : ∀ c ∈ encodeBytes isUnreserved (Utf8.encode text), c.toNat < 128 := fun c member =>
    (written_encode text c (by rwa [encode, String.toList_ofList])).ascii
  rw [decode?, encode, Utf8.encode_of_ascii ascii, decodeBytes, decodeFrom_encodeBytes]
  exact Utf8.decode?_encode text

end MessageQueue.Percent
