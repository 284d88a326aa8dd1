import MessageQueue.Proofs.Table
import MessageQueue.Proofs.Text.Percent
import MessageQueue.Wire.Form
import Mathlib.Data.List.Basic

/-!
# Forms are read back

A form is written pair by pair, both sides of a pair percent encoded, in the order of the written
pairs.  Reading it gives back the parameters, each once and no others, in some order (`read?_text`).
So a form made of a list of parameters with names of their own conveys this list (`read?_ofList`).

Parameters that are numbered have names of their own because a number is followed by a full stop or
by nothing.
-/

namespace MessageQueue

namespace Form

/-! ## A form is read back -/

theorem pairOf?_pairText (name value : String) :
    pairOf? (pairText name value).toList = some (name, value) := by
  have sign : '=' ∉ (Percent.encode name).toList :=
    fun member => (Percent.written_encode name _ member).ne_equals rfl
  have text : (pairText name value).toList =
      (Percent.encode name).toList ++ '=' :: (Percent.encode value).toList := by
    simp [pairText]
  rw [pairOf?, text, Text.cut?_append _ _ _ sign]
  simp only [String.ofList_toList, Percent.decode?_encode]

theorem not_mem_pairText (name value : String) : '&' ∉ (pairText name value).toList := by
  simp only [pairText, String.toList_append, List.mem_append, not_or]
  refine ⟨⟨fun member => ?_, by decide⟩, fun member => ?_⟩
  · exact (Percent.written_encode name _ member).ne_ampersand rfl
  · exact (Percent.written_encode value _ member).ne_ampersand rfl

theorem toList_intercalate (parts : List String) :
    (String.intercalate "&" parts).toList = Text.joined '&' (parts.map String.toList) := by
  rw [String.toList_intercalate]
  induction parts with
  | nil => rfl
  | cons part rest ih =>
    cases rest with
    | nil => simp [Text.joined]
    | cons next rest =>
      rw [List.map_cons, List.map_cons, List.intercalate_cons_cons, ← List.map_cons, ih]
      simp [Text.joined]

/-- What is written of parameters is read back, in whatever order it stands. -/
theorem mapM_pairOf? {written : List String} {entries : List (String × String)}
    (perm : written.Perm (entries.map fun e => pairText e.1 e.2)) :
    ∃ pairs, (written.map String.toList).mapM pairOf? = some pairs ∧ pairs.Perm entries := by
  have parts := perm.map String.toList
  rw [List.map_map] at parts
  exact mapM_of_perm (fun e => pairOf?_pairText e.1 e.2) parts

/-- A form that is written is read back: each of its entries once and nothing else. -/
theorem read?_text (form : Form) :
    ∃ pairs, read? form.text = some pairs ∧ pairs.Perm form.entries := by
  have sorted := List.mergeSort_perm (form.entries.map fun e => pairText e.1 e.2) (· ≤ ·)
  unfold read?
  cases entries : form.entries with
  | nil => exact ⟨[], by simp [text, entries], .refl _⟩
  | cons e rest =>
    rw [entries] at sorted
    obtain ⟨pairs, read, perm⟩ := mapM_pairOf? sorted
    refine ⟨pairs, ?_, perm⟩
    generalize written : ((e :: rest).map fun e => pairText e.1 e.2).mergeSort (· ≤ ·) =
        parts at sorted read
    have filled : parts ≠ [] := fun blank => by simp [blank] at sorted
    have split : Text.fields '&' form.text.toList = parts.map String.toList := by
      rw [text, entries, written, toList_intercalate]
      refine Text.fields_joined '&' _ (by simpa using filled) fun part member => ?_
      obtain ⟨text, stands, rfl⟩ := List.mem_map.mp member
      obtain ⟨e, -, rfl⟩ := List.mem_map.mp (sorted.mem_iff.mp stands)
      exact not_mem_pairText e.1 e.2
    have filledText : form.text ≠ "" := fun blank => by
      -- A form without a character has one part, which is no pair.
      rw [blank, show Text.fields '&' ("" : String).toList = [[]] from rfl] at split
      rw [← split] at read
      cases read
    rw [if_neg filledText, split, read]

/-- A form of parameters with names of their own conveys these parameters. -/
theorem read?_ofList {parameters : List (String × String)}
    (distinct : (parameters.map Prod.fst).Nodup) :
    ∃ pairs, read? (text (Table.ofList parameters)) = some pairs ∧ pairs.Perm parameters := by
  obtain ⟨pairs, read, perm⟩ := read?_text (.ofList parameters)
  exact ⟨pairs, read, perm.trans (Table.entries_ofList_perm distinct)⟩

theorem forAction_ofList (action : String) (parameters : List (String × String)) :
    forAction action (.ofList parameters) =
      .ofList (parameters ++ [("Action", action), ("Version", version)]) := by
  rw [forAction, Table.insert_ofList, Table.insert_ofList, List.append_assoc]
  rfl

/-! ## Numbered parameters -/

section Numbered

variable {α : Type} {parameters : Nat → α → List (String × String)}

theorem mem_numbered {index : Nat} {items : List α} {p : String × String}
    (member : p ∈ numbered parameters index items) :
    ∃ i item, index ≤ i ∧ p ∈ parameters i item := by
  induction items generalizing index with
  | nil => cases member
  | cons item rest ih =>
    rcases List.mem_append.mp member with own | other
    · exact ⟨index, item, Nat.le_refl _, own⟩
    · obtain ⟨i, item, later, stands⟩ := ih other
      exact ⟨i, item, Nat.le_of_succ_le later, stands⟩

/-- Names that tell their number are names of their own. -/
theorem nodup_numbered (number : String → Option Nat)
    (numbers : ∀ i item, ∀ p ∈ parameters i item, number p.1 = some i)
    (single : ∀ i item, ((parameters i item).map Prod.fst).Nodup) (index : Nat) (items : List α) :
    ((numbered parameters index items).map Prod.fst).Nodup := by
  induction items generalizing index with
  | nil => exact .nil
  | cons item rest ih =>
    rw [numbered, List.map_append]
    refine List.nodup_append.mpr ⟨single index item, ih (index + 1), ?_⟩
    rintro name own _ other rfl
    obtain ⟨p, stands, named⟩ := List.mem_map.mp own
    obtain ⟨q, later, same⟩ := List.mem_map.mp other
    obtain ⟨i, item, beyond, found⟩ := mem_numbered later
    have first := numbers _ _ p stands
    have second := numbers _ _ q found
    rw [same, ← named, first] at second
    injection second
    omega

theorem numbered_eq_flatMap (index : Nat) (items : List α) :
    numbered parameters index items = (items.zipIdx index).flatMap fun e => parameters e.2 e.1 := by
  induction items generalizing index with
  | nil => rfl
  | cons item rest ih => rw [numbered, ih, List.zipIdx_cons, List.flatMap_cons]

end Numbered

/-! ## The number in a name -/

theorem after?_append (beginning rest : List Char) :
    Text.after? beginning (beginning ++ rest) = some rest := by
  induction beginning with
  | nil => rfl
  | cons c beginning ih => simp [Text.after?, ih]

/-- The number that follows a given beginning of a name, up to a full stop. -/
def numberAfter (beginning name : String) : Option Nat :=
  (Text.after? beginning.toList name.toList).map fun rest =>
    Nat.ofDigitChars 10 (rest.takeWhile fun c => c ≠ '.') 0

theorem takeWhile_repr (n : Nat) {rest : List Char}
    (ended : rest.takeWhile (fun c => c ≠ '.') = []) :
    (n.repr.toList ++ rest).takeWhile (fun c => c ≠ '.') = n.repr.toList := by
  have digits : ∀ c ∈ n.repr.toList, (fun c : Char => decide (c ≠ '.')) c = true := by
    intro c member
    rw [Nat.toList_repr] at member
    have digit := Nat.isDigit_of_mem_toDigits (by decide) (by decide) member
    refine decide_eq_true fun stop => ?_
    rw [stop] at digit
    exact absurd digit (by decide)
  rw [List.takeWhile_append_of_pos digits, ended, List.append_nil]

theorem numberAfter_append (beginning : String) (n : Nat) (rest : String)
    (ended : rest.toList.takeWhile (fun c => c ≠ '.') = []) :
    numberAfter beginning (beginning ++ n.repr ++ rest) = some n := by
  rw [numberAfter, String.toList_append, String.toList_append, List.append_assoc, after?_append,
    Option.map_some, takeWhile_repr n ended, Nat.toList_repr,
    Nat.ofDigitChars_toDigits (by decide) (by decide)]

theorem isDigit_of_mem_repr {n : Nat} {c : Char} (member : c ∈ n.repr.toList) :
    c.isDigit = true := by
  rw [Nat.toList_repr] at member
  exact Nat.isDigit_of_mem_toDigits (by decide) (by decide) member

/-- The digits of a number are read back as the number. -/
theorem ofDigits?_repr (n : Nat) : Decimal.ofDigits? n.repr.toList = some n := by
  have filled : ¬ (n.repr.toList = [] ∨ (!n.repr.toList.all Char.isDigit) = true) := by
    rw [List.all_eq_true.mpr fun c => isDigit_of_mem_repr, Nat.toList_repr]
    simp
  have value : Nat.ofDigitChars 10 n.repr.toList 0 = n := by
    rw [Nat.toList_repr]
    exact Nat.ofDigitChars_toDigits (by decide) (by decide)
  rw [Decimal.ofDigits?, if_neg filled]
  exact congrArg some value

/-- A number that is written in digits is read back. -/
theorem natural?_repr (n : Nat) : Decimal.natural? n.repr = some n := by
  unfold Decimal.natural?
  split
  next rest sign =>
    have digit : '+'.isDigit = true := isDigit_of_mem_repr (n := n) (by simp [sign])
    exact absurd digit (by decide)
  next => exact ofDigits?_repr n

/-- So is a number with a sign in front. -/
theorem integer?_repr (n : Int) : Decimal.integer? n.repr = some n := by
  cases n with
  | ofNat n =>
    show Decimal.integer? n.repr = some n
    unfold Decimal.integer?
    split
    next rest sign =>
      have digit : '-'.isDigit = true := isDigit_of_mem_repr (n := n) (by simp [sign])
      exact absurd digit (by decide)
    next rest sign =>
      have digit : '+'.isDigit = true := isDigit_of_mem_repr (n := n) (by simp [sign])
      exact absurd digit (by decide)
    next => rw [ofDigits?_repr]; rfl
  | negSucc n =>
    have text : (Int.repr (.negSucc n)).toList = '-' :: (n + 1).repr.toList := by
      simp [Int.repr]
    rw [Decimal.integer?, text]
    simp only [ofDigits?_repr]
    rfl

end Form
end MessageQueue
