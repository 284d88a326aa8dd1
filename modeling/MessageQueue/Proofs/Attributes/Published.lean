import MessageQueue.Proofs.Attributes
import MessageQueue.Proofs.Table
import MessageQueue.Settings.Stored

/-!
# What is published of attributes

Under each name with values one text is published, the values with commas between them.  Cut at all
its commas this text gives the parts of each value between the commas of its own, one value after
the other (`commaParts_intercalate`); and the text is these parts with commas between them
(`intercalate_commaParts`).  So what is published and the parts determine each other
(`toSend_eq_iff`): what is lost is where a value ends, if commas stand in the values, and nothing
else.

A value without a comma is its own only part.  This holds of the empty text too, so values that are
empty come back as they were, wherever they stand, and one empty value is not the same as no value,
of which nothing is published.

`published_up_to_commas` puts this together.
-/

namespace MessageQueue

/-! ## Parts between commas -/

/-- The parts of a text between its commas. -/
def commaParts (text : String) : List String := (text.split ',').toList.map String.Slice.copy

theorem commaParts_eq (text : String) :
    commaParts text = (text.toList.splitOn ',').map String.ofList :=
  String.toList_split_char

theorem commaParts_ne_nil (text : String) : commaParts text ≠ [] := by
  rw [commaParts_eq]
  exact fun nothing => List.splitOn_ne_nil ',' text.toList (List.map_eq_nil_iff.mp nothing)

theorem commaParts_of_not_mem {text : String} (plain : ',' ∉ text.toList) :
    commaParts text = [text] := by
  rw [commaParts_eq, List.splitOn_eq_singleton plain, List.map_singleton, String.ofList_toList]

theorem commaParts_append (front back : String) :
    commaParts (front ++ "," ++ back) = commaParts front ++ commaParts back := by
  have letters : (front ++ "," ++ back).toList = front.toList ++ ',' :: back.toList := by simp
  rw [commaParts_eq, letters, List.splitOn_append_cons_self, List.map_append, ← commaParts_eq,
    ← commaParts_eq]

/-- Values with commas between them have the parts of the values. -/
theorem commaParts_intercalate {values : List String} (some_value : values ≠ []) :
    commaParts (String.intercalate "," values) = values.flatMap commaParts := by
  induction values with
  | nil => exact absurd rfl some_value
  | cons value rest ih =>
    cases rest with
    | nil => simp
    | cons next rest =>
      have others : commaParts (String.intercalate "," (next :: rest)) =
          (next :: rest).flatMap commaParts :=
        ih (List.cons_ne_nil next rest)
      rw [String.intercalate_cons_cons, commaParts_append, others, ← List.flatMap_cons]

/-- A text is its parts with commas between them. -/
theorem intercalate_commaParts (text : String) :
    String.intercalate "," (commaParts text) = text := by
  have letters (parts : List (List Char)) :
      (parts.map String.ofList).map String.toList = parts := by simp
  rw [← String.toList_inj, String.toList_intercalate, commaParts_eq, letters]
  exact List.intercalate_splitOn ','

namespace Attributes

/-! ## What is known from what is published -/

/-- The parts of the values under a name, between the commas that stand in them. -/
def parts (a : Attributes) (name : String) : List String := (a.all name).flatMap commaParts

theorem parts_eq_nil_iff (a : Attributes) (name : String) :
    a.parts name = [] ↔ a.all name = [] := by
  rw [parts, List.flatMap_eq_nil_iff, List.eq_nil_iff_forall_not_mem]
  constructor
  · intro nothing value held
    exact commaParts_ne_nil value (nothing value held)
  · intro nothing value held
    exact absurd held (nothing value)

/-- The parts are known from what is published. -/
theorem parts_eq (a : Attributes) (name : String) :
    a.parts name = ((a.toSend.get? name).map fun value => commaParts value.text).getD [] := by
  rw [get?_toSend]
  split
  next nothing => exact (a.parts_eq_nil_iff name).mpr nothing
  next some_value => exact (commaParts_intercalate some_value).symm

/-- What is published is known from the parts. -/
theorem get?_toSend_eq_of_parts (a : Attributes) (name : String) :
    a.toSend.get? name =
      if a.parts name = [] then none else
        some (.ofText (String.intercalate "," (a.parts name))) := by
  rw [get?_toSend]
  by_cases nothing : a.all name = []
  · rw [if_pos nothing, if_pos ((a.parts_eq_nil_iff name).mpr nothing)]
  · have joined : String.intercalate "," (a.parts name) = String.intercalate "," (a.all name) := by
      rw [parts, ← commaParts_intercalate nothing, intercalate_commaParts]
    rw [if_neg nothing, if_neg (mt (a.parts_eq_nil_iff name).mp nothing), joined]

/-- Attributes are published alike exactly if their values have the same parts. -/
theorem toSend_eq_iff (a b : Attributes) :
    a.toSend = b.toSend ↔ ∀ name, a.parts name = b.parts name := by
  constructor
  · intro same name
    rw [parts_eq, parts_eq, same]
  · intro same
    refine Table.ext_get? fun name => ?_
    rw [get?_toSend_eq_of_parts, get?_toSend_eq_of_parts, same]

example : (ofPairs [("k", "a,b")]).toSend = (ofPairs [("k", "a"), ("k", "b")]).toSend := by decide

/-! ## Attributes without commas -/

/-- No value has a comma in it. -/
def CommaFree (a : Attributes) : Prop := ∀ entry ∈ a.toList, ∀ value ∈ entry.2, ',' ∉ value.toList

instance : DecidablePred CommaFree := fun a =>
  inferInstanceAs (Decidable (∀ entry ∈ a.toList, ∀ value ∈ entry.2, ',' ∉ value.toList))

theorem CommaFree.not_mem {a : Attributes} (free : a.CommaFree) {name value : String}
    (held : value ∈ a.all name) :
    ',' ∉ value.toList := by
  have stored := get?_lists_of_all (List.ne_nil_of_mem held)
  exact free (name, a.all name) ((a.lists.mem_entries_iff (name, a.all name)).mpr stored) value held

theorem CommaFree.parts_eq_all {a : Attributes} (free : a.CommaFree) (name : String) :
    a.parts name = a.all name := by
  have single : ∀ value ∈ a.all name, commaParts value = [value] := fun value held =>
    commaParts_of_not_mem (free.not_mem held)
  rw [parts, List.flatMap_congr single, List.flatMap_singleton']

/-- Two attributes agree on every name under which one of them has values. -/
def Agree (a b : Attributes) : Prop :=
  ∀ name, a.all name ≠ [] ∨ b.all name ≠ [] → a.lists.get? name = b.lists.get? name

theorem agree_iff (a b : Attributes) : a.Agree b ↔ ∀ name, a.all name = b.all name := by
  constructor
  · intro agree name
    by_cases some_value : a.all name ≠ [] ∨ b.all name ≠ []
    · rw [all, agree name some_value, all]
    · rw [not_or, not_not, not_not] at some_value
      exact some_value.1.trans some_value.2.symm
  · intro same name some_value
    rw [same, or_self] at some_value
    rw [get?_lists_of_all some_value, get?_lists_of_all (same name ▸ some_value), same]

/-! ## What is published -/

/-- Under each name with values there is one entry, which is of the type of texts and has the parts
of the values, and under the others there is none.  So attributes are published alike exactly if the
parts of their values are the same under each name.  Where no value has a comma in it, an entry cut
at its commas gives the values under its name, and attributes are published alike exactly if they
agree on the names with values. -/
theorem published_up_to_commas :
    (∀ (a : Attributes) (name : String),
      (a.all name ≠ [] → ∃ value, a.toSend.entries.filter (·.1 = name) = [(name, value)] ∧
        value.dataType = "String" ∧ commaParts value.text = (a.all name).flatMap commaParts) ∧
      (a.all name = [] → a.toSend.entries.filter (·.1 = name) = [])) ∧
    (∀ a b : Attributes, a.toSend = b.toSend ↔
      ∀ name, (a.all name).flatMap commaParts = (b.all name).flatMap commaParts) ∧
    (∀ a : Attributes, a.CommaFree → ∀ name value, (name, value) ∈ a.toSend.entries →
      a.lists.get? name = some (commaParts value.text)) ∧
    (∀ a b : Attributes, a.CommaFree → b.CommaFree → (a.toSend = b.toSend ↔ a.Agree b)) := by
  refine ⟨fun a name => ⟨?one, ?none⟩, toSend_eq_iff, ?back, ?agree⟩
  case one =>
    intro some_value
    refine ⟨.ofText (String.intercalate "," (a.all name)), ?_, rfl,
      commaParts_intercalate some_value⟩
    rw [Table.filter_entries, get?_toSend, if_neg some_value]
    rfl
  case none =>
    intro nothing
    rw [Table.filter_entries, get?_toSend, if_pos nothing]
    rfl
  case back =>
    intro a free name value published
    have found : a.toSend.get? name = some value :=
      (a.toSend.mem_entries_iff (name, value)).mp published
    have parts := a.parts_eq name
    rw [found, Option.map_some, Option.getD_some, free.parts_eq_all] at parts
    rw [get?_lists_of_all (parts ▸ commaParts_ne_nil value.text), parts]
  case agree =>
    intro a b free freeToo
    rw [toSend_eq_iff, agree_iff]
    simp only [free.parts_eq_all, freeToo.parts_eq_all]

/-- Empty values come back from between their commas, and an empty list that was read from storage
is not published. -/
theorem published_up_to_commas_of_empty_list :
    let a : Attributes := ⟨.ofList [("k", ["", "a", ""]), ("l", [])]⟩
    let b : Attributes := ofPairs [("k", ""), ("k", "a"), ("k", "")]
    ofJson? (.object [("l", .array []), ("k", .array [.text "", .text "a", .text ""])]) = some a ∧
      a ≠ b ∧
      a.CommaFree ∧ b.CommaFree ∧ a.Agree b ∧ a.toSend = b.toSend ∧
      (∃ value, a.toSend.entries.filter (·.1 = "k") = [("k", value)] ∧
        value.dataType = "String" ∧ commaParts value.text = ["", "a", ""]) ∧
      a.toSend.entries.filter (·.1 = "l") = [] := by
  intro a b
  obtain ⟨entries, -, back, alike⟩ := published_up_to_commas
  have free : a.CommaFree := by decide
  have freeToo : b.CommaFree := by decide
  have same : a.toSend = b.toSend := by decide
  obtain ⟨value, one, typed, -⟩ := (entries a "k").1 (by decide)
  have member : ("k", value) ∈ a.toSend.entries :=
    List.mem_of_mem_filter (one ▸ List.mem_singleton_self _)
  have parts : some ["", "a", ""] = some (commaParts value.text) := back a free "k" value member
  exact ⟨by decide, by decide, free, freeToo, (alike a b free freeToo).mp same, same,
    ⟨value, one, typed, (Option.some.inj parts).symm⟩, (entries a "l").2 (by decide)⟩

end Attributes
end MessageQueue
