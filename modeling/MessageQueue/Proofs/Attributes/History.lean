import Mathlib.Data.Set.Card
import MessageQueue.Proofs.Attributes
import MessageQueue.Proofs.Table

/-!
# The history of attributes

Attributes are what their changes made of them.  A change clears a name if it removes it or sets a
value under it.  What a history leaves under a name are the values that were added after the last
change that cleared it, behind the value that this change set, if it set one (`Leaves`).  Every
history leaves one list of values under each name, and this is the list that the attributes hold
(`all_eq_iff`).  The proof needs no more of a change than that it adds to what is there unless it
clears it (`all_apply_of_kept`).

No change leaves an empty list behind (`Filled`).  So attributes with a history are known from the
values under each name (`Filled.eq_iff`), and their size counts the names that have values.
Attributes that are read back from storage may hold empty lists, and of these neither need be true.

`attributes_follow_history` puts this together.
-/

namespace MessageQueue

namespace Table

/-- The size of a table is the number of its keys. -/
theorem encard_keys {β : Type} (t : Table β) :
    {key | ∃ value, t.get? key = some value}.encard = t.size := by
  have members : {key | ∃ value, t.get? key = some value} = (t.keys.toFinset : Set String) := by
    rw [List.coe_toFinset]
    exact Set.ext fun key => (t.mem_keys_iff key).symm
  have distinct : t.keys.Nodup := t.nodup_keys
  rw [members, Set.encard_coe_eq_coe_finsetCard, List.toFinset_card_of_nodup distinct, keys,
    List.length_map, size]

end Table

namespace Attributes

/-! ## Histories -/

/-- A change of attributes. -/
inductive Change where
  | set (name value : String)
  | add (name value : String)
  | remove (name : String)

namespace Change

/-- The name under which something changes. -/
def name : Change → String
  | .set name _ => name
  | .add name _ => name
  | .remove name => name

/-- Makes a change. -/
def apply (a : Attributes) : Change → Attributes
  | .set name value => a.set name value
  | .add name value => a.add name value
  | .remove name => a.remove name

/-- Whether a change does away with what is under a name. -/
def Clears (name : String) : Change → Prop
  | .set changed _ => changed = name
  | .add _ _ => False
  | .remove removed => removed = name

end Change

/-- Attributes after changes, made one after the other. -/
def after (a : Attributes) (changes : List Change) : Attributes := changes.foldl Change.apply a

/-- The changes that collecting pairs consists of. -/
def collected (pairs : List (String × String)) : List Change := pairs.map fun p => .add p.1 p.2

theorem after_append (a : Attributes) (earlier later : List Change) :
    a.after (earlier ++ later) = (a.after earlier).after later := List.foldl_append

theorem after_collected (pairs : List (String × String)) :
    empty.after (collected pairs) = ofPairs pairs :=
  List.foldl_map

/-- The values that changes add under a name, in order. -/
def addedTo (name : String) (changes : List Change) : List String :=
  changes.filterMap fun
    | .add changed value => if changed = name then some value else none
    | _ => none

/-- The values that a history leaves under a name. -/
inductive Leaves (name : String) : List Change → List String → Prop where
  /-- The name was never cleared. -/
  | added {history : List Change} (kept : ∀ c ∈ history, ¬ c.Clears name) :
      Leaves name history (addedTo name history)
  /-- The name was last cleared by its removal. -/
  | removed (earlier : List Change) {later : List Change} (kept : ∀ c ∈ later, ¬ c.Clears name) :
      Leaves name (earlier ++ .remove name :: later) (addedTo name later)
  /-- The name was last cleared by a value that was set. -/
  | set (earlier : List Change) (value : String) {later : List Change}
      (kept : ∀ c ∈ later, ¬ c.Clears name) :
      Leaves name (earlier ++ .set name value :: later) (value :: addedTo name later)

/-! ## What changes do -/

/-- A change leaves all names but its own as they are. -/
theorem get?_apply_of_ne (a : Attributes) {c : Change} {name : String} (other : c.name ≠ name) :
    (c.apply a).lists.get? name = a.lists.get? name := by
  cases c with
  | set changed value =>
    have apart : changed ≠ name := other
    simp [Change.apply, set, apart]
  | add changed value =>
    have apart : changed ≠ name := other
    simp [Change.apply, add, apart]
  | remove removed =>
    have apart : removed ≠ name := other
    simp [Change.apply, remove, apart]

theorem all_apply_of_kept (a : Attributes) {c : Change} {name : String} (kept : ¬ c.Clears name) :
    (c.apply a).all name = a.all name ++ addedTo name [c] := by
  cases c with
  | set changed value =>
    have apart : changed ≠ name := kept
    simp [Change.apply, addedTo, apart]
  | add changed value =>
    simp only [Change.apply, all_add]
    by_cases own : changed = name
    · simp [addedTo, own]
    · simp [addedTo, own]
  | remove removed =>
    have apart : removed ≠ name := kept
    simp [Change.apply, addedTo, apart]

/-- While a name is not cleared, values only come behind those under it. -/
theorem all_after_of_kept (a : Attributes) {name : String} {changes : List Change}
    (kept : ∀ c ∈ changes, ¬ c.Clears name) :
    (a.after changes).all name = a.all name ++ addedTo name changes := by
  induction changes generalizing a with
  | nil => exact (List.append_nil _).symm
  | cons c changes ih =>
    obtain ⟨first, others⟩ := List.forall_mem_cons.mp kept
    calc ((c.apply a).after changes).all name
      _ = (c.apply a).all name ++ addedTo name changes := ih (c.apply a) others
      _ = a.all name ++ (addedTo name [c] ++ addedTo name changes) := by
        rw [all_apply_of_kept a first, List.append_assoc]
      _ = a.all name ++ addedTo name (c :: changes) := by
        rw [addedTo, addedTo, addedTo, ← List.filterMap_append, List.singleton_append]

/-! ## What histories leave -/

theorem Leaves.all_eq {name : String} {history : List Change} {values : List String}
    (leaves : Leaves name history values) : (empty.after history).all name = values := by
  cases leaves with
  | added kept => exact all_after_of_kept empty kept
  | removed earlier kept =>
    rw [after_append]
    refine (all_after_of_kept ((empty.after earlier).remove name) kept).trans ?_
    rw [all_remove, if_pos rfl, List.nil_append]
  | set earlier value kept =>
    rw [after_append]
    refine (all_after_of_kept ((empty.after earlier).set name value) kept).trans ?_
    rw [all_set, if_pos rfl, List.singleton_append]

/-- Every history leaves some values.  Either its last change clears the name, or what was the last
to clear it before still is. -/
theorem exists_leaves (name : String) (history : List Change) :
    ∃ values, Leaves name history values := by
  induction history using List.reverseRecOn with
  | nil => exact ⟨_, .added nofun⟩
  | append_singleton history c ih =>
    by_cases clears : c.Clears name
    · cases c with
      | set changed value =>
        obtain rfl : changed = name := clears
        exact ⟨_, .set history value nofun⟩
      | add changed value => exact clears.elim
      | remove removed =>
        obtain rfl : removed = name := clears
        exact ⟨_, .removed history nofun⟩
    · have still {later : List Change} (kept : ∀ d ∈ later, ¬ d.Clears name) :
          ∀ d ∈ later ++ [c], ¬ d.Clears name :=
        List.forall_mem_append.mpr ⟨kept, List.forall_mem_singleton.mpr clears⟩
      obtain ⟨values, leaves⟩ := ih
      cases leaves with
      | added kept => exact ⟨_, .added (still kept)⟩
      | removed earlier kept =>
        rw [List.append_assoc]
        exact ⟨_, .removed earlier (still kept)⟩
      | set earlier value kept =>
        rw [List.append_assoc]
        exact ⟨_, .set earlier value (still kept)⟩

/-- What attributes hold under a name is what their history leaves there. -/
theorem all_eq_iff (history : List Change) (name : String) (values : List String) :
    (empty.after history).all name = values ↔ Leaves name history values := by
  constructor
  · rintro rfl
    obtain ⟨values, leaves⟩ := exists_leaves name history
    rwa [leaves.all_eq]
  · exact Leaves.all_eq

/-! ## No list is empty -/

/-- Under no name there is an empty list. -/
def Filled (a : Attributes) : Prop := ∀ name, a.lists.get? name ≠ some []

theorem filled_empty : empty.Filled := nofun

theorem Filled.apply {a : Attributes} (filled : a.Filled) (c : Change) : (c.apply a).Filled := by
  intro name
  by_cases own : c.name = name
  · subst own
    cases c with
    | set changed value => simp [Change.apply, Change.name, set]
    | add changed value => simp [Change.apply, Change.name, add]
    | remove removed => simp [Change.apply, Change.name, remove]
  · rw [get?_apply_of_ne a own]
    exact filled name

theorem Filled.after {a : Attributes} (filled : a.Filled) (changes : List Change) :
    (a.after changes).Filled := by
  induction changes generalizing a with
  | nil => exact filled
  | cons c changes ih => exact ih (filled.apply c)

namespace Filled

variable {a b : Attributes}

theorem get?_eq_some_iff (filled : a.Filled) {name : String} {values : List String} :
    a.lists.get? name = some values ↔ a.all name = values ∧ values ≠ [] := by
  constructor
  · intro found
    have held : a.all name = values := by rw [all, found, Option.getD_some]
    exact ⟨held, fun emptied => filled name (emptied ▸ found)⟩
  · rintro ⟨rfl, some_value⟩
    exact get?_lists_of_all some_value

/-- Attributes without empty lists are known from the values under each name. -/
theorem eq_iff (filled : a.Filled) (filledToo : b.Filled) :
    a = b ↔ ∀ name, a.all name = b.all name := by
  constructor
  · rintro rfl name
    rfl
  · intro same
    have lists : a.lists = b.lists := Table.ext_get? fun name => Option.ext fun values => by
      rw [filled.get?_eq_some_iff, filledToo.get?_eq_some_iff, same]
    exact congrArg Attributes.mk lists

/-- The size of attributes without empty lists is the number of names that have values. -/
theorem encard_names (filled : a.Filled) : {name | a.all name ≠ []}.encard = a.size := by
  have named : {name | a.all name ≠ []} = {name | ∃ values, a.lists.get? name = some values} := by
    ext name
    simp [filled.get?_eq_some_iff]
  rw [named, Table.encard_keys, size]

end Filled

/-! ## What attributes hold -/

/-- What attributes hold, told by their history. -/
structure Follows (a : Attributes) (history : List Change) : Prop where
  all_eq_iff (name : String) (values : List String) : a.all name = values ↔
    Leaves name history values
  first?_eq (name : String) : a.first? name = (a.all name).head?
  filled : ∀ entry ∈ a.toList, entry.2 ≠ []
  encard_names : {name | a.all name ≠ []}.encard = a.size

/-- Attributes that are made by collecting pairs and changed afterwards follow their history: under
each name they hold the values added since it was last cleared, behind the value that was set then,
if any; no list is empty, and the size is the number of names with values.  A change leaves all
names but its own as they are, whatever attributes it changes.  Attributes collected from two lists
of pairs are equal exactly if each name has the same values in both, in the same order. -/
theorem attributes_follow_history :
    (∀ (pairs : List (String × String)) (changes : List Change),
      ((ofPairs pairs).after changes).Follows (collected pairs ++ changes)) ∧
    (∀ (a : Attributes) (c : Change) (name : String),
      c.name ≠ name → (c.apply a).lists.get? name = a.lists.get? name) ∧
    (∀ pairs others : List (String × String),
      ofPairs pairs = ofPairs others ↔ ∀ name, valuesIn pairs name = valuesIn others name) := by
  have filled (history : List Change) : (empty.after history).Filled := filled_empty.after history
  refine ⟨?follow, fun a c name => get?_apply_of_ne a, ?pairs⟩
  case follow =>
    intro pairs changes
    rw [← after_collected, ← after_append]
    refine ⟨all_eq_iff _, fun name => rfl, ?_, (filled _).encard_names⟩
    intro entry stored emptied
    have found := (Table.mem_entries_iff _ entry).mp stored
    exact filled _ entry.1 (emptied ▸ found)
  case pairs =>
    intro pairs others
    rw [← after_collected, ← after_collected, (filled _).eq_iff (filled _), after_collected,
      after_collected]
    simp only [all_ofPairs]

/-- A name is set between additions and another one is removed. -/
theorem attributes_follow_history_of_changes :
    let a := (ofPairs [("k", "a"), ("l", "x"), ("k", "b")]).after
      [.add "l" "y", .set "k" "c", .remove "l", .add "k" "d", .add "l" "z"]
    a.all "k" = ["c", "d"] ∧ a.first? "k" = some "c" ∧ a.all "l" = ["z"] ∧
      "k" ≠ "l" ∧ ((Change.remove "k").apply a).lists.get? "l" = a.lists.get? "l" ∧
      ofPairs [("k", "a"), ("l", "x"), ("k", "b")] =
        ofPairs [("l", "x"), ("k", "a"), ("k", "b")] := by
  intro a
  obtain ⟨follow, apart, same⟩ := attributes_follow_history
  have follows := follow [("k", "a"), ("l", "x"), ("k", "b")]
    [.add "l" "y", .set "k" "c", .remove "l", .add "k" "d", .add "l" "z"]
  have k : a.all "k" = ["c", "d"] := (follows.all_eq_iff "k" _).mpr <|
    .set [.add "k" "a", .add "l" "x", .add "k" "b", .add "l" "y"] "c" (by simp [Change.Clears])
  have l : a.all "l" = ["z"] := (follows.all_eq_iff "l" _).mpr <|
    .removed [.add "k" "a", .add "l" "x", .add "k" "b", .add "l" "y", .set "k" "c"]
      (by simp [Change.Clears])
  refine ⟨k, ?_, l, by decide, apart a (.remove "k") "l" (by decide), (same _ _).mpr fun name => ?_⟩
  · rw [follows.first?_eq, k]
    rfl
  · by_cases k : "k" = name
    · subst k
      rfl
    · by_cases l : "l" = name
      · subst l
        rfl
      · simp [valuesIn, k, l]

end Attributes
end MessageQueue
