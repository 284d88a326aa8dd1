import MessageQueue.Proofs.Table
import MessageQueue.Settings.Stored
import Mathlib.Data.List.Nodup

/-!
# Reading the fields of a record

An object holds fields if they are all it has under the names of a record, in any order and among
members of other names (`Record.Holds`).  From such an object each field is read as its value says,
or has its default where it is not given (`Record.Found.member?_eq`, `Record.field_eq`).  What names
there are, and how their values are written and read, is all that a record adds to this.
-/

namespace MessageQueue

namespace Record

/-- Fields with a value for those that are given. -/
abbrev Fields := List (String × Option Json)

/-- The fields that are given. -/
def present (fields : Fields) : List (String × Json) :=
  fields.filterMap fun f => f.2.map fun value => (f.1, value)

/-- An object holds the given ones of these fields, and no other of their names. -/
def Holds (members : List (String × Json)) (fields : Fields) : Prop :=
  (members.filter fun m => (fields.map Prod.fst).contains m.1).Perm (present fields)

theorem mem_present {fields : Fields} {name : String} {value : Json} :
    (name, value) ∈ present fields ↔ (name, some value) ∈ fields := by
  simp only [present, List.mem_filterMap, Option.map_eq_some_iff, Prod.mk.injEq, Prod.exists]
  constructor
  · rintro ⟨_, _, member, _, rfl, rfl, rfl⟩
    exact member
  · intro member
    exact ⟨name, some value, member, value, rfl, rfl, rfl⟩

theorem names_present (fields : Fields) :
    ((present fields).map Prod.fst).Sublist (fields.map Prod.fst) := by
  induction fields with
  | nil => exact .slnil
  | cons f fields ih =>
    obtain ⟨name, value⟩ := f
    cases value with
    | none => exact ih.cons name
    | some value => exact ih.cons_cons name

/-- The fields themselves make an object that holds them. -/
theorem holds_present (fields : Fields) : Holds (present fields) fields := by
  have own : ∀ m ∈ present fields, (fields.map Prod.fst).contains m.1 = true := fun m member =>
    List.contains_iff_mem.mpr ((names_present fields).subset (List.mem_map_of_mem member))
  rw [Holds, List.filter_eq_self.mpr own]

theorem member?_eq_find (name : String) (members : List (String × Json)) :
    Json.member? name members = Table.find name members := by
  induction members with
  | nil => rfl
  | cons m members ih => rw [Json.member?, Table.find, ih]

/-- Members that stand for the fields given, of fields with names of their own. -/
structure Found (members : List (String × Json)) (fields : Fields) : Prop where
  distinct : (fields.map Prod.fst).Nodup
  perm : members.Perm (present fields)

section

variable {members : List (String × Json)} {fields : Fields}

/-- Each field is found under its name. -/
theorem Found.member?_eq (found : Found members fields) :
    ∀ f ∈ fields, Json.member? f.1 members = f.2 := by
  intro ⟨name, value⟩ listed
  have unique : (members.map Prod.fst).Nodup :=
    (found.perm.map Prod.fst).nodup_iff.mpr ((names_present fields).nodup found.distinct)
  rw [member?_eq_find]
  cases value with
  | some value => exact Table.find_of_mem unique (found.perm.mem_iff.mpr (mem_present.mpr listed))
  | none =>
    refine Table.find_eq_none fun known => ?_
    obtain ⟨⟨_, value⟩, member, rfl⟩ := List.mem_map.mp known
    have twice :=
      List.inj_on_of_nodup_map found.distinct listed (mem_present.mp (found.perm.mem_iff.mp member))
        rfl
    cases twice

/-- What a record with these fields takes from an object that holds them are these fields. -/
theorem Holds.fields?_eq {names : List String} (holds : Holds members fields)
    (named : fields.map Prod.fst = names)
    (distinct : names.Nodup) :
    ∃ known, fields? names (.object members) = some known ∧ Found known fields := by
  subst named
  have unique := (holds.map Prod.fst).nodup_iff.mpr ((names_present fields).nodup distinct)
  exact ⟨_, if_pos unique, distinct, holds⟩

end

/-! ## Values of fields -/

/-- What is written of a type is read back. -/
def Inverse {α : Type} (write : α → Json) (read : Json → Option α) : Prop :=
  ∀ a, read (write a) = some a

/-- A field that is written in its way is read back, or has its default where it is not given. -/
theorem field_eq {α : Type} {members : List (String × Json)} {name : String} {given : Option α}
    {write : α → Json}
    {read : Json → Option α} (member : Json.member? name members = given.map write)
    (inverse : Inverse write read)
    (default : α) : field members name read (some default) = some (given.getD default) := by
  rw [field, member]
  cases given with
  | none => rfl
  | some a => exact inverse a

theorem inverse_text : Inverse .text Json.asText? := fun _ => rfl

theorem inverse_ofOption : Inverse ofOption (optional Json.asText?) := by
  intro text
  cases text <;> rfl

theorem inverse_count32 : Inverse (fun n : UInt32 => .ofNat n.toNat) count32 := by
  intro n
  have bound : n.toNat < Nat.pow 2 32 := n.toNat_lt
  simp [count32, Json.ofNat, Json.asNatBelow?, bound]

theorem inverse_count64 : Inverse (fun n : UInt64 => .ofNat n.toNat) count64 := by
  intro n
  have bound : n.toNat < Nat.pow 2 64 := n.toNat_lt
  simp [count64, Json.ofNat, Json.asNatBelow?, bound]

end Record
end MessageQueue
