import MessageQueue.Message

/-!
# Attributes and what is sent of them

Attributes that are built by adding pairs hold under each name the values of its pairs, in order
(`Attributes.all_ofPairs`).  What is sent under a name are these values with commas between them,
and nothing is sent under a name without values (`Attributes.get?_toSend`).
-/

namespace MessageQueue.Attributes

/-- The values that pairs give to a name, in order. -/
def valuesIn (pairs : List (String × String)) (name : String) : List String :=
  (pairs.filter (·.1 = name)).map (·.2)

theorem all_foldl_add (pairs : List (String × String)) (a : Attributes) (name : String) :
    (pairs.foldl (fun a p => a.add p.1 p.2) a).all name = a.all name ++ valuesIn pairs name := by
  induction pairs generalizing a with
  | nil => simp [valuesIn]
  | cons p rest ih =>
    rw [List.foldl_cons, ih, all_add]
    by_cases own : p.1 = name
    · simp [valuesIn, own]
    · simp [valuesIn, own]

theorem all_ofPairs (pairs : List (String × String)) (name : String) :
    (ofPairs pairs).all name = valuesIn pairs name := all_foldl_add pairs empty name

/-- Values that are under a name are stored there. -/
theorem get?_lists_of_all {a : Attributes} {name : String} (some_value : a.all name ≠ []) :
    a.lists.get? name = some (a.all name) := by
  rw [all] at some_value ⊢
  cases found : a.lists.get? name with
  | none => simp [found] at some_value
  | some values => rfl

theorem get?_toSend (a : Attributes) (name : String) :
    a.toSend.get? name =
      if a.all name = [] then none else some (.ofText (String.intercalate "," (a.all name))) := by
  refine Option.ext fun value => ?_
  have entry : a.toSend.get? name = some value ↔
      ∃ values, a.lists.get? name = some values ∧ values ≠ [] ∧
        .ofText (String.intercalate "," values) = value := by
    rw [← Table.mem_entries_iff a.toSend (name, value)]
    simp only [toSend, List.mem_filterMap, Prod.exists, Option.ite_none_left_eq_some,
      Option.some.injEq, Prod.mk.injEq]
    constructor
    · rintro ⟨_, values, member, some_value, rfl, text⟩
      exact ⟨values, (Table.mem_entries_iff a.lists _).mp member, some_value, text⟩
    · rintro ⟨values, found, some_value, text⟩
      exact ⟨name, values, (Table.mem_entries_iff a.lists (name, values)).mpr found, some_value,
        rfl, text⟩
  rw [entry, all]
  cases a.lists.get? name with
  | none => simp
  | some values => simp

end MessageQueue.Attributes
