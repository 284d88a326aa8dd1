import MessageQueue.Table
import Mathlib.Data.List.Basic

/-!
# Tables made of lists

A list of pairs with keys of their own has the entries of the table that is made of it, in another
order (`Table.entries_ofList_perm`).  So the entries of a table make this table again, whatever
order they are put in (`Table.ofList_of_perm`), and look-up in such a list finds what stands in it.
In the entries of a table a key stands once if it has a value, and not at all otherwise
(`Table.filter_entries`).

What is written of the items of a list, and put in some order, is read back item by item
(`mapM_of_perm`).
-/

namespace MessageQueue

/-! ## Reading lists -/

/-- Parts that can all be read are read one by one. -/
theorem mapM_eq_filterMap {α β : Type} {f : α → Option β} {parts : List α}
    (readable : ∀ a ∈ parts, (f a).isSome) :
    parts.mapM f = some (parts.filterMap f) := by
  induction parts with
  | nil => rfl
  | cons a rest ih =>
    obtain ⟨first, others⟩ := List.forall_mem_cons.mp readable
    obtain ⟨b, read⟩ := Option.isSome_iff_exists.mp first
    rw [List.mapM_cons, ih others, List.filterMap_cons_some read, read]
    rfl

/-- What is written of items is read back, in whatever order it stands. -/
theorem mapM_of_perm {α β : Type} {write : β → α} {read : α → Option β}
    (inverse : ∀ b, read (write b) = some b)
    {written : List α} {items : List β} (perm : written.Perm (items.map write)) :
    ∃ found, written.mapM read = some found ∧ found.Perm items := by
  refine ⟨written.filterMap read, mapM_eq_filterMap ?_, ?_⟩
  · intro part member
    obtain ⟨item, -, rfl⟩ := List.mem_map.mp (perm.mem_iff.mp member)
    rw [inverse]
    rfl
  · refine (perm.filterMap read).trans (.of_eq ?_)
    rw [List.filterMap_map]
    exact (List.filterMap_congr fun item _ => inverse item).trans List.filterMap_some

namespace Table

variable {β : Type}

/-! ## Making a table -/

theorem put_perm {key : String} {value : β} {entries : List (String × β)}
    (new : key ∉ entries.map Prod.fst) :
    (put key value entries).Perm ((key, value) :: entries) := by
  induction entries with
  | nil => exact .refl _
  | cons head rest ih =>
    obtain ⟨k, v⟩ := head
    rw [List.map_cons, List.mem_cons, not_or] at new
    simp only [put]
    split
    next => exact .refl _
    next =>
      rw [if_neg new.1]
      exact ((ih new.2).cons (k, v)).trans (.swap (key, value) (k, v) rest)

theorem foldl_insert_perm {pairs : List (String × β)} (distinct : (pairs.map Prod.fst).Nodup)
    (t : Table β) (new : ∀ key ∈ pairs.map Prod.fst, key ∉ t.entries.map Prod.fst) :
    (pairs.foldl (fun t p => t.insert p.1 p.2) t).entries.Perm (pairs ++ t.entries) := by
  induction pairs generalizing t with
  | nil => exact .refl _
  | cons p rest ih =>
    obtain ⟨unique, distinct⟩ := List.nodup_cons.mp distinct
    obtain ⟨first, others⟩ := List.forall_mem_cons.mp new
    have put : (t.insert p.1 p.2).entries.Perm (p :: t.entries) := put_perm first
    refine (ih distinct (t.insert p.1 p.2) fun key member known => ?_).trans
      ((put.append_left rest).trans List.perm_middle)
    rcases List.mem_cons.mp ((put.map Prod.fst).mem_iff.mp known) with rfl | old
    · exact unique member
    · exact others key member old

/-- The entries of a table made of pairs with keys of their own are these pairs. -/
theorem entries_ofList_perm {pairs : List (String × β)} (distinct : (pairs.map Prod.fst).Nodup) :
    (ofList pairs).entries.Perm pairs := by
  have perm := foldl_insert_perm distinct empty fun key _ known => absurd known List.not_mem_nil
  rwa [show (empty : Table β).entries = [] from rfl, List.append_nil] at perm

theorem nodup_keys (t : Table β) : (t.entries.map Prod.fst).Nodup := by
  refine List.pairwise_map.mpr (t.sorted.imp ?_)
  intro first next before same
  exact String.lt_irrefl next.1 (same ▸ before)

/-- A table is made again of its entries, in whatever order they come. -/
theorem ofList_of_perm {pairs : List (String × β)} {t : Table β} (perm : pairs.Perm t.entries) :
    ofList pairs = t := by
  have distinct : (pairs.map Prod.fst).Nodup := (perm.map Prod.fst).nodup_iff.mpr t.nodup_keys
  have entries : (ofList pairs).entries = t.entries :=
    eq_of_sorted_of_mem_iff (ofList pairs).sorted t.sorted fun e =>
      ((entries_ofList_perm distinct).trans perm).mem_iff
  exact ext_get? fun key => congrArg (find key) entries

theorem insert_ofList (pairs : List (String × β)) (key : String) (value : β) :
    (ofList pairs).insert key value = ofList (pairs ++ [(key, value)]) := by
  simp only [ofList, List.foldl_append]
  rfl

/-- Of two values at one key the later one stays. -/
theorem insert_insert (t : Table β) (key : String) (first second : β) :
    (t.insert key first).insert key second = t.insert key second := by
  refine ext_get? fun other => ?_
  simp only [get?_insert]
  split <;> rfl

/-- Of two pairs in a row with the same key the later one counts. -/
theorem ofList_replace (pairs : List (String × β)) (key : String) (first second : β) :
    ofList (pairs ++ [(key, first), (key, second)]) = ofList (pairs ++ [(key, second)]) := by
  rw [List.append_cons, ← insert_ofList, ← insert_ofList, insert_insert, insert_ofList]

/-! ## Entries of one key -/

theorem mem_keys_iff (t : Table β) (key : String) :
    key ∈ t.keys ↔ ∃ value, t.get? key = some value := by
  rw [keys, List.mem_map]
  constructor
  · rintro ⟨e, member, rfl⟩
    exact ⟨e.2, (t.mem_entries_iff e).mp member⟩
  · rintro ⟨value, found⟩
    exact ⟨(key, value), (t.mem_entries_iff (key, value)).mpr found, rfl⟩

theorem filter_of_sorted {entries : List (String × β)} (sorted : InKeyOrder entries)
    (key : String) :
    entries.filter (·.1 = key) = ((find key entries).map fun value => (key, value)).toList := by
  induction entries with
  | nil => rfl
  | cons e rest ih =>
    obtain ⟨k, value⟩ := e
    obtain ⟨below, sorted⟩ := List.pairwise_cons.mp sorted
    by_cases own : k = key
    · subst own
      have others : rest.filter (·.1 = k) = [] := by
        refine List.filter_eq_nil_iff.mpr fun e member => ?_
        have later : k < e.1 := below e member
        exact fun same => String.lt_irrefl k (of_decide_eq_true same ▸ later)
      simp [find, others]
    · simp [find, own, ih sorted]

/-- A key has one entry if it has a value, and none otherwise. -/
theorem filter_entries (t : Table β) (key : String) :
    t.entries.filter (·.1 = key) = ((t.get? key).map fun value => (key, value)).toList :=
  filter_of_sorted t.sorted key

/-! ## Looking up in a list -/

theorem find_eq_none {key : String} {pairs : List (String × β)}
    (absent : key ∉ pairs.map Prod.fst) :
    find key pairs = none := by
  induction pairs with
  | nil => rfl
  | cons p rest ih =>
    rw [List.map_cons, List.mem_cons, not_or] at absent
    rw [find, if_neg (Ne.symm absent.1), ih absent.2]

theorem find_of_mem {pairs : List (String × β)} (distinct : (pairs.map Prod.fst).Nodup)
    {key : String} {value : β} (member : (key, value) ∈ pairs) : find key pairs = some value := by
  induction pairs with
  | nil => cases member
  | cons p rest ih =>
    obtain ⟨unique, distinct⟩ := List.nodup_cons.mp distinct
    rw [find]
    rcases List.mem_cons.mp member with rfl | later
    · exact if_pos rfl
    · have other : p.1 ≠ key := fun same => unique (same ▸ List.mem_map_of_mem later)
      rw [if_neg other, ih distinct later]

end Table
end MessageQueue
