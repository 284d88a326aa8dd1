/-!
# Tables keyed by text

A table maps texts to values.  It is kept as its list of entries in strict order of the keys, which
is the order of their octets in UTF-8 as well as that of their characters.  Two tables with the same
values at every key therefore have the same entries (`Table.ext_get?`), so that equality of tables
is equality of what they hold, and listing a table needs no sorting.

Insertion and removal recurse on the entries.
-/

namespace MessageQueue

/-- Entries in strict order of their keys. -/
abbrev InKeyOrder {β : Type} (entries : List (String × β)) : Prop :=
  entries.Pairwise fun a b => a.1 < b.1

/-- A finite map from texts to values. -/
structure Table (β : Type) where
  /-- The keys with their values, in order of the keys. -/
  entries : List (String × β)
  sorted : InKeyOrder entries
deriving DecidableEq

namespace Table

variable {β : Type}

/-- The table that holds nothing. -/
def empty : Table β := ⟨[], .nil⟩

instance : Inhabited (Table β) := ⟨empty⟩

/-! ## Looking up -/

/-- The value at a key in a list of entries. -/
def find (key : String) : List (String × β) → Option β
  | [] => none
  | (k, v) :: rest => if k = key then some v else find key rest

/-- The value at a key. -/
def get? (t : Table β) (key : String) : Option β := find key t.entries

/-- The keys, in order. -/
def keys (t : Table β) : List String := t.entries.map (·.1)

/-- How many keys have a value. -/
def size (t : Table β) : Nat := t.entries.length

/-! ## Changing -/

/-- Puts a value at a key into ordered entries, in place of the one that is there. -/
def put (key : String) (value : β) : List (String × β) → List (String × β)
  | [] => [(key, value)]
  | (k, v) :: rest =>
    if key < k then (key, value) :: (k, v) :: rest
    else if key = k then (key, value) :: rest
    else (k, v) :: put key value rest

/-- Every key after a put is the new one or an old one. -/
theorem mem_put {key : String} {value : β} {entries : List (String × β)} {e : String × β}
    (h : e ∈ put key value entries) : e = (key, value) ∨ e ∈ entries := by
  induction entries with
  | nil => simpa [put] using h
  | cons head rest ih =>
    obtain ⟨k, v⟩ := head
    simp only [put] at h
    split at h
    · simpa using h
    · split at h
      · rcases List.mem_cons.mp h with h | h
        · exact .inl h
        · exact .inr (List.mem_cons_of_mem _ h)
      · rcases List.mem_cons.mp h with h | h
        · exact .inr (h ▸ List.mem_cons_self)
        · exact (ih h).imp id (List.mem_cons_of_mem _)

/-- A text is before, equal to or after another. -/
theorem lt_of_not_lt_of_ne {a b : String} (h : ¬ a < b) (n : a ≠ b) : b < a :=
  String.not_le.mp fun le => n (String.le_antisymm le (String.not_lt.mp h))

/-- A put keeps the order. -/
theorem sorted_put (key : String) (value : β) {entries : List (String × β)}
    (h : InKeyOrder entries) :
    InKeyOrder (put key value entries) := by
  induction entries with
  | nil => simp [put]
  | cons head rest ih =>
    obtain ⟨k, v⟩ := head
    have below := List.pairwise_cons.mp h
    simp only [put]
    split
    · rename_i first
      refine List.pairwise_cons.mpr ⟨fun e he => ?_, h⟩
      rcases List.mem_cons.mp he with rfl | he
      · exact first
      · exact String.lt_trans first (below.1 e he)
    · rename_i notFirst
      split
      · rename_i same
        subst same
        exact List.pairwise_cons.mpr ⟨below.1, below.2⟩
      · rename_i other
        refine List.pairwise_cons.mpr ⟨fun e he => ?_, ih below.2⟩
        rcases mem_put he with rfl | he
        · exact lt_of_not_lt_of_ne notFirst other
        · exact below.1 e he

/-- The table with a value put at a key. -/
def insert (t : Table β) (key : String) (value : β) : Table β :=
  ⟨put key value t.entries, sorted_put key value t.sorted⟩

/-- The table without a key. -/
def erase (t : Table β) (key : String) : Table β :=
  ⟨t.entries.filter (·.1 ≠ key), t.sorted.filter _⟩

/-- The table of a list of pairs; a later pair replaces an earlier one with the same key. -/
def ofList (pairs : List (String × β)) : Table β :=
  pairs.foldl (fun t p => t.insert p.1 p.2) empty

/-- The table with every value changed. -/
def map {γ : Type} (f : β → γ) (t : Table β) : Table γ :=
  ⟨t.entries.map fun e => (e.1, f e.2), List.pairwise_map.mpr t.sorted⟩

/-! ## What the operations do -/

@[simp] theorem get?_empty (key : String) : (empty : Table β).get? key = none := rfl

theorem find_put (key : String) (value : β) (entries : List (String × β)) (other : String) :
    find other (put key value entries) = if key = other then some value
      else find other entries := by
  induction entries with
  | nil => simp [put, find]
  | cons head rest ih =>
    obtain ⟨k, v⟩ := head
    simp only [put]
    split
    · simp [find]
    · split
      · rename_i same
        subst same
        by_cases h : key = other <;> simp [find, h]
      · rename_i ne
        by_cases h : k = other
        · subst h
          simp [find, ne]
        · simp [find, h, ih]

/-- A put is seen at its own key and nowhere else. -/
@[simp] theorem get?_insert (t : Table β) (key : String) (value : β) (other : String) :
    (t.insert key value).get? other = if key = other then some value else t.get? other :=
  find_put key value t.entries other

theorem find_filter_ne (key : String) (entries : List (String × β)) (other : String) :
    find other (entries.filter (·.1 ≠ key)) = if key = other then none else find other entries := by
  induction entries with
  | nil => simp [find]
  | cons head rest ih =>
    obtain ⟨k, v⟩ := head
    by_cases h : k = key
    · subst h
      by_cases h' : k = other <;> simp_all [find]
    · by_cases h' : k = other
      · subst h'
        have h'' : ¬ key = k := fun e => h e.symm
        simp [find, h, h'']
      · simp_all [find]

/-- A removal is seen at its own key and nowhere else. -/
@[simp] theorem get?_erase (t : Table β) (key other : String) :
    (t.erase key).get? other = if key = other then none else t.get? other :=
  find_filter_ne key t.entries other

theorem find_eq_some_of_mem {entries : List (String × β)} (h : InKeyOrder entries) {e : String × β}
    (he : e ∈ entries) : find e.1 entries = some e.2 := by
  induction entries with
  | nil => cases he
  | cons head rest ih =>
    have below := List.pairwise_cons.mp h
    rcases List.mem_cons.mp he with rfl | he
    · simp [find]
    · have ne : head.1 ≠ e.1 := fun eq => String.lt_irrefl e.1 (eq ▸ below.1 e he)
      simp [find, ne, ih below.2 he]

theorem mem_of_find_eq_some {entries : List (String × β)} {key : String} {value : β}
    (h : find key entries = some value) : (key, value) ∈ entries := by
  induction entries with
  | nil => simp [find] at h
  | cons head rest ih =>
    obtain ⟨k, v⟩ := head
    simp only [find] at h
    split at h
    · rename_i same
      subst same
      cases h
      exact List.mem_cons_self
    · exact List.mem_cons_of_mem _ (ih h)

/-- The entries are the pairs that look-up finds. -/
theorem mem_entries_iff (t : Table β) (e : String × β) : e ∈ t.entries ↔ t.get? e.1 = some e.2 :=
  ⟨find_eq_some_of_mem t.sorted, mem_of_find_eq_some⟩

/-- Ordered lists with the same entries are equal. -/
theorem eq_of_sorted_of_mem_iff {s t : List (String × β)} (hs : InKeyOrder s) (ht : InKeyOrder t)
    (h : ∀ e, e ∈ s ↔ e ∈ t) : s = t := by
  induction s generalizing t with
  | nil =>
    cases t with
    | nil => rfl
    | cons b r => exact absurd ((h b).mpr List.mem_cons_self) (by simp)
  | cons a q ih =>
    cases t with
    | nil => exact absurd ((h a).mp List.mem_cons_self) (by simp)
    | cons b r =>
      have below := List.pairwise_cons.mp hs
      have below' := List.pairwise_cons.mp ht
      have same : a = b := by
        rcases List.mem_cons.mp ((h a).mp List.mem_cons_self) with e | inR
        · exact e
        · rcases List.mem_cons.mp ((h b).mpr List.mem_cons_self) with e | inQ
          · exact e.symm
          · exact absurd (String.lt_trans (below.1 b inQ) (below'.1 a inR)) (String.lt_irrefl _)
      subst same
      congr 1
      refine ih below.2 below'.2 fun e => ⟨fun he => ?_, fun he => ?_⟩
      · rcases List.mem_cons.mp ((h e).mp (List.mem_cons_of_mem _ he)) with rfl | he'
        · exact absurd (below.1 e he) (String.lt_irrefl _)
        · exact he'
      · rcases List.mem_cons.mp ((h e).mpr (List.mem_cons_of_mem _ he)) with rfl | he'
        · exact absurd (below'.1 e he) (String.lt_irrefl _)
        · exact he'

/-- Tables that hold the same at every key are equal. -/
theorem ext_get? {s t : Table β} (h : ∀ key, s.get? key = t.get? key) : s = t := by
  obtain ⟨a, ha⟩ := s
  obtain ⟨b, hb⟩ := t
  have same : a = b := eq_of_sorted_of_mem_iff ha hb fun e => by
    have l := mem_entries_iff ⟨a, ha⟩ e
    have r := mem_entries_iff ⟨b, hb⟩ e
    simp only at l r
    rw [l, r, h e.1]
  subst same
  rfl

end Table
end MessageQueue
