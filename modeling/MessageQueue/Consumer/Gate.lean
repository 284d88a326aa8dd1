import MessageQueue.Text.Shown

/-!
# The gate

A gate has a fixed number of slots, and a handler runs only while it holds one.  A loop that finds
no slot stands in line.  A slot that is given back goes to the first in line at once: it counts as
taken from then on, although the loop takes notice of it only later.  A loop that leaves gives a
slot it was granted back in the same way.
-/

namespace MessageQueue

/-- The slots of a consumer.  Loops are known by number. -/
structure Gate where
  capacity : Nat
  /-- The slots that nobody holds. -/
  free : Nat
  /-- The loops in line, first come first. -/
  line : List Nat
  /-- The loops that were granted a slot and have not taken notice of it. -/
  granted : List Nat
deriving DecidableEq, Repr

namespace Gate

/-- A gate of which all slots are free. -/
def ofCapacity (n : Nat) : Gate := ⟨n, n, [], []⟩

/-- The slots that are held, the granted ones included. -/
def taken (g : Gate) : Nat := g.capacity - g.free

/-- How many slots no handler holds: the free ones, and those that loops were granted. -/
def spare (g : Gate) : Nat := g.free + g.granted.length

/-- The gate after a free slot was taken, if there is one. -/
def take? (g : Gate) : Option Gate :=
  match g.free with
  | 0 => none
  | n + 1 => some { g with free := n }

/-- The gate after a loop went to the end of the line. -/
def join (g : Gate) (loop : Nat) : Gate := { g with line := g.line ++ [loop] }

/-- The gate after a slot was given back. -/
def giveBack (g : Gate) : Gate :=
  match g.line with
  | [] => { g with free := g.free + 1 }
  | loop :: line => { g with line, granted := g.granted ++ [loop] }

/-- The gate after a loop took notice of the slot it was granted, if it was. -/
def claim? (g : Gate) (loop : Nat) : Option Gate :=
  if loop ∈ g.granted then some { g with granted := g.granted.erase loop } else none

/-- The gate after a loop left the line, or gave back the slot it was granted. -/
def leave (g : Gate) (loop : Nat) : Gate :=
  match g.claim? loop with
  | some g => g.giveBack
  | none => { g with line := g.line.erase loop }

/-! ## What the operations do to the spare slots -/

theorem spare_take? {g h : Gate} (taken : g.take? = some h) : g.spare = h.spare + 1 := by
  unfold take? at taken
  split at taken
  · cases taken
  · rename_i n free
    cases taken
    simp only [spare, free]
    omega

theorem spare_giveBack (g : Gate) : g.giveBack.spare = g.spare + 1 := by
  unfold giveBack
  split
  · simp only [spare]
    omega
  · simp only [spare, List.length_append, List.length_singleton]
    omega

theorem spare_claim? {g h : Gate} {loop : Nat} (claimed : g.claim? loop = some h) :
    g.spare = h.spare + 1 := by
  unfold claim? at claimed
  split at claimed
  · rename_i granted
    cases claimed
    have := List.length_pos_of_mem granted
    simp only [spare, List.length_erase_of_mem granted]
    omega
  · cases claimed

/-- A loop that leaves neither takes a slot with it nor leaves one behind. -/
theorem spare_leave (g : Gate) (loop : Nat) : (g.leave loop).spare = g.spare := by
  unfold leave
  split
  · rename_i h claimed
    rw [spare_giveBack, spare_claim? claimed]
  · rfl

/-! ## The capacity is fixed -/

theorem capacity_take? {g h : Gate} (taken : g.take? = some h) : h.capacity = g.capacity := by
  unfold take? at taken
  split at taken
  · cases taken
  · cases taken
    rfl

@[simp] theorem capacity_join (g : Gate) (loop : Nat) : (g.join loop).capacity = g.capacity := rfl

@[simp] theorem capacity_giveBack (g : Gate) : g.giveBack.capacity = g.capacity := by
  unfold giveBack
  split <;> rfl

theorem capacity_claim? {g h : Gate} {loop : Nat} (claimed : g.claim? loop = some h) :
    h.capacity = g.capacity := by
  unfold claim? at claimed
  split at claimed
  · cases claimed
    rfl
  · cases claimed

@[simp] theorem capacity_leave (g : Gate) (loop : Nat) : (g.leave loop).capacity = g.capacity := by
  unfold leave
  split
  · rename_i h claimed
    rw [capacity_giveBack, capacity_claim? claimed]
  · rfl

/-! ## Who is at the gate -/

/-- The loops at the gate: those in line, and those that were granted a slot. -/
def guests (g : Gate) : List Nat := g.line ++ g.granted

theorem guests_take? {g h : Gate} (taken : g.take? = some h) : h.guests = g.guests := by
  unfold take? at taken
  split at taken
  · cases taken
  · cases taken
    rfl

theorem guests_join (g : Gate) (loop : Nat) : (g.join loop).guests.Perm (loop :: g.guests) := by
  simp only [guests, join, List.append_assoc, List.singleton_append]
  exact List.perm_middle

/-- A slot that is given back makes nobody come or go. -/
theorem guests_giveBack (g : Gate) : g.giveBack.guests.Perm g.guests := by
  unfold giveBack
  split
  · exact .refl _
  · rename_i loop line waits
    simp only [guests, waits, ← List.append_assoc]
    exact List.perm_append_singleton loop (line ++ g.granted)

theorem guests_claim? {g h : Gate} {loop : Nat} (claimed : g.claim? loop = some h) :
    h.guests.Perm (g.guests.erase loop) := by
  unfold claim? at claimed
  split at claimed
  · rename_i granted
    cases claimed
    have flipped : (g.guests.erase loop).Perm ((g.granted ++ g.line).erase loop) :=
      List.perm_append_comm.erase loop
    rw [List.erase_append_left g.line granted] at flipped
    exact List.perm_append_comm.trans flipped.symm
  · cases claimed

theorem guests_leave (g : Gate) (loop : Nat) :
    (g.leave loop).guests.Perm (g.guests.erase loop) := by
  unfold leave
  split
  · rename_i h claimed
    exact (guests_giveBack h).trans (guests_claim? claimed)
  · rename_i unclaimed
    have notGranted : loop ∉ g.granted := by
      intro granted
      simp [claim?, granted] at unclaimed
    simp only [guests]
    by_cases waits : loop ∈ g.line
    · rw [List.erase_append_left g.granted waits]
    · rw [List.erase_append_right g.granted waits, List.erase_of_not_mem waits,
        List.erase_of_not_mem notGranted]

end Gate
end MessageQueue
