import MessageQueue.Proofs.Consumer.Move

/-!
# No slot is lost

Each slot of the gate is free, or was granted to a loop that has not taken notice of it, or is held
by a handler that has not finished.  `Move.balanced` says that every move hands slots around between
these and neither makes nor loses one.  The loops in line and those that were granted a slot are
exactly the loops that wait at the gate, each once (`Move.attended`), so with no loop at work all
slots that are taken are held by handlers.
-/

namespace MessageQueue.Consumer

variable {c d : Consumer} {a b : Moment} {input : Input} {effects : List Effect}

/-! ## The balance of slots -/

/-- Every slot is spare or held by a handler. -/
def Balanced (c : Consumer) : Prop :=
  c.gate.spare + c.tasks.countP Task.unfinished = c.gate.capacity

theorem balanced_ofSettings (settings : ConsumerSettings) : Balanced (ofSettings settings) := rfl

theorem countP_dispatch (c : Consumer) (loop : Nat) (m : ReceivedMessage) :
    (c.dispatch loop m).tasks.countP Task.unfinished = c.tasks.countP Task.unfinished + 1 := by
  simp [dispatch, Task.unfinished]

/-- A handler that does not finish keeps the count, whatever else its stage tells. -/
theorem countP_staged_of_unfinished {index : Nat} {task : Task} (stage : Stage)
    (found : c.tasks[index]? = some task) (before : task.unfinished = true)
    (after : Task.unfinished { task with stage } = true) :
    (c.staged index task stage).tasks.countP Task.unfinished = c.tasks.countP Task.unfinished := by
  obtain ⟨present, rfl⟩ := List.getElem?_eq_some_iff.mp found
  have counted : 0 < c.tasks.countP Task.unfinished :=
    List.countP_pos_iff.mpr ⟨_, List.getElem_mem present, before⟩
  rw [staged, List.countP_set present, if_pos before, if_pos after]
  omega

theorem countP_staged_finished {index : Nat} {task : Task} (outcome : Outcome)
    (found : c.tasks[index]? = some task) (before : task.unfinished = true) :
    (c.staged index task (.finished outcome)).tasks.countP Task.unfinished + 1 =
      c.tasks.countP Task.unfinished := by
  obtain ⟨present, rfl⟩ := List.getElem?_eq_some_iff.mp found
  have counted : 0 < c.tasks.countP Task.unfinished :=
    List.countP_pos_iff.mpr ⟨_, List.getElem_mem present, before⟩
  have after : ¬ Task.unfinished { c.tasks[index] with stage := .finished outcome } = true := by
    simp [Task.unfinished]
  rw [staged, List.countP_set present, if_pos before, if_neg after]
  omega

/-- The slot that a finished handler gives back is spare again. -/
theorem balanced_free {index : Nat} {task : Task} (outcome : Outcome) (balanced : Balanced c)
    (found : c.tasks[index]? = some task) (before : task.unfinished = true) :
    Balanced ({ c with gate := c.gate.giveBack }.staged index task (.finished outcome)) := by
  have fewer := countP_staged_finished outcome found before
  simp only [Balanced, staged, Gate.spare_giveBack, Gate.capacity_giveBack] at balanced fewer ⊢
  omega

theorem LoopMove.balanced {loop : Nat} (move : LoopMove loop input a effects b)
    (balanced : Balanced a.consumer) : Balanced b.consumer := by
  unfold Balanced at balanced ⊢
  cases move with
  | begin => exact balanced
  | take => exact balanced
  | fail => exact balanced
  | enter waited going claimed =>
    have spent := Gate.spare_claim? claimed
    rw [countP_dispatch]
    simp only [dispatch, Gate.capacity_claim? claimed] at balanced ⊢
    omega
  | give taken =>
    have spent := Gate.spare_take? taken
    rw [countP_dispatch]
    simp only [dispatch, Gate.capacity_take? taken] at balanced ⊢
    omega
  | ask => exact balanced
  | wait => exact balanced
  | turn => exact balanced
  | leave =>
    rw [Gate.spare_leave, Gate.capacity_leave]
    exact balanced
  | goOn => exact balanced
  | release => exact balanced
  | drain => exact balanced
  | quitLine =>
    simp only [moved, Gate.spare_leave, Gate.capacity_leave]
    exact balanced
  | quit => exact balanced

theorem TaskMove.balanced {index : Nat} (move : TaskMove index input c effects d)
    (balanced : Balanced c) : Balanced d := by
  cases move with
  | start found fresh =>
    have same := countP_staged_of_unfinished .handling found (by simp [Task.unfinished, fresh]) rfl
    rw [Balanced, same]
    exact balanced
  | @call _ task outcome _ found handling =>
    have same := countP_staged_of_unfinished (.following outcome) found
      (by simp [Task.unfinished, handling]) rfl
    rw [Balanced, same]
    exact balanced
  | stop found handling =>
    exact balanced_free _ balanced found (by simp [Task.unfinished, handling])
  | free found following =>
    exact balanced_free _ balanced found (by simp [Task.unfinished, following])

theorem Move.balanced (move : Move input a effects b) (balanced : Balanced a.consumer) :
    Balanced b.consumer := by
  cases move with
  | loop move => exact move.balanced balanced
  | task move => exact move.balanced balanced
  | watch move =>
    rw [Balanced, move.gate_eq, move.tasks_eq]
    exact balanced
  | pass => exact balanced

/-- After every run each slot is spare or held by a handler. -/
theorem run_balanced (settings : ConsumerSettings) (inputs : List Input) :
    Balanced ((ofSettings settings).run inputs).1 :=
  run_induction (P := fun a _ => Balanced a.consumer) (fun move => move.balanced)
    (balanced_ofSettings settings) inputs

theorem Move.capacity_eq (move : Move input a effects b) :
    b.consumer.gate.capacity = a.consumer.gate.capacity := by
  cases move with
  | loop move =>
    cases move with
    | enter _ _ claimed => exact Gate.capacity_claim? claimed
    | give taken => exact Gate.capacity_take? taken
    | wait => exact Gate.capacity_join ..
    | leave | quitLine => exact Gate.capacity_leave ..
    | _ => rfl
  | task move =>
    cases move with
    | start | call => rfl
    | stop | free => exact Gate.capacity_giveBack _
  | watch move => rw [move.gate_eq]
  | pass => rfl

/-! ## Who waits at the gate -/

/-- A loop waits at the gate. -/
def Moment.Waits (a : Moment) (loop : Nat) : Prop :=
  ∃ m rest, a.standing loop = some (.keeps (.waiting m rest))

/-- The loops at the gate are those that wait there, each once. -/
structure Attended (a : Moment) : Prop where
  single : a.consumer.gate.guests.Nodup
  guest_iff : ∀ loop, loop ∈ a.consumer.gate.guests ↔ a.Waits loop

theorem attended_ofSettings (settings : ConsumerSettings) :
    Attended ⟨ofSettings settings, none⟩ := by
  refine ⟨.nil, fun loop => ⟨fun guest => absurd guest List.not_mem_nil, ?_⟩⟩
  rintro ⟨m, rest, waits⟩
  cases waits

theorem not_waits_errand (c : Consumer) (loop : Nat) (errand : Errand) :
    ¬ Moment.Waits ⟨c, some (loop, errand)⟩ loop := by
  rintro ⟨m, rest, waits⟩
  rw [standing_self] at waits
  cases waits

theorem not_waits_of_getElem? {loop : Nat} {place : Place} (found : c.loops[loop]? = some place)
    (elsewhere : ∀ m rest, place ≠ .waiting m rest) : ¬ Moment.Waits ⟨c, none⟩ loop := by
  rintro ⟨m, rest, waits⟩
  rw [standing_none, found] at waits
  cases waits
  exact elsewhere m rest rfl

theorem not_waits_of_length_le {loop : Nat} (beyond : c.loops.length ≤ loop) :
    ¬ Moment.Waits ⟨c, none⟩ loop := by
  rintro ⟨m, rest, waits⟩
  rw [standing_none, List.getElem?_eq_none beyond] at waits
  cases waits

theorem not_waits_moved {loop : Nat} {place : Place} (present : loop < c.loops.length)
    (elsewhere : ∀ m rest, place ≠ .waiting m rest) :
    ¬ Moment.Waits ⟨c.moved loop place, none⟩ loop :=
  not_waits_of_getElem? (List.getElem?_set_self present) elsewhere

theorem waits_of_getElem? {loop : Nat} {m : ReceivedMessage} {rest : List ReceivedMessage}
    (found : c.loops[loop]? = some (.waiting m rest)) : Moment.Waits ⟨c, none⟩ loop :=
  ⟨m, rest, by rw [standing_none, found]; rfl⟩

section Guests

variable {loop : Nat} (move : LoopMove loop input a effects b) (attended : Attended a)

include move in
theorem waits_iff_of_ne {other : Nat} (different : loop ≠ other) :
    b.Waits other ↔ a.Waits other := by
  simp only [Moment.Waits, move.standing_eq_of_ne different]

include move attended

/-- A loop that is not at the gate moves and does not come to it. -/
theorem attended_of_same (same : b.consumer.gate.guests = a.consumer.gate.guests)
    (before : ¬ a.Waits loop) (after : ¬ b.Waits loop) : Attended b := by
  refine ⟨same ▸ attended.single, fun other => ?_⟩
  rw [same, attended.guest_iff]
  by_cases own : loop = other
  · subst own
    exact iff_of_false before after
  · exact (waits_iff_of_ne move own).symm

/-- A loop comes to the gate. -/
theorem attended_of_join (joined : b.consumer.gate.guests.Perm (loop :: a.consumer.gate.guests))
    (before : ¬ a.Waits loop) (after : b.Waits loop) : Attended b := by
  have absent : loop ∉ a.consumer.gate.guests :=
    fun guest => before ((attended.guest_iff loop).mp guest)
  refine ⟨joined.nodup_iff.mpr (List.nodup_cons.mpr ⟨absent, attended.single⟩), fun other => ?_⟩
  rw [joined.mem_iff, List.mem_cons]
  by_cases own : loop = other
  · subst own
    exact iff_of_true (.inl rfl) after
  · rw [waits_iff_of_ne move own, ← attended.guest_iff]
    exact or_iff_right (Ne.symm own)

/-- A loop leaves the gate. -/
theorem attended_of_erase (left : b.consumer.gate.guests.Perm (a.consumer.gate.guests.erase loop))
    (after : ¬ b.Waits loop) : Attended b := by
  refine ⟨left.nodup_iff.mpr (attended.single.erase loop), fun other => ?_⟩
  rw [left.mem_iff, attended.single.mem_erase_iff]
  by_cases own : loop = other
  · subst own
    exact iff_of_false (fun stays => stays.1 rfl) after
  · rw [waits_iff_of_ne move own, ← attended.guest_iff]
    exact and_iff_right (Ne.symm own)

end Guests

theorem LoopMove.attended {loop : Nat} (move : LoopMove loop input a effects b)
    (attended : Attended a) :
    Attended b := by
  cases id move with
  | begin new =>
    exact attended_of_same move attended rfl (not_waits_of_length_le (Nat.le_of_eq new))
      (not_waits_errand _ _ _)
  | take asked =>
    exact attended_of_same move attended rfl (not_waits_of_getElem? asked (by simp))
      (not_waits_errand _ _ _)
  | fail asked =>
    exact attended_of_same move attended rfl (not_waits_of_getElem? asked (by simp))
      (not_waits_moved (lt_length_of_getElem? asked) (by simp))
  | enter waited going claimed =>
    exact attended_of_erase move attended (Gate.guests_claim? claimed) (not_waits_errand _ _ _)
  | give taken =>
    exact attended_of_same move attended (Gate.guests_take? taken) (not_waits_errand _ _ _)
      (not_waits_errand _ _ _)
  | ask present =>
    exact attended_of_same move attended rfl (not_waits_errand _ _ _)
      (not_waits_moved present (by simp))
  | wait present =>
    exact attended_of_join move attended (Gate.guests_join _ _) (not_waits_errand _ _ _)
      (waits_of_getElem? (List.getElem?_set_self present))
  | turn =>
    exact attended_of_same move attended rfl (not_waits_errand _ _ _) (not_waits_errand _ _ _)
  | leave waited =>
    exact attended_of_erase move attended (Gate.guests_leave _ _) (not_waits_errand _ _ _)
  | goOn released =>
    exact attended_of_same move attended rfl (not_waits_of_getElem? released (by simp))
      (not_waits_errand _ _ _)
  | release present =>
    exact attended_of_same move attended rfl (not_waits_errand _ _ _)
      (not_waits_moved present (by simp))
  | drain present =>
    exact attended_of_same move attended rfl (not_waits_errand _ _ _)
      (not_waits_moved present (by simp))
  | quitLine waited =>
    exact attended_of_erase move attended (Gate.guests_leave _ _)
      (not_waits_moved (lt_length_of_getElem? waited) (by simp))
  | quit found working elsewhere =>
    exact attended_of_same move attended rfl (not_waits_of_getElem? found elsewhere)
      (not_waits_moved (lt_length_of_getElem? found) (by simp))

theorem attended_of_loops_eq (attended : Attended ⟨c, none⟩) (loops : d.loops = c.loops)
    (guests : d.gate.guests.Perm c.gate.guests) : Attended ⟨d, none⟩ := by
  refine ⟨guests.nodup_iff.mpr attended.single, fun loop => ?_⟩
  rw [guests.mem_iff, attended.guest_iff]
  simp only [Moment.Waits, standing_none, loops]

theorem TaskMove.guests_perm {index : Nat} (move : TaskMove index input c effects d) :
    d.gate.guests.Perm c.gate.guests := by
  cases move with
  | start => exact .refl _
  | call => exact .refl _
  | stop => exact Gate.guests_giveBack _
  | free => exact Gate.guests_giveBack _

theorem Move.attended (move : Move input a effects b) (attended : Attended a) : Attended b := by
  cases move with
  | loop move => exact move.attended attended
  | task move => exact attended_of_loops_eq attended move.loops_eq move.guests_perm
  | watch move =>
    refine attended_of_loops_eq attended move.loops_eq ?_
    rw [move.gate_eq]
  | pass => exact attended_of_loops_eq attended rfl (.refl _)

/-- After every run the loops at the gate are those that wait there. -/
theorem run_attended (settings : ConsumerSettings) (inputs : List Input) :
    Attended ⟨((ofSettings settings).run inputs).1, none⟩ :=
  run_induction (P := fun a _ => Attended a) (fun move => move.attended)
    (attended_ofSettings settings) inputs

theorem Attended.waiting_of_granted (attended : Attended ⟨c, none⟩) {loop : Nat}
    (granted : loop ∈ c.gate.granted) : ∃ m rest, c.loops[loop]? = some (.waiting m rest) := by
  obtain ⟨m, rest, waits⟩ :=
    (attended.guest_iff loop).mp (List.mem_append_right c.gate.line granted)
  rw [standing_none, Option.map_eq_some_iff] at waits
  obtain ⟨place, found, same⟩ := waits
  cases same
  exact ⟨m, rest, found⟩

/-- With no loop at work no slot is granted to one. -/
theorem Attended.granted_eq_nil (attended : Attended ⟨c, none⟩)
    (resting : ∀ place ∈ c.loops, place.working = false) : c.gate.granted = [] := by
  apply List.eq_nil_iff_forall_not_mem.mpr
  intro loop granted
  obtain ⟨m, rest, found⟩ := attended.waiting_of_granted granted
  cases resting _ (List.mem_of_getElem? found)

/-! ## The number of slots -/

theorem run_capacity (settings : ConsumerSettings) (inputs : List Input) :
    ((ofSettings settings).run inputs).1.gate.capacity = slots settings.maxConcurrency :=
  run_induction (P := fun a _ => a.consumer.gate.capacity = slots settings.maxConcurrency)
    (fun move same => move.capacity_eq.trans same) rfl inputs

theorem slots_eq (requested : UInt64) :
    slots requested = max 1 (min requested.toNat MessageQueue.maxConcurrency.toNat) := by
  unfold slots
  split
  next zero =>
    have : requested.toNat < 1 := UInt64.lt_iff_toNat_lt.mp zero
    omega
  next positive =>
    have one : 1 ≤ requested.toNat :=
      Nat.not_lt.mp fun zero => positive (UInt64.lt_iff_toNat_lt.mpr zero)
    split
    next many =>
      have : MessageQueue.maxConcurrency.toNat < requested.toNat := UInt64.lt_iff_toNat_lt.mp many
      have : 1 ≤ MessageQueue.maxConcurrency.toNat := by decide
      omega
    next few =>
      have : requested.toNat ≤ MessageQueue.maxConcurrency.toNat :=
        Nat.not_lt.mp fun many => few (UInt64.lt_iff_toNat_lt.mpr many)
      omega

theorem running_le_unfinished (c : Consumer) : c.running ≤ c.tasks.countP Task.unfinished := by
  refine List.countP_mono_left fun task _ handling => ?_
  simp [Task.unfinished, of_decide_eq_true handling]

/-! ## The slots of a run -/

/-- After every run the free slots, those of the handlers that have not finished, and those that
were granted to loops at the gate make up the capacity, which is the requested one brought between
one and the bound.  So no more handlers than that work at once, and with no loop at work the slots
in flight are those of handlers. -/
theorem slots_conserved (settings : ConsumerSettings) (inputs : List Input) :
    let c := ((ofSettings settings).run inputs).1
    c.gate.free + c.tasks.countP Task.unfinished + c.gate.granted.length = c.maxConcurrency ∧
      (c.gate.granted.Nodup ∧
        ∀ loop ∈ c.gate.granted, ∃ m rest, c.loops[loop]? = some (.waiting m rest)) ∧
      c.maxConcurrency = max 1 (min settings.maxConcurrency.toNat
        MessageQueue.maxConcurrency.toNat) ∧
      1 ≤ c.maxConcurrency ∧ c.maxConcurrency ≤ MessageQueue.maxConcurrency.toNat ∧
      c.running ≤ c.maxConcurrency ∧
      c.inFlight + c.gate.free = c.maxConcurrency ∧
      ((∀ place ∈ c.loops, place.working = false) →
        c.inFlight = c.tasks.countP Task.unfinished) := by
  intro c
  have balanced : c.gate.free + c.gate.granted.length + c.tasks.countP Task.unfinished =
      c.gate.capacity := run_balanced settings inputs
  have attended : Attended ⟨c, none⟩ := run_attended settings inputs
  have clamped : c.gate.capacity =
      max 1 (min settings.maxConcurrency.toNat MessageQueue.maxConcurrency.toNat) :=
    (run_capacity settings inputs).trans (slots_eq _)
  have bounded : 1 ≤ MessageQueue.maxConcurrency.toNat := by decide
  have running := running_le_unfinished c
  simp only [maxConcurrency, inFlight, Gate.taken]
  refine ⟨by omega, ⟨?_, fun loop => attended.waiting_of_granted⟩, clamped, by omega, by omega,
    by omega, by omega, fun resting => ?_⟩
  · exact attended.single.sublist (List.sublist_append_right c.gate.line _)
  · have noneGranted : c.gate.granted.length = 0 := by rw [attended.granted_eq_nil resting]; rfl
    omega

end MessageQueue.Consumer
