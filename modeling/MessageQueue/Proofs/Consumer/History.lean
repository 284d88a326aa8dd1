import MessageQueue.Proofs.Consumer.Move

/-!
# Histories

The effects of a run are those of many activities, mixed.  The history of a loop or of a handler
keeps those in which it has a part, in order.  When a loop is granted a slot this is the doing of
whoever gave the slot back, and it is in no history.

The last section is about answers that nobody heeds.  A loop that makes messages visible again and a
handler that follows up go on whatever the queue answers, so a run is the same when each such answer
is a success (`run_untroubled`).
-/

namespace MessageQueue.Consumer

/-! ## Who has a part in an effect -/

/-- The loop that has a part in an effect. -/
def Effect.loop? : Effect → Option Nat
  | .called (.loop loop) _ => some loop
  | .answered loop _ => some loop
  | .dispatched loop _ _ => some loop
  | .returned loop _ => some loop
  | _ => none

/-- The handler that has a part in an effect. -/
def Effect.task? : Effect → Option Nat
  | .called (.task index) _ => some index
  | .dispatched _ index _ => some index
  | .started index _ => some index
  | .handled index _ => some index
  | .freed index => some index
  | _ => none

/-- The effects in which a loop has a part. -/
def loopHistory (loop : Nat) (effects : List Effect) : List Effect :=
  effects.filter fun e => e.loop? = some loop

/-- The effects in which a handler has a part. -/
def taskHistory (index : Nat) (effects : List Effect) : List Effect :=
  effects.filter fun e => e.task? = some index

@[simp] theorem loopHistory_nil (loop : Nat) : loopHistory loop [] = [] := rfl

@[simp] theorem taskHistory_nil (index : Nat) : taskHistory index [] = [] := rfl

theorem loopHistory_cons (loop : Nat) (e : Effect) (effects : List Effect) :
    loopHistory loop (e :: effects) =
      if e.loop? = some loop then e :: loopHistory loop effects else loopHistory loop effects := by
  simp [loopHistory, List.filter_cons]

theorem taskHistory_cons (index : Nat) (e : Effect) (effects : List Effect) :
    taskHistory index (e :: effects) =
      if e.task? = some index then e :: taskHistory index effects
        else taskHistory index effects := by
  simp [taskHistory, List.filter_cons]

@[simp] theorem loopHistory_append (loop : Nat) (earlier later : List Effect) :
    loopHistory loop (earlier ++ later) = loopHistory loop earlier ++ loopHistory loop later :=
  List.filter_append ..

@[simp] theorem taskHistory_append (index : Nat) (earlier later : List Effect) :
    taskHistory index (earlier ++ later) = taskHistory index earlier ++ taskHistory index later :=
  List.filter_append ..

/-! ## Admissions are in no history -/

/-- Effects that only tell that loops were granted a slot. -/
def Admissions (effects : List Effect) : Prop := ∀ e ∈ effects, ∃ loop, e = .admitted loop

theorem admissions_admission (g : Gate) : Admissions (admission g) := by
  unfold admission
  split
  · intro e member
    cases member
  · rename_i loop line _
    intro e member
    exact ⟨loop, List.mem_singleton.mp member⟩

theorem admissions_departure (g : Gate) (loop : Nat) : Admissions (departure g loop) := by
  unfold departure
  split
  · exact admissions_admission _
  · intro e member
    cases member

theorem Admissions.loopHistory_eq {effects : List Effect} (admissions : Admissions effects)
    (loop : Nat) :
    loopHistory loop effects = [] := by
  refine List.filter_eq_nil_iff.mpr fun e member => ?_
  obtain ⟨admitted, rfl⟩ := admissions e member
  simp [Effect.loop?]

theorem Admissions.taskHistory_eq {effects : List Effect} (admissions : Admissions effects)
    (index : Nat) :
    taskHistory index effects = [] := by
  refine List.filter_eq_nil_iff.mpr fun e member => ?_
  obtain ⟨admitted, rfl⟩ := admissions e member
  simp [Effect.task?]

/-! ## Moves of others -/

variable {c d : Consumer} {a b : Moment} {input : Input} {effects : List Effect}

theorem LoopMove.loopHistory_eq_nil {loop other : Nat} (move : LoopMove loop input a effects b)
    (different : loop ≠ other) : loopHistory other effects = [] := by
  cases move with
  | leave => exact (admissions_departure _ _).loopHistory_eq other
  | quitLine => exact (admissions_departure _ _).loopHistory_eq other
  | _ => simp [loopHistory_cons, Effect.loop?, different]

theorem TaskMove.loopHistory_eq_nil {index : Nat} (move : TaskMove index input c effects d)
    (loop : Nat) :
    loopHistory loop effects = [] := by
  have apart := (admissions_admission c.gate).loopHistory_eq loop
  cases move with
  | start => rfl
  | call => rfl
  | stop => simp [loopHistory_cons, Effect.loop?, apart]
  | free => simp [loopHistory_cons, Effect.loop?, apart]

theorem TaskMove.taskHistory_eq_nil {index other : Nat} (move : TaskMove index input c effects d)
    (different : index ≠ other) : taskHistory other effects = [] := by
  have apart := (admissions_admission c.gate).taskHistory_eq other
  cases move with
  | start => simp [taskHistory_cons, Effect.task?, different]
  | call => simp [taskHistory_cons, Effect.task?, different]
  | stop => simp [taskHistory_cons, Effect.task?, different, apart]
  | free => simp [taskHistory_cons, Effect.task?, different, apart]

theorem WatchMove.loopHistory_eq_nil {watch : Nat} (move : WatchMove watch input c effects d)
    (loop : Nat) :
    loopHistory loop effects = [] := by
  cases move <;> rfl

theorem WatchMove.taskHistory_eq_nil {watch : Nat} (move : WatchMove watch input c effects d)
    (index : Nat) :
    taskHistory index effects = [] := by
  cases move <;> rfl

/-- A move is one of a loop, or the loop has no part in it. -/
theorem Move.own_or_apart (move : Move input a effects b) (loop : Nat) :
    LoopMove loop input a effects b ∨
      b.standing loop = a.standing loop ∧ loopHistory loop effects = [] := by
  cases move with
  | @loop _ _ busy _ move =>
    by_cases own : busy = loop
    · exact .inl (own ▸ move)
    · exact .inr ⟨move.standing_eq_of_ne own, move.loopHistory_eq_nil own⟩
  | task move =>
    exact .inr ⟨by rw [standing_none, move.loops_eq, standing_none], move.loopHistory_eq_nil loop⟩
  | watch move =>
    exact .inr ⟨by rw [standing_none, move.loops_eq, standing_none], move.loopHistory_eq_nil loop⟩
  | pass => exact .inr ⟨rfl, rfl⟩

/-- A move of a loop either dispatches a message to a new handler, or it has to do with no
handler. -/
theorem LoopMove.dispatches {loop : Nat} (move : LoopMove loop input a effects b) :
    (∃ m, effects = [.dispatched loop a.consumer.tasks.length m] ∧
      b.consumer.tasks = a.consumer.tasks ++ [⟨loop, m, .handlers, .dispatched⟩]) ∨
    (b.consumer.tasks = a.consumer.tasks ∧ ∀ index, taskHistory index effects = []) := by
  cases move with
  | @enter _ m => exact .inl ⟨m, rfl, rfl⟩
  | @give _ _ m => exact .inl ⟨m, rfl, rfl⟩
  | leave => exact .inr ⟨rfl, (admissions_departure _ _).taskHistory_eq⟩
  | quitLine => exact .inr ⟨rfl, (admissions_departure _ _).taskHistory_eq⟩
  | _ => exact .inr ⟨rfl, fun _ => rfl⟩

/-! ## Answers that nobody heeds -/

/-- The input with a success in place of an answer that nobody heeds. -/
def Input.untroubled : Input → Input
  | .released loop _ => .released loop (.ok ())
  | .followed index _ => .followed index (.ok ())
  | input => input

theorem step_untroubled (c : Consumer) (input : Input) :
    c.step input.untroubled = c.step input := by
  cases input <;> rfl

/-- A run is the same when every release and every follow-up succeeds. -/
theorem run_untroubled (c : Consumer) (inputs : List Input) :
    c.run (inputs.map Input.untroubled) = c.run inputs := by
  induction inputs generalizing c with
  | nil => rfl
  | cons input inputs ih => simp only [List.map_cons, run, step_untroubled, ih]

end MessageQueue.Consumer
