import MessageQueue.Consumer.Step

/-!
# The moves of a step

A step is a chain of moves.  A move of a handler or of a shutdown leads from one wait to the next.
A loop that has taken a batch deals with it message by message, and between these moves it has
messages in hand that its place does not show.  A moment is a consumer together with what is in
hand.

`step_moves` says that every step is a chain of moves.  By `run_induction`, what holds of a new
consumer and is kept by every move holds after every run, so a fact about all runs takes one case
for each move.  The cases say everything that a move does, and under which conditions it is done.
-/

namespace MessageQueue.Consumer

/-! ## Moments -/

/-- What the loop does whose turn it is. -/
inductive Errand where
  /-- It gives messages to free slots. -/
  | give (rest : List ReceivedMessage)
  /-- It makes messages visible again. -/
  | clear (rest : List ReceivedMessage)

/-- A consumer in the middle of a step. -/
structure Moment where
  consumer : Consumer
  /-- The loop whose turn it is, and its errand. -/
  turn : Option (Nat × Errand)

/-- What a loop is at. -/
inductive Standing where
  | keeps (place : Place)
  | runs (errand : Errand)

/-- What a loop is at.  The place of a loop on an errand is that of its last wait. -/
def Moment.standing (a : Moment) (loop : Nat) : Option Standing :=
  match a.turn with
  | some (busy, errand) =>
    if busy = loop then some (.runs errand) else a.consumer.loops[loop]?.map .keeps
  | none => a.consumer.loops[loop]?.map .keeps

theorem standing_none (c : Consumer) (loop : Nat) :
    Moment.standing ⟨c, none⟩ loop = c.loops[loop]?.map .keeps := rfl

theorem standing_self (c : Consumer) (loop : Nat) (errand : Errand) :
    Moment.standing ⟨c, some (loop, errand)⟩ loop = some (.runs errand) := if_pos rfl

theorem standing_moved (c : Consumer) {loop : Nat} (present : loop < c.loops.length)
    (place : Place) :
    Moment.standing ⟨c.moved loop place, none⟩ loop = some (.keeps place) := by
  rw [standing_none, moved, List.getElem?_set_self present]
  rfl

/-! ## Moves -/

/-- A move of a loop. -/
inductive LoopMove (loop : Nat) : Input → Moment → List Effect → Moment → Prop where
  | begin {c : Consumer} (new : c.loops.length = loop) :
    LoopMove loop .serve ⟨c, none⟩ []
      ⟨{ c with polling := true, loops := c.loops ++ [.receiving] }, some (loop, .give [])⟩
  | take {c : Consumer} {batch : List ReceivedMessage} (asked : c.loops[loop]? = some .receiving) :
    LoopMove loop (.answer loop (.ok batch)) ⟨c, none⟩ [.answered loop (.ok batch)]
      ⟨c, some (loop, .give batch)⟩
  | fail {c : Consumer} {e : QueueError} (asked : c.loops[loop]? = some .receiving) :
    LoopMove loop (.answer loop (.error e)) ⟨c, none⟩
      [.answered loop (.error e), .entered .closed, .returned loop (.error (.receive e))]
      ⟨{ c with phase := .closed, polling := false }.moved loop (.returned (.error (.receive e))),
        none⟩
  | enter {c : Consumer} {m : ReceivedMessage} {rest : List ReceivedMessage} {gate : Gate}
      (waited : c.loops[loop]? = some (.waiting m rest)) (going : c.stopping = false)
      (claimed : c.gate.claim? loop = some gate) :
    LoopMove loop (.resume loop) ⟨c, none⟩ [.dispatched loop c.tasks.length m]
      ⟨{ c with gate }.dispatch loop m, some (loop, .give rest)⟩
  | give {c : Consumer} {input : Input} {m : ReceivedMessage} {rest : List ReceivedMessage}
      {gate : Gate}
      (taken : c.gate.take? = some gate) :
    LoopMove loop input ⟨c, some (loop, .give (m :: rest))⟩ [.dispatched loop c.tasks.length m]
      ⟨{ c with gate }.dispatch loop m, some (loop, .give rest)⟩
  | ask {c : Consumer} {input : Input} (present : loop < c.loops.length)
      (going : c.stopping = false) :
    LoopMove loop input ⟨c, some (loop, .give [])⟩ [.called (.loop loop) (.receive c.request)]
      ⟨c.moved loop .receiving, none⟩
  | wait {c : Consumer} {input : Input} {m : ReceivedMessage} {rest : List ReceivedMessage}
      (present : loop < c.loops.length) (full : c.gate.take? = none) (going : c.stopping = false) :
    LoopMove loop input ⟨c, some (loop, .give (m :: rest))⟩ []
      ⟨{ c with gate := c.gate.join loop }.moved loop (.waiting m rest), none⟩
  | turn {c : Consumer} {input : Input} {rest : List ReceivedMessage}
      (full : rest = [] ∨ c.gate.take? = none) (stopping : c.stopping = true) :
    LoopMove loop input ⟨c, some (loop, .give rest)⟩ [] ⟨c, some (loop, .clear rest)⟩
  | leave {c : Consumer} {m : ReceivedMessage} {rest : List ReceivedMessage}
      (waited : c.loops[loop]? = some (.waiting m rest)) (stopping : c.stopping = true) :
    LoopMove loop (.resume loop) ⟨c, none⟩ (departure c.gate loop)
      ⟨{ c with gate := c.gate.leave loop }, some (loop, .clear (m :: rest))⟩
  | goOn {c : Consumer} {answer : Except QueueError Unit} {rest : List ReceivedMessage}
      (released : c.loops[loop]? = some (.releasing rest)) :
    LoopMove loop (.released loop answer) ⟨c, none⟩ [] ⟨c, some (loop, .clear rest)⟩
  | release {c : Consumer} {input : Input} {m : ReceivedMessage} {rest : List ReceivedMessage}
      (present : loop < c.loops.length) :
    LoopMove loop input ⟨c, some (loop, .clear (m :: rest))⟩
      [.called (.loop loop) (.changeVisibility c.settings.queueUrl m.receiptHandle 0)]
      ⟨c.moved loop (.releasing rest), none⟩
  | drain {c : Consumer} {input : Input} (present : loop < c.loops.length) :
    LoopMove loop input ⟨c, some (loop, .clear [])⟩
      [.entered .draining, .entered .closed, .returned loop (.ok .closed)]
      ⟨{ c with phase := .closed, polling := false }.moved loop (.returned (.ok .closed)), none⟩
  | quitLine {c : Consumer} {m : ReceivedMessage} {rest : List ReceivedMessage}
      (waited : c.loops[loop]? = some (.waiting m rest)) :
    LoopMove loop (.abandon loop) ⟨c, none⟩ (departure c.gate loop)
      ⟨{ c with gate := c.gate.leave loop }.moved loop .abandoned, none⟩
  | quit {c : Consumer} {place : Place} (found : c.loops[loop]? = some place)
      (working : place.working = true) (elsewhere : ∀ m rest, place ≠ .waiting m rest) :
    LoopMove loop (.abandon loop) ⟨c, none⟩ [] ⟨c.moved loop .abandoned, none⟩

/-- A move of a handler. -/
inductive TaskMove (index : Nat) : Input → Consumer → List Effect → Consumer → Prop where
  | start {c : Consumer} {task : Task} (found : c.tasks[index]? = some task)
      (fresh : task.stage = .dispatched) :
    TaskMove index (.start index) c [.started index task.assignment] (c.staged index task .handling)
  | call {c : Consumer} {task : Task} {outcome : Outcome} {call : QueueCall}
      (found : c.tasks[index]? = some task) (handling : task.stage = .handling)
      (due : c.followUp task.message outcome = some call) :
    TaskMove index (.finish index outcome) c [.handled index outcome, .called (.task index) call]
      (c.staged index task (.following outcome))
  | stop {c : Consumer} {task : Task} {outcome : Outcome} (found : c.tasks[index]? = some task)
      (handling : task.stage = .handling) (due : c.followUp task.message outcome = none) :
    TaskMove index (.finish index outcome) c
      (.handled index outcome :: .freed index :: admission c.gate)
      ({ c with gate := c.gate.giveBack }.staged index task (.finished outcome))
  | free {c : Consumer} {task : Task} {outcome : Outcome} {answer : Except QueueError Unit}
      (found : c.tasks[index]? = some task) (following : task.stage = .following outcome) :
    TaskMove index (.followed index answer) c (.freed index :: admission c.gate)
      ({ c with gate := c.gate.giveBack }.staged index task (.finished outcome))

/-- A move of a shutdown. -/
inductive WatchMove (watch : Nat) : Input → Consumer → List Effect → Consumer → Prop where
  | stop {c : Consumer} {deadline : Nat} (new : c.watches.length = watch) :
    WatchMove watch (.shutDown deadline) c [.stopped]
      { c with stopping := true, watches := c.watches ++ [.watching deadline c.now] }
  | endIdle {c : Consumer} {input : Input} {deadline next : Nat}
      (found : c.watches[watch]? = some (.watching deadline next))
      (late : deadline ≤ c.now) (idle : c.inFlight = 0) :
    WatchMove watch input c [.watchEnded watch .idle]
      { c with watches := c.watches.set watch (.ended .idle) }
  | endOverdue {c : Consumer} {input : Input} {deadline next : Nat}
      (found : c.watches[watch]? = some (.watching deadline next))
      (late : deadline ≤ c.now) (busy : c.inFlight ≠ 0) :
    WatchMove watch input c [.gaveUp, .watchEnded watch (.overdue c.inFlight)]
      { c with givingUp := true, watches := c.watches.set watch (.ended (.overdue c.inFlight)) }
  | endQuiet {c : Consumer} {input : Input} {deadline next : Nat}
      (found : c.watches[watch]? = some (.watching deadline next)) (early : c.now < deadline)
      (tick : next ≤ c.now) (idle : c.inFlight = 0) (still : c.polling = false) :
    WatchMove watch input c [.watchEnded watch .quiet]
      { c with watches := c.watches.set watch (.ended .quiet) }
  | lookAgain {c : Consumer} {input : Input} {deadline next later : Nat}
      (found : c.watches[watch]? = some (.watching deadline next)) (early : c.now < deadline)
      (tick : next ≤ c.now) (busy : ¬ (c.inFlight = 0 ∧ c.polling = false))
      (pause : later = c.now + c.settings.shutdownPoll.milliseconds) :
    WatchMove watch input c [] { c with watches := c.watches.set watch (.watching deadline later) }

/-- A move that an input leads to. -/
inductive Move (input : Input) : Moment → List Effect → Moment → Prop where
  | loop {a b : Moment} {loop : Nat} {effects : List Effect}
      (move : LoopMove loop input a effects b) :
    Move input a effects b
  | task {c d : Consumer} {index : Nat} {effects : List Effect}
      (move : TaskMove index input c effects d) :
    Move input ⟨c, none⟩ effects ⟨d, none⟩
  | watch {c d : Consumer} {watch : Nat} {effects : List Effect}
      (move : WatchMove watch input c effects d) :
    Move input ⟨c, none⟩ effects ⟨d, none⟩
  | pass {c : Consumer} {milliseconds : Nat} (passes : input = .wait milliseconds) :
    Move input ⟨c, none⟩ [] ⟨{ c with now := c.now + milliseconds }, none⟩

/-- A chain of moves that an input leads to, with all effects in order. -/
inductive Moves (input : Input) : Moment → List Effect → Moment → Prop where
  | none {a : Moment} : Moves input a [] a
  | cons {a between b : Moment} {effects more : List Effect} (move : Move input a effects between)
      (rest : Moves input between more b) : Moves input a (effects ++ more) b

variable {c d : Consumer} {a b : Moment}

theorem Moves.single {input : Input} {effects : List Effect} (move : Move input a effects b) :
    Moves input a effects b := by
  rw [← List.append_nil effects]
  exact .cons move .none

/-! ## What a move leaves alone -/

theorem getElem?_concat_of_ne {α : Type} {xs : List α} {i : Nat} {x : α}
    (different : xs.length ≠ i) :
    (xs ++ [x])[i]? = xs[i]? := by
  rcases Nat.lt_or_gt_of_ne different with beyond | present
  · rw [List.getElem?_eq_none (Nat.le_of_lt beyond), List.getElem?_eq_none]
    rw [List.length_append, List.length_singleton]
    exact beyond
  · exact List.getElem?_append_left present

/-- A move of a loop does not touch the other loops. -/
theorem LoopMove.standing_eq_of_ne {input : Input} {loop other : Nat} {effects : List Effect}
    (move : LoopMove loop input a effects b) (different : loop ≠ other) :
    b.standing other = a.standing other := by
  cases move with
  | begin new =>
    subst new
    simp only [Moment.standing, if_neg different, getElem?_concat_of_ne different]
  | take => simp only [Moment.standing, if_neg different]
  | fail => simp only [Moment.standing, moved, List.getElem?_set_ne different]
  | enter => simp only [Moment.standing, if_neg different, dispatch]
  | give => simp only [Moment.standing, if_neg different, dispatch]
  | ask => simp only [Moment.standing, if_neg different, moved, List.getElem?_set_ne different]
  | wait => simp only [Moment.standing, if_neg different, moved, List.getElem?_set_ne different]
  | turn => simp only [Moment.standing, if_neg different]
  | leave => simp only [Moment.standing, if_neg different]
  | goOn => simp only [Moment.standing, if_neg different]
  | release => simp only [Moment.standing, if_neg different, moved, List.getElem?_set_ne different]
  | drain => simp only [Moment.standing, if_neg different, moved, List.getElem?_set_ne different]
  | quitLine => simp only [Moment.standing, moved, List.getElem?_set_ne different]
  | quit => simp only [Moment.standing, moved, List.getElem?_set_ne different]

theorem TaskMove.loops_eq {input : Input} {index : Nat} {effects : List Effect}
    (move : TaskMove index input c effects d) : d.loops = c.loops := by
  cases move <;> rfl

theorem WatchMove.loops_eq {input : Input} {watch : Nat} {effects : List Effect}
    (move : WatchMove watch input c effects d) : d.loops = c.loops := by
  cases move <;> rfl

theorem WatchMove.tasks_eq {input : Input} {watch : Nat} {effects : List Effect}
    (move : WatchMove watch input c effects d) : d.tasks = c.tasks := by
  cases move <;> rfl

theorem WatchMove.gate_eq {input : Input} {watch : Nat} {effects : List Effect}
    (move : WatchMove watch input c effects d) : d.gate = c.gate := by
  cases move <;> rfl

/-- The settings never change. -/
theorem Move.settings_eq {input : Input} {effects : List Effect} (move : Move input a effects b) :
    b.consumer.settings = a.consumer.settings := by
  cases move with
  | loop move => cases move <;> rfl
  | task move => cases move <;> rfl
  | watch move => cases move <;> rfl
  | pass => rfl

/-! ## Every step is a chain of moves -/

section Turn

variable (input : Input) (c : Consumer) (loop : Nat)

theorem release_moves (present : loop < c.loops.length) (messages : List ReceivedMessage) :
    Moves input ⟨c, some (loop, .clear messages)⟩ (c.release loop messages).2
      ⟨(c.release loop messages).1, none⟩ := by
  cases messages with
  | nil => exact .single (.loop (.drain present))
  | cons m rest => exact .single (.loop (.release present))

theorem nextBatch_moves (present : loop < c.loops.length) :
    Moves input ⟨c, some (loop, .give [])⟩ (c.nextBatch loop).2 ⟨(c.nextBatch loop).1, none⟩ := by
  unfold nextBatch
  split
  next stopping =>
    exact .cons (.loop (.turn (.inl rfl) stopping)) (release_moves input c loop present [])
  next going => exact .single (.loop (.ask present (Bool.eq_false_iff.mpr going)))

theorem feed_moves (present : loop < c.loops.length) (messages : List ReceivedMessage) :
    Moves input ⟨c, some (loop, .give messages)⟩ (c.feed loop messages).2
      ⟨(c.feed loop messages).1, none⟩ := by
  induction messages generalizing c with
  | nil => exact nextBatch_moves input c loop present
  | cons m rest ih =>
    simp only [feed]
    split
    next gate taken => exact .cons (.loop (.give taken)) (ih _ present)
    next full =>
      split
      next stopping =>
        exact .cons (.loop (.turn (.inr full) stopping))
          (release_moves input c loop present (m :: rest))
      next going => exact .single (.loop (.wait present full (Bool.eq_false_iff.mpr going)))

end Turn

theorem lt_length_of_getElem? {places : List Place} {loop : Nat} {place : Place}
    (found : places[loop]? = some place) : loop < places.length :=
  (List.getElem?_eq_some_iff.mp found).1

theorem look_moves (input : Input) (c : Consumer) (watch deadline next : Nat)
    (found : c.watches[watch]? = some (.watching deadline next)) :
    Moves input ⟨c, none⟩ (c.look watch deadline next).2
      ⟨(c.look watch deadline next).1, none⟩ := by
  unfold look
  split
  next late =>
    split
    next idle => exact .single (.watch (.endIdle found late idle))
    next busy => exact .single (.watch (.endOverdue found late busy))
  next early =>
    split
    next tick =>
      split
      next quiet =>
        exact .single
          (.watch (.endQuiet found (Nat.not_le.mp early) tick quiet.1 (by simpa using quiet.2)))
      next busy =>
        exact .single
          (.watch (.lookAgain found (Nat.not_le.mp early) tick (by simpa using busy) rfl))
    next => exact .none

/-- Every step is a chain of moves. -/
theorem step_moves (c : Consumer) (input : Input) :
    Moves input ⟨c, none⟩ (c.step input).2 ⟨(c.step input).1, none⟩ := by
  cases input with
  | serve => exact .cons (.loop (.begin rfl)) (nextBatch_moves _ _ _ (by simp))
  | answer loop batch =>
    simp only [step]
    split
    next asked =>
      cases batch with
      | ok messages =>
        exact .cons (.loop (.take asked))
          (feed_moves _ c loop (lt_length_of_getElem? asked) messages)
      | error e => exact .single (.loop (.fail asked))
    next => exact .none
  | resume loop =>
    simp only [step]
    split
    next m rest waited =>
      unfold resume
      split
      next stopping =>
        refine .cons (.loop (.leave waited stopping)) (release_moves _ _ loop ?_ (m :: rest))
        exact lt_length_of_getElem? waited
      next going =>
        split
        next gate claimed =>
          refine .cons (.loop (.enter waited (Bool.eq_false_iff.mpr going) claimed))
            (feed_moves _ _ loop ?_ rest)
          exact lt_length_of_getElem? waited
        next => exact .none
    next => exact .none
  | released loop answer =>
    simp only [step]
    split
    next rest released =>
      exact .cons (.loop (.goOn released))
        (release_moves _ c loop (lt_length_of_getElem? released) rest)
    next => exact .none
  | abandon loop =>
    simp only [step]
    split
    next place found =>
      split
      next working =>
        unfold abandon
        split
        next m rest => exact .single (.loop (.quitLine found))
        next elsewhere => exact .single (.loop (.quit found working elsewhere))
      next => exact .none
    next => exact .none
  | start index =>
    simp only [step]
    split
    next task found =>
      split
      next fresh => exact .single (.task (.start found fresh))
      next => exact .none
    next => exact .none
  | finish index outcome =>
    simp only [step]
    split
    next task found =>
      split
      next handling =>
        unfold finish
        split
        next call due => exact .single (.task (.call found handling due))
        next due => exact .single (.task (.stop found handling due))
      next => exact .none
    next => exact .none
  | followed index answer =>
    simp only [step]
    split
    next task found =>
      split
      next outcome following => exact .single (.task (.free found following))
      next => exact .none
    next => exact .none
  | shutDown deadline =>
    refine .cons (.watch (.stop rfl)) (look_moves _ _ _ _ _ ?_)
    exact List.getElem?_concat_length
  | look watch =>
    simp only [step]
    split
    next deadline next found => exact look_moves _ c watch deadline next found
    next => exact .none
  | wait milliseconds => exact .single (.pass rfl)

/-! ## Runs -/

variable {P : Moment → List Effect → Prop}

theorem Moves.induction {input : Input} {effects : List Effect} (before : List Effect)
    (moves : Moves input a effects b)
    (keeps : ∀ {a b : Moment} {effects before : List Effect},
      Move input a effects b → P a before → P b (before ++ effects))
    (holds : P a before) : P b (before ++ effects) := by
  induction moves generalizing before with
  | none => simpa using holds
  | cons move _ ih =>
    rw [← List.append_assoc]
    exact ih _ (keeps move holds)

/-- An effect of a chain is one of a move. -/
theorem Moves.exists_move {input : Input} {effects : List Effect} (moves : Moves input a effects b)
    {e : Effect} (member : e ∈ effects) :
    ∃ (before after : Moment) (own : List Effect), Move input before own after ∧ e ∈ own := by
  induction moves with
  | none => cases member
  | cons move _ ih =>
    rcases List.mem_append.mp member with now | later
    · exact ⟨_, _, _, move, now⟩
    · exact ih later

/-- What every move keeps is kept by every run. -/
theorem run_induction_from (keeps : ∀ {input : Input} {a b : Moment} {effects before : List Effect},
      Move input a effects b → P a before → P b (before ++ effects))
    {before : List Effect} (holds : P ⟨c, none⟩ before) (inputs : List Input) :
    P ⟨(c.run inputs).1, none⟩ (before ++ (c.run inputs).2) := by
  induction inputs generalizing c before with
  | nil => simpa [run] using holds
  | cons input inputs ih =>
    simp only [run]
    rw [← List.append_assoc]
    exact ih ((step_moves c input).induction before keeps holds)

/-- What holds of a new consumer and is kept by every move holds after every run. -/
theorem run_induction {settings : ConsumerSettings}
    (keeps : ∀ {input : Input} {a b : Moment} {effects before : List Effect},
      Move input a effects b → P a before → P b (before ++ effects))
    (holds : P ⟨ofSettings settings, none⟩ []) (inputs : List Input) :
    P ⟨((ofSettings settings).run inputs).1, none⟩ ((ofSettings settings).run inputs).2 :=
  run_induction_from keeps holds inputs

end MessageQueue.Consumer
