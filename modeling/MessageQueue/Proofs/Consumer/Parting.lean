import MessageQueue.Consumer.Service
import MessageQueue.Proofs.Consumer.Shutdowns

/-!
# How loops part from a consumer that is stopping

A consumer that is stopping asks for no further batch (`Move.unpolled`), so a loop that begins
returns at once, and one that is at work has a last errand.

* A loop that was receiving waits for the answer.  It gives the messages to free slots, from the
  front, and makes those that are left visible again.  A failure it returns.
* A loop that was waiting at the gate makes its message and those after it visible again.

How far it has come with the messages that are left is told by the number of answers to its calls
alone (`run_releasing`), because no other input moves it (`step_unconcerned`).

Before a shutdown there is one way out of a loop.  One that returns in good order was told to stop
(`Lasting.stopping`), so any other loop that returns does so on a failure (`failed_of_going`).
-/

namespace MessageQueue.Consumer

variable {c d : Consumer} {a b : Moment} {input : Input} {effects before : List Effect}
variable {settings : ConsumerSettings} {loop : Nat} {place : Place}

/-! ## No batch is asked for -/

/-- Effects of which none is a call for a batch. -/
def Unpolled (effects : List Effect) : Prop := ∀ e ∈ effects, e.isPoll = false

theorem Unpolled.append {earlier later : List Effect} (first : Unpolled earlier)
    (second : Unpolled later) :
    Unpolled (earlier ++ later) :=
  List.forall_mem_append.mpr ⟨first, second⟩

theorem Admissions.unpolled (admissions : Admissions effects) : Unpolled effects := by
  intro e member
  obtain ⟨admitted, rfl⟩ := admissions e member
  rfl

theorem Effect.Idle.not_isPoll {e : Effect} (idle : e.Idle) : e.isPoll = false := by
  cases e with
  | called caller call => exact absurd rfl (idle.1 caller call)
  | _ => rfl

/-- The call that follows a handler is not one for a batch. -/
theorem not_isPoll_of_followUp {m : ReceivedMessage} {outcome : Outcome} {call : QueueCall}
    (due : c.followUp m outcome = some call) (index : Nat) :
    Effect.isPoll (.called (.task index) call) = false := by
  cases outcome <;> cases due <;> rfl

theorem Move.unpolled (move : Move input a effects b) (stopping : a.consumer.stopping = true) :
    Unpolled effects := by
  cases move with
  | loop move =>
    cases move with
    | ask present going => exact absurd stopping (Bool.eq_false_iff.mp going)
    | leave | quitLine => exact (admissions_departure _ _).unpolled
    | _ => simp [Unpolled, Effect.isPoll]
  | @task c _ _ _ move =>
    have admitted := (admissions_admission c.gate).unpolled
    cases move with
    | start => simp [Unpolled, Effect.isPoll]
    | call found handling due => simp [Unpolled, not_isPoll_of_followUp due]; rfl
    | stop | free => simpa [Unpolled, Effect.isPoll] using admitted
  | watch move => cases move <;> simp [Unpolled, Effect.isPoll]
  | pass => simp [Unpolled]

/-- A consumer that is stopping asks for no batch, whatever happens. -/
theorem run_unpolled (stopping : c.stopping = true) (inputs : List Input) :
    Unpolled (c.run inputs).2 := by
  have begun : c.stopping = true ∧ Unpolled [] := ⟨stopping, by simp [Unpolled]⟩
  have kept := run_induction_from (c := c)
      (P := fun a effects => a.consumer.stopping = true ∧ Unpolled effects)
    (fun move held => ?_) begun inputs
  · exact kept.2
  · refine ⟨?_, held.2.append (move.unpolled held.1)⟩
    rcases move.stopping with same | ⟨stops, -⟩
    · exact same.trans held.1
    · exact stops

/-- A shutdown that begins asks for no batch, nor does anything that follows. -/
theorem run_unpolled_of_shutDown (c : Consumer) (deadline : Nat) (later : List Input) :
    Unpolled (c.run (.shutDown deadline :: later)).2 := by
  have stopping : (c.step (.shutDown deadline)).1.stopping = true :=
    (step_stopping c _).trans (Bool.or_true _)
  have looks : Unpolled (c.step (.shutDown deadline)).2 :=
    List.forall_mem_cons.mpr ⟨rfl, fun e member => (look_idle _ _ _ e member).not_isPoll⟩
  exact looks.append (run_unpolled stopping later)

theorem run_append (c : Consumer) (earlier later : List Input) :
    c.run (earlier ++ later) =
      (((c.run earlier).1.run later).1, (c.run earlier).2 ++ ((c.run earlier).1.run later).2) := by
  induction earlier generalizing c with
  | nil => rfl
  | cons input earlier ih => simp only [List.cons_append, run, ih, List.append_assoc]

/-! ## What concerns a loop -/

/-- Whether an input moves a loop on from a place. -/
def Input.concerns (loop : Nat) : Place → Input → Bool
  | .receiving, .answer other _ => other = loop
  | .waiting _ _, .resume other => other = loop
  | .releasing _, .released other _ => other = loop
  | place, .abandon other => other = loop && place.working
  | _, _ => false

/-- A loop is in a place, and these are the effects in which it has had a part. -/
structure Reached (loop : Nat) (place : Place) (history : List Effect)
    (result : Consumer × List Effect) :
    Prop where
  place : result.1.loops[loop]? = some place
  history : loopHistory loop result.2 = history

/-- An input that moves a loop on from a place concerns it. -/
theorem LoopMove.concerns (move : LoopMove loop input a effects b)
    (stands : a.standing loop = some (.keeps place)) :
    input.concerns loop place = true := by
  cases move with
  | begin new =>
    rw [standing_none, List.getElem?_eq_none (Nat.le_of_eq new)] at stands
    cases stands
  | take asked | fail asked | enter asked | leave asked | goOn asked | quitLine asked =>
    rw [standing_of_getElem? asked] at stands
    cases stands
    simp [Input.concerns, Place.working]
  | quit found working =>
    rw [standing_of_getElem? found] at stands
    cases stands
    simp [Input.concerns, working]
  | give | ask | wait | turn | release | drain =>
    rw [standing_self] at stands
    cases stands

theorem Move.unconcerned (move : Move input a effects b) (other : input.concerns loop place = false)
    (stands : a.standing loop = some (.keeps place)) :
    b.standing loop = some (.keeps place) ∧ loopHistory loop effects = [] := by
  rcases move.own_or_apart loop with own | ⟨same, nothing⟩
  · exact absurd (own.concerns stands) (Bool.eq_false_iff.mp other)
  · exact ⟨same.trans stands, nothing⟩

theorem getElem?_of_standing (stands : Moment.standing ⟨c, none⟩ loop = some (.keeps place)) :
    c.loops[loop]? = some place := by
  rw [standing_none, Option.map_eq_some_iff] at stands
  obtain ⟨own, found, same⟩ := stands
  cases same
  exact found

/-- An input that does not concern a loop leaves it where it is. -/
theorem step_unconcerned (found : c.loops[loop]? = some place)
    (other : input.concerns loop place = false) :
    Reached loop place [] (c.step input) := by
  have kept := (step_moves c input).induction
    (P := fun a effects => a.standing loop = some (.keeps place) ∧ loopHistory loop effects = []) []
    (fun move held => ?_) ⟨standing_of_getElem? found, rfl⟩
  · exact ⟨getElem?_of_standing kept.1, kept.2⟩
  · obtain ⟨stands, nothing⟩ := move.unconcerned other held.1
    exact ⟨stands, by rw [loopHistory_append, held.2, nothing]; rfl⟩

theorem run_unconcerned {inputs : List Input} (found : c.loops[loop]? = some place)
    (others : ∀ input ∈ inputs, input.concerns loop place = false) :
    Reached loop place [] (c.run inputs) := by
  induction inputs generalizing c with
  | nil => exact ⟨found, rfl⟩
  | cons input inputs ih =>
    obtain ⟨other, others⟩ := List.forall_mem_cons.mp others
    obtain ⟨place, history⟩ := step_unconcerned found other
    obtain ⟨last, more⟩ := ih place others
    exact ⟨last, by rw [run, loopHistory_append, history, more]; rfl⟩

theorem Reached.then {middle : Place} {history more : List Effect} {inputs : List Input}
    {result : Consumer × List Effect} (first : Reached loop middle history result)
    (second : Reached loop place more (result.1.run inputs)) :
    Reached loop place (history ++ more)
      ((result.1.run inputs).1, result.2 ++ (result.1.run inputs).2) :=
  ⟨second.place, by rw [loopHistory_append, first.history, second.history]⟩

theorem Reached.then_run {middle : Place} {history more : List Effect} {earlier later : List Input}
    (first : Reached loop middle history (c.run earlier))
    (second : Reached loop place more ((c.run earlier).1.run later)) :
    Reached loop place (history ++ more) (c.run (earlier ++ later)) := by
  rw [run_append]
  exact first.then second

/-- A loop that has returned does nothing more. -/
theorem run_returned {result : Except ConsumerError Stopped}
    (found : c.loops[loop]? = some (.returned result))
    (inputs : List Input) : Reached loop (.returned result) [] (c.run inputs) :=
  run_unconcerned found fun input _ => by cases input <;> simp [Input.concerns, Place.working]

/-! ## Messages are made visible again one by one -/

/-- Where a loop is that has these messages to make visible again, after so many answers to its
calls. -/
def clearingPlace (left : List ReceivedMessage) (answers : Nat) : Place :=
  if answers < left.length then .releasing (left.drop (answers + 1)) else .returned (.ok .closed)

/-- What the loop has done by then. -/
def clearingEffects (settings : ConsumerSettings) (loop : Nat) (left : List ReceivedMessage)
    (answers : Nat) :
    List Effect :=
  (left.take (answers + 1)).map (fun m => .called (.loop loop) (releaseCall settings m)) ++
    if answers < left.length then [] else [.returned loop (.ok .closed)]

theorem clearingPlace_nil (answers : Nat) : clearingPlace [] answers = .returned (.ok .closed) :=
  rfl

theorem clearingEffects_nil (settings : ConsumerSettings) (loop answers : Nat) :
    clearingEffects settings loop [] answers = [.returned loop (.ok .closed)] := rfl

theorem clearingPlace_succ (m : ReceivedMessage) (rest : List ReceivedMessage) (answers : Nat) :
    clearingPlace (m :: rest) (answers + 1) = clearingPlace rest answers := by
  simp [clearingPlace]

theorem clearingEffects_succ (settings : ConsumerSettings) (loop : Nat) (m : ReceivedMessage)
    (rest : List ReceivedMessage) (answers : Nat) :
    clearingEffects settings loop (m :: rest) (answers + 1) =
      .called (.loop loop) (releaseCall settings m) ::
        clearingEffects settings loop rest answers := by
  simp [clearingEffects]

/-- Whether an input is an answer to a call of a loop to make a message visible again. -/
def Input.settles (loop : Nat) : Input → Bool
  | .released other _ => other = loop
  | _ => false

theorem not_concerns_releasing (rest : List ReceivedMessage) (answers : input.settles loop = false)
    (stays : input ≠ .abandon loop) : input.concerns loop (.releasing rest) = false := by
  cases input with
  | released other answer => exact answers
  | abandon other =>
    have different : other ≠ loop := fun same => stays (same ▸ rfl)
    simp [Input.concerns, different]
  | _ => rfl

theorem release_nil (c : Consumer) (loop : Nat) (present : loop < c.loops.length) :
    Reached loop (.returned (.ok .closed)) [.returned loop (.ok .closed)] (c.release loop []) :=
  ⟨List.getElem?_set_self present,
    by simp [release, drain, finishLoop, loopHistory_cons, Effect.loop?]⟩

theorem release_cons (kept : c.settings = settings) (present : loop < c.loops.length)
    (m : ReceivedMessage) (rest : List ReceivedMessage) :
    Reached loop (.releasing rest) [.called (.loop loop) (releaseCall settings m)]
      (c.release loop (m :: rest)) := by
  subst kept
  exact ⟨List.getElem?_set_self present,
    by simp [release, loopHistory_cons, Effect.loop?, releaseCall]⟩

/-- The settings never change. -/
theorem step_settings (c : Consumer) (input : Input) : (c.step input).1.settings = c.settings :=
  (step_moves c input).induction (P := fun a _ => a.consumer.settings = c.settings) []
    (fun move same => move.settings_eq.trans same) rfl

theorem run_settings (c : Consumer) (inputs : List Input) :
    (c.run inputs).1.settings = c.settings := by
  induction inputs generalizing c with
  | nil => rfl
  | cons input inputs ih => exact (ih (c.step input).1).trans (step_settings c input)

/-- A loop that waits for an answer to its call for a message goes on with those after it. -/
theorem run_releasing {rest : List ReceivedMessage} {inputs : List Input}
    (kept : c.settings = settings)
    (found : c.loops[loop]? = some (.releasing rest)) (stays : .abandon loop ∉ inputs)
    (m : ReceivedMessage) :
    ∃ history,
      Reached loop (clearingPlace (m :: rest) (inputs.countP (Input.settles loop))) history
        (c.run inputs) ∧
      .called (.loop loop) (releaseCall settings m) :: history =
        clearingEffects settings loop (m :: rest) (inputs.countP (Input.settles loop)) := by
  -- only an answer to a call of the loop takes it to the next message, every other input leaves it
  -- where it is
  induction inputs generalizing c rest m with
  | nil => exact ⟨[], ⟨by simpa [clearingPlace, run] using found, rfl⟩, by simp [clearingEffects]⟩
  | cons input inputs ih =>
    obtain ⟨here, later⟩ := List.ne_and_not_mem_of_not_mem_cons stays
    have kept' : (c.step input).1.settings = settings := (step_settings c input).trans kept
    have present := lt_length_of_getElem? found
    cases answers : input.settles loop with
    | false =>
      have other := not_concerns_releasing rest answers (Ne.symm here)
      have first := step_unconcerned found other
      obtain ⟨history, second, told⟩ := ih kept' first.place later m
      rw [List.countP_cons_of_neg (by simp [answers])]
      exact ⟨history, first.then second, told⟩
    | true =>
      rw [List.countP_cons_of_pos answers, clearingPlace_succ, clearingEffects_succ]
      have stepped : c.step input = c.release loop rest := by
        cases input with
        | released other answer =>
          have same : other = loop := of_decide_eq_true answers
          subst same
          simp only [step, found]
        | _ => cases answers
      cases rest with
      | nil =>
        have first := release_nil c loop present
        rw [← stepped] at first
        rw [clearingPlace_nil, clearingEffects_nil]
        exact ⟨_, first.then (run_returned first.place inputs), rfl⟩
      | cons next rest =>
        have first := release_cons kept present next rest
        rw [← stepped] at first
        obtain ⟨history, second, told⟩ := ih kept' first.place later next
        exact ⟨_, first.then second, by rw [← told]; rfl⟩

/-- A loop that begins to make messages visible again. -/
theorem release_run {inputs : List Input} (kept : c.settings = settings)
    (present : loop < c.loops.length)
    (stays : .abandon loop ∉ inputs) (left : List ReceivedMessage) :
    ∃ more,
      Reached loop (clearingPlace left (inputs.countP (Input.settles loop))) more
        ((c.release loop left).1.run inputs) ∧
      loopHistory loop (c.release loop left).2 ++ more =
        clearingEffects settings loop left (inputs.countP (Input.settles loop)) := by
  cases left with
  | nil =>
    have first := release_nil c loop present
    rw [clearingPlace_nil, clearingEffects_nil, first.history]
    exact ⟨_, run_returned first.place inputs, rfl⟩
  | cons m rest =>
    have first := release_cons kept present m rest
    have kept' : (c.release loop (m :: rest)).1.settings = settings := kept
    rw [first.history]
    exact run_releasing kept' first.place stays m

/-! ## The last errand of a loop -/

/-- The messages of a batch that are given to handlers, from the front, with their numbers. -/
def givings (loop first : Nat) (given : List ReceivedMessage) : List Effect :=
  (given.zipIdx first).map fun p => .dispatched loop p.2 p.1

theorem givings_cons (loop first : Nat) (m : ReceivedMessage) (given : List ReceivedMessage) :
    givings loop first (m :: given) = .dispatched loop first m :: givings loop (first + 1) given :=
  rfl

theorem loopHistory_givings (loop first : Nat) (given : List ReceivedMessage) :
    loopHistory loop (givings loop first given) = givings loop first given := by
  refine List.filter_eq_self.mpr fun e member => ?_
  obtain ⟨p, -, rfl⟩ := List.mem_map.mp member
  simp [Effect.loop?]

/-- With no batch to be asked for, a loop gives messages to the free slots and makes the others
visible again. -/
theorem feed_stopping (stopping : c.stopping = true) (loop : Nat)
    (messages : List ReceivedMessage) :
    ∃ d : Consumer, d.settings = c.settings ∧ d.loops = c.loops ∧
      c.feed loop messages =
        ((d.release loop (messages.drop c.gate.free)).1,
          givings loop c.tasks.length (messages.take c.gate.free) ++
            (d.release loop (messages.drop c.gate.free)).2) := by
  induction messages generalizing c with
  | nil =>
    refine ⟨c, rfl, rfl, ?_⟩
    rw [feed, nextBatch, if_pos stopping, List.drop_nil, List.take_nil]
    rfl
  | cons m rest ih =>
    cases free : c.gate.free with
    | zero =>
      have full : c.gate.take? = none := by simp [Gate.take?, free]
      refine ⟨c, rfl, rfl, ?_⟩
      simp only [feed, full, if_pos stopping]
      rfl
    | succ n =>
      have taken : c.gate.take? = some { c.gate with free := n } := by simp [Gate.take?, free]
      -- the message takes a slot, so there is one less for those after it, and begins the next
      -- handler
      let fewer : Consumer := { c with gate := { c.gate with free := n } }
      obtain ⟨d, settings, loops, fed⟩ := ih (c := fewer.dispatch loop m) stopping
      have count : (fewer.dispatch loop m).tasks.length = c.tasks.length + 1 := List.length_append
      have left : (fewer.dispatch loop m).gate.free = n := rfl
      rw [count, left] at fed
      refine ⟨d, settings, loops, ?_⟩
      simp only [feed, taken]
      rw [fed, List.take_succ_cons, givings_cons]
      rfl

/-- Where a loop is to which a batch was owed when the consumer was told to stop: there were so many
free slots when the answer came, and since then so many answers to its calls. -/
def partingPlace (free : Nat) : Except QueueError (List ReceivedMessage) → Nat → Place
  | .ok batch, answers => clearingPlace (batch.drop free) answers
  | .error e, _ => .returned (.error (.receive e))

/-- What the loop has done by then.  The first handler that it began has this number. -/
def partingEffects (settings : ConsumerSettings) (loop free first : Nat) :
    Except QueueError (List ReceivedMessage) → Nat → List Effect
  | .ok batch, answers =>
    .answered loop (.ok batch) :: givings loop first (batch.take free) ++
      clearingEffects settings loop (batch.drop free) answers
  | .error e, _ => [.answered loop (.error e), .returned loop (.error (.receive e))]

theorem clearingPlace_eq_returned_iff {left : List ReceivedMessage} {answers : Nat}
    {result : Except ConsumerError Stopped} :
    clearingPlace left answers = .returned result ↔
      left.length ≤ answers ∧ result = .ok .closed := by
  unfold clearingPlace
  split
  next more => exact iff_of_false (by simp) fun done => by omega
  next done => simp [Nat.not_lt.mp done, eq_comm]

theorem partingPlace_eq_returned_iff {free answers : Nat}
    {answer : Except QueueError (List ReceivedMessage)} {result : Except ConsumerError Stopped} :
    partingPlace free answer answers = .returned result ↔
      (∃ batch, answer = .ok batch ∧ batch.length - free ≤ answers ∧ result = .ok .closed) ∨
        ∃ e, answer = .error e ∧ result = .error (.receive e) := by
  cases answer with
  | ok batch => simp [partingPlace, clearingPlace_eq_returned_iff]
  | error e => simp [partingPlace, eq_comm]

/-- The answer comes for which a loop has waited. -/
theorem run_answered {inputs : List Input} (kept : c.settings = settings)
    (stopping : c.stopping = true)
    (found : c.loops[loop]? = some .receiving) (stays : .abandon loop ∉ inputs)
    (answer : Except QueueError (List ReceivedMessage)) :
    Reached loop (partingPlace c.gate.free answer (inputs.countP (Input.settles loop)))
      (partingEffects settings loop c.gate.free c.tasks.length answer
        (inputs.countP (Input.settles loop)))
      (c.run (.answer loop answer :: inputs)) := by
  have present := lt_length_of_getElem? found
  have stepped : c.step (.answer loop answer) = c.takeBatch loop answer := by
    simp only [step, found]
  rw [run, stepped]
  cases answer with
  | ok batch =>
    obtain ⟨d, settings_eq, loops_eq, fed⟩ := feed_stopping stopping loop batch
    obtain ⟨more, reached, told⟩ :=
      release_run (settings_eq.trans kept) (loops_eq ▸ present) stays (batch.drop c.gate.free)
    simp only [takeBatch, fed]
    refine ⟨reached.place, ?_⟩
    rw [partingEffects, ← told, ← reached.history]
    simp [loopHistory_cons, Effect.loop?, loopHistory_givings]
  | error e =>
    have first : Reached loop (.returned (.error (.receive e)))
        [.answered loop (.error e), .returned loop (.error (.receive e))]
          (c.takeBatch loop (.error e)) :=
      ⟨List.getElem?_set_self present,
        by simp [takeBatch, finishLoop, loopHistory_cons, Effect.loop?]⟩
    exact first.then (run_returned first.place inputs)

/-- A loop that has waited at the gate looks around. -/
theorem run_resumed {m : ReceivedMessage} {left : List ReceivedMessage} {inputs : List Input}
    (kept : c.settings = settings) (stopping : c.stopping = true)
    (found : c.loops[loop]? = some (.waiting m left)) (stays : .abandon loop ∉ inputs) :
    Reached loop (clearingPlace (m :: left) (inputs.countP (Input.settles loop)))
      (clearingEffects settings loop (m :: left) (inputs.countP (Input.settles loop)))
      (c.run (.resume loop :: inputs)) := by
  have stepped : c.step (.resume loop) = c.resume loop m left := by simp only [step, found]
  obtain ⟨more, reached, told⟩ :=
    release_run (c := { c with gate := c.gate.leave loop }) kept (lt_length_of_getElem? found) stays
      (m :: left)
  rw [run, stepped, resume, if_pos stopping]
  refine ⟨reached.place, ?_⟩
  rw [← told, ← reached.history, loopHistory_append, loopHistory_append,
    (admissions_departure _ _).loopHistory_eq, List.nil_append]

/-- A loop that begins returns at once. -/
theorem run_served (stopping : c.stopping = true) (inputs : List Input) :
    Reached c.loops.length (.returned (.ok .closed)) [.returned c.loops.length (.ok .closed)]
      (c.run (.serve :: inputs)) := by
  let begun : Consumer := { c with polling := true, loops := c.loops ++ [.receiving] }
  have first := release_nil begun c.loops.length (by simp [begun])
  have stepped : c.step .serve = begun.release c.loops.length [] := if_pos stopping
  rw [← stepped] at first
  exact first.then (run_returned first.place inputs)

/-! ## Without a shutdown a loop ends by a failure -/

/-- A loop has returned in good order. -/
def Closed : Option Standing → Prop
  | some (.keeps (.returned (.ok _))) => True
  | _ => False

theorem LoopMove.closed (move : LoopMove loop input a effects b)
    (known : Clearing (a.standing loop) → a.consumer.stopping = true)
    (closed : Closed (b.standing loop)) :
    b.consumer.stopping = true := by
  cases move with
  | drain =>
    rw [standing_self] at known
    exact known trivial
  | begin | take | enter | give | turn | leave | goOn =>
    rw [standing_self] at closed
    cases closed
  | @fail c _ asked =>
    rw [standing_moved { c with phase := .closed, polling := false } (lt_length_of_getElem? asked)]
      at closed
    cases closed
  | ask present | release present =>
    rw [standing_moved _ present] at closed
    cases closed
  | @wait c _ _ _ present =>
    rw [standing_moved { c with gate := c.gate.join loop } present] at closed
    cases closed
  | @quitLine c _ _ waited =>
    rw [standing_moved { c with gate := c.gate.leave loop } (lt_length_of_getElem? waited)]
      at closed
    cases closed
  | quit found =>
    rw [standing_moved _ (lt_length_of_getElem? found)] at closed
    cases closed

/-- Only a consumer that is stopping has loops that returned in good order. -/
structure Lasting (a : Moment) (effects : List Effect) : Prop where
  cautious : Cautious a effects
  closed : ∀ loop, Closed (a.standing loop) → a.consumer.stopping = true

theorem Move.lasting (move : Move input a effects b) (lasting : Lasting a before) :
    Lasting b (before ++ effects) := by
  refine ⟨move.cautious lasting.cautious, fun loop closed => ?_⟩
  rcases move.own_or_apart loop with own | ⟨same, -⟩
  · exact own.closed (lasting.cautious.clearing loop) closed
  · rcases move.stopping with unchanged | ⟨stopping, -⟩
    · rw [unchanged]
      exact lasting.closed loop (same ▸ closed)
    · exact stopping

theorem lasting_ofSettings (settings : ConsumerSettings) : Lasting ⟨ofSettings settings, none⟩ [] :=
  ⟨cautious_ofSettings settings, fun _ closed => by cases closed⟩

/-- A loop that has returned in good order was told to stop. -/
theorem Lasting.stopping (lasting : Lasting ⟨c, none⟩ effects)
    (found : c.loops[loop]? = some (.returned (.ok .closed))) : c.stopping = true :=
  lasting.closed loop (by rw [standing_of_getElem? found]; trivial)

/-- The failure by which the queue answers a loop. -/
def Effect.failure? : Effect → Option QueueError
  | .answered _ (.error e) => some e
  | _ => none

theorem failures_account (settings : ConsumerSettings) (loop : Nat) (rounds : List Round) :
    (account settings loop rounds).filterMap Effect.failure? = [] := by
  refine List.filterMap_eq_nil_iff.mpr fun e member => ?_
  obtain ⟨r, -, own⟩ := List.mem_flatMap.mp member
  simp only [Round.effects, List.mem_append, List.mem_cons, List.mem_map, List.not_mem_nil,
    or_false] at own
  rcases own with (((rfl | rfl) | ⟨p, -, rfl⟩) | ⟨m, -, rfl⟩) <;> rfl

/-- A loop that has returned while the consumer was not stopping was answered by one failure, the
last answer that it had, and returned it. -/
theorem failed_of_going {inputs : List Input} {result : Except ConsumerError Stopped}
    (going : ((ofSettings settings).run inputs).1.stopping = false)
    (found : ((ofSettings settings).run inputs).1.loops[loop]? = some (.returned result)) :
    ∃ e rounds, result = .error (.receive e) ∧ (∀ r ∈ rounds, r.Served) ∧
      loopHistory loop ((ofSettings settings).run inputs).2 = account settings loop rounds ++
        [.called (.loop loop) (batchRequest settings), .answered loop (.error e),
          .returned loop (.error (.receive e))] ∧
      (loopHistory loop ((ofSettings settings).run inputs).2).filterMap Effect.failure? = [e] := by
  have ledger := (run_booked settings inputs).ledgers loop
  rw [standing_of_getElem? found] at ledger
  generalize history_eq : loopHistory loop ((ofSettings settings).run inputs).2 = history at ledger
  cases ledger with
  | closed =>
    have lasting := run_induction (P := fun a effects => Lasting a effects)
      (fun move => move.lasting) (lasting_ofSettings settings) inputs
    exact absurd (lasting.stopping found) (Bool.eq_false_iff.mp going)
  | @failed rounds e served =>
    refine ⟨e, rounds, rfl, served, rfl, ?_⟩
    rw [List.filterMap_append, failures_account]
    rfl

/-! ## No polling after a shutdown -/

theorem not_concerns_shutDown (loop : Nat) (place : Place) (deadline : Nat) :
    Input.concerns loop place (.shutDown deadline) = false := by
  cases place <;> rfl

/-- Once a shutdown has begun no batch is asked for in the rest of the run.

A loop that is receiving at that time goes on doing so until it is answered.  Messages it gives to
the slots that are free then, from the front, and those that are left it makes visible again, one
after each answer; after the last it returns in good order.  A failure it returns, and it returns
nothing else.  A loop that is waiting at the gate makes its message and those after it visible again
when it looks around, and returns in good order; one that was releasing messages goes on.  A loop
that begins returns at once.

A loop that has returned before any shutdown returned the failure by which it was answered in its
last round, and it was answered by no other failure. -/
theorem no_polling_once_stopping (settings : ConsumerSettings) (earlier : List Input)
    (deadline : Nat) :
    let before := (ofSettings settings).run earlier
    let after (later : List Input) := before.1.run (.shutDown deadline :: later)
    (∀ later, Unpolled (after later).2) ∧
      (∀ loop first, before.1.loops[loop]? = some .receiving →
        (∀ input ∈ first, input.concerns loop .receiving = false) →
        Reached loop .receiving [] (after first) ∧
          ∀ answer rest, .abandon loop ∉ rest →
            let answers := rest.countP (Input.settles loop)
            let free := (after first).1.gate.free
            Reached loop (partingPlace free answer answers)
                (partingEffects settings loop free (after first).1.tasks.length answer answers)
                (after (first ++ .answer loop answer :: rest)) ∧
              ∀ result,
                (after (first ++ .answer loop answer :: rest)).1.loops[loop]? =
                    some (.returned result) ↔
                (∃ batch, answer = .ok batch ∧ batch.length - free ≤ answers ∧
                  result = .ok .closed) ∨
                  ∃ e, answer = .error e ∧ result = .error (.receive e)) ∧
      (∀ loop m left first, before.1.loops[loop]? = some (.waiting m left) →
        (∀ input ∈ first, input.concerns loop (.waiting m left) = false) →
        Reached loop (.waiting m left) [] (after first) ∧
          ∀ rest, .abandon loop ∉ rest →
            let answers := rest.countP (Input.settles loop)
            Reached loop (clearingPlace (m :: left) answers)
              (clearingEffects settings loop (m :: left) answers)
              (after (first ++ .resume loop :: rest))) ∧
      (∀ loop m left later, before.1.loops[loop]? = some (.releasing left) → .abandon loop ∉ later →
        let answers := later.countP (Input.settles loop)
        Reached loop (clearingPlace (m :: left) answers)
          (clearingEffects settings loop (m :: left) answers).tail
          (after later)) ∧
      (∀ first rest, Reached (after first).1.loops.length (.returned (.ok .closed))
        [.returned (after first).1.loops.length (.ok .closed)]
          ((after first).1.run (.serve :: rest))) ∧
      ((∀ deadline, .shutDown deadline ∉ earlier) →
        ∀ loop result, before.1.loops[loop]? = some (.returned result) →
          ∃ e rounds, result = .error (.receive e) ∧ (∀ r ∈ rounds, r.Served) ∧
            loopHistory loop before.2 = account settings loop rounds ++
              [.called (.loop loop) (batchRequest settings), .answered loop (.error e),
                .returned loop (.error (.receive e))] ∧
            (loopHistory loop before.2).filterMap Effect.failure? = [e]) := by
  intro before after
  have kept (later : List Input) : (after later).1.settings = settings :=
    (run_settings _ _).trans (run_settings _ _)
  have stopping (later : List Input) : (after later).1.stopping = true :=
    (run_stopping_iff _ _).mpr (.inr ⟨deadline, List.mem_cons_self⟩)
  -- the shutdown leaves every loop where it is
  have stays {loop : Nat} {place : Place} {first : List Input}
      (found : before.1.loops[loop]? = some place)
      (others : ∀ input ∈ first, input.concerns loop place = false) :
      Reached loop place [] (after first) :=
    run_unconcerned found
      (List.forall_mem_cons.mpr ⟨not_concerns_shutDown loop place deadline, others⟩)
  refine ⟨fun later => ?_, fun loop first found others => ?_,
    fun loop m left first found others => ?_, fun loop m left later found stayed => ?_,
    fun first rest => ?_, fun going loop result found => ?_⟩
  · exact run_unpolled_of_shutDown before.1 deadline later
  · have waits := stays found others
    refine ⟨waits, fun answer rest stayed => ?_⟩
    have answered := run_answered (kept first) (stopping first) waits.place stayed answer
    have reached := waits.then_run answered
    refine ⟨reached, fun result => ?_⟩
    rw [← partingPlace_eq_returned_iff]
    exact (iff_of_eq (congrArg (· = some (.returned result)) reached.place)).trans Option.some_inj
  · have waits := stays found others
    exact ⟨waits, fun rest stayed =>
      waits.then_run (run_resumed (kept first) (stopping first) waits.place stayed)⟩
  · have told := step_unconcerned found (not_concerns_shutDown loop (.releasing left) deadline)
    obtain ⟨history, reached, same⟩ := run_releasing (kept []) told.place stayed m
    exact ⟨reached.place, (told.then reached).history.trans (congrArg List.tail same)⟩
  · exact run_served (stopping first) rest
  · refine failed_of_going (Bool.eq_false_iff.mpr fun stopped => ?_) found
    obtain ⟨deadline, begun⟩ :=
      ((run_stopping_iff _ earlier).mp stopped).resolve_left Bool.false_ne_true
    exact going deadline begun

end MessageQueue.Consumer
