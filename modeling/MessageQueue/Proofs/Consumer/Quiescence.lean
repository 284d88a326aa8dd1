import MessageQueue.Proofs.Consumer.Batches

/-!
# Rest after a clean shutdown

A shutdown ends cleanly when it looks and finds that no slot is held and no loop is polling.  This
tells of the whole consumer only if the flag `polling` can be trusted, that is, if loops follow one
another and each runs until it returns.  In such a run the flag is set exactly while the one loop is
at work (`Tracked.step`).

So a clean end means that the consumer is at rest: it is stopping, no loop is at work and every
handler has finished (`Sound.step`).  From rest there is no way back.  Whatever happens, no call is
made and no handler does anything, and a loop that begins returns at once (`AtRest.run`).
-/

namespace MessageQueue.Consumer

variable {c d : Consumer} {loop : Nat}

/-! ## Runs in good order -/

/-- No loop is at work. -/
def Resting (c : Consumer) : Prop := ∀ place ∈ c.loops, place.working = false

/-- An input that neither begins a loop beside another one nor drops one that is at work. -/
def Input.Orderly (c : Consumer) : Input → Prop
  | .serve => Resting c
  | .abandon loop => ∀ place, c.loops[loop]? = some place → place.working = false
  | _ => True

/-- Loops follow one another, and each runs until it returns. -/
def Orderly : Consumer → List Input → Prop
  | _, [] => True
  | c, input :: inputs => input.Orderly c ∧ Orderly (c.step input).1 inputs

/-! ## The flag tells of the loop at work -/

/-- At most one loop is at work, and `polling` says whether one is. -/
def Tracked (c : Consumer) : Prop := c.loops.countP Place.working = c.polling.toNat

theorem Tracked.resting (tracked : Tracked c) (still : c.polling = false) : Resting c := by
  rw [Tracked, still] at tracked
  intro place member
  exact Bool.eq_false_iff.mpr (List.countP_eq_zero.mp tracked place member)

/-- How a loop whose turn it was leaves the consumer: it is in another place, and if it has returned
then it has cleared the flag. -/
structure Turned (loop : Nat) (c d : Consumer) (place : Place) : Prop where
  loops : d.loops = c.loops.set loop place
  polling : d.polling = (c.polling && place.working)
  watches : d.watches = c.watches

theorem turned_moved (place : Place) (working : place.working = true) :
    Turned loop c (c.moved loop place) place :=
  ⟨rfl, by rw [working, Bool.and_true]; rfl, rfl⟩

theorem turned_finishLoop (result : Except ConsumerError Stopped) :
    Turned loop c (c.finishLoop loop result).1 (.returned result) :=
  ⟨rfl, (Bool.and_false c.polling).symm, rfl⟩

theorem turned_release (c : Consumer) (loop : Nat) (messages : List ReceivedMessage) :
    ∃ place, Turned loop c (c.release loop messages).1 place := by
  cases messages with
  | nil => exact ⟨.returned (.ok .closed), rfl, (Bool.and_false c.polling).symm, rfl⟩
  | cons m rest => exact ⟨_, turned_moved _ rfl⟩

theorem turned_nextBatch (c : Consumer) (loop : Nat) :
    ∃ place, Turned loop c (c.nextBatch loop).1 place := by
  unfold nextBatch
  split
  next => exact turned_release c loop []
  next => exact ⟨_, turned_moved _ rfl⟩

theorem turned_feed (c : Consumer) (loop : Nat) (messages : List ReceivedMessage) :
    ∃ place, Turned loop c (c.feed loop messages).1 place := by
  induction messages generalizing c with
  | nil => exact turned_nextBatch c loop
  | cons m rest ih =>
    simp only [feed]
    split
    next gate taken =>
      obtain ⟨place, loops, polling, watches⟩ := ih ({ c with gate }.dispatch loop m)
      exact ⟨place, loops, polling, watches⟩
    next full =>
      split
      next => exact turned_release c loop (m :: rest)
      next => exact ⟨.waiting m rest, rfl, (Bool.and_true c.polling).symm, rfl⟩

/-- A turn of a loop at work keeps the flag right. -/
theorem Tracked.turned {place next : Place} (tracked : Tracked c)
    (found : c.loops[loop]? = some place)
    (working : place.working = true) (turned : Turned loop c d next) : Tracked d := by
  obtain ⟨present, rfl⟩ := List.getElem?_eq_some_iff.mp found
  have counted : 0 < c.loops.countP Place.working :=
    List.countP_pos_iff.mpr ⟨_, List.getElem_mem present, working⟩
  unfold Tracked at tracked ⊢
  have flag : c.polling = true := by
    cases still : c.polling with
    | true => rfl
    | false => rw [tracked, still] at counted; cases counted
  have polling := turned.polling
  rw [flag, Bool.true_and] at polling
  rw [turned.loops, polling, List.countP_set present, if_pos working, tracked, flag]
  cases next.working <;> rfl

/-- A shutdown that looks around changes no more than where it stands and whether handlers are told
to give up.  It ends cleanly only if no slot is held and no loop is polling. -/
theorem look_eq (c : Consumer) (watch deadline next : Nat) :
    ∃ givingUp watches, (c.look watch deadline next).1 = { c with givingUp, watches } ∧
      (.ended .quiet ∈ watches →
        .ended .quiet ∈ c.watches ∨ c.inFlight = 0 ∧ c.polling = false) := by
  unfold look
  split
  next late =>
    split
    next idle =>
      exact ⟨_, _, rfl, fun clean =>
        .inl ((List.mem_or_eq_of_mem_set clean).resolve_right (by simp))⟩
    next busy =>
      exact ⟨_, _, rfl, fun clean =>
        .inl ((List.mem_or_eq_of_mem_set clean).resolve_right (by simp))⟩
  next early =>
    split
    next tick =>
      split
      next quiet => exact ⟨_, _, rfl, fun _ => .inr ⟨quiet.1, by simpa using quiet.2⟩⟩
      next busy =>
        exact ⟨_, _, rfl, fun clean =>
          .inl ((List.mem_or_eq_of_mem_set clean).resolve_right (by simp))⟩
    next => exact ⟨_, _, rfl, .inl⟩

/-- What a step does to the loops, to the flag and to the shutdowns. -/
inductive Outline (c : Consumer) : Input → Consumer → Prop where
  | begin {d : Consumer} {place : Place}
      (turned : Turned c.loops.length
        { c with polling := true, loops := c.loops ++ [.receiving] } d place) :
      Outline c .serve d
  | turn {input : Input} {d : Consumer} {loop : Nat} {place next : Place}
      (found : c.loops[loop]? = some place) (working : place.working = true)
      (turned : Turned loop c d next) : Outline c input d
  | drop {d : Consumer} {loop : Nat} {place : Place} (found : c.loops[loop]? = some place)
      (working : place.working = true) : Outline c (.abandon loop) d
  | aside {input : Input} {d : Consumer} (loops : d.loops = c.loops)
      (polling : d.polling = c.polling)
      (clean : .ended .quiet ∈ d.watches →
        .ended .quiet ∈ c.watches ∨ d.inFlight = 0 ∧ d.polling = false) :
    Outline c input d

theorem outline_of_eq {input : Input} (loops : d.loops = c.loops) (polling : d.polling = c.polling)
    (watches : d.watches = c.watches) : Outline c input d :=
  .aside loops polling fun clean => .inl (watches ▸ clean)

theorem step_outline (c : Consumer) (input : Input) : Outline c input (c.step input).1 := by
  have unchanged : Outline c input c := outline_of_eq rfl rfl rfl
  cases input with
  | serve =>
    obtain ⟨place, turned⟩ :=
      turned_nextBatch { c with polling := true, loops := c.loops ++ [.receiving] } c.loops.length
    exact .begin turned
  | answer loop batch =>
    simp only [step]
    split
    next asked =>
      cases batch with
      | ok messages =>
        obtain ⟨place, turned⟩ := turned_feed c loop messages
        exact .turn asked rfl turned
      | error e => exact .turn asked rfl (turned_finishLoop _)
    next => exact unchanged
  | resume loop =>
    simp only [step]
    split
    next m rest waited =>
      unfold resume
      split
      next =>
        obtain ⟨place, loops, polling, watches⟩ :=
          turned_release { c with gate := c.gate.leave loop } loop (m :: rest)
        exact .turn waited rfl ⟨loops, polling, watches⟩
      next =>
        split
        next gate claimed =>
          obtain ⟨place, loops, polling, watches⟩ :=
            turned_feed ({ c with gate }.dispatch loop m) loop rest
          exact .turn waited rfl ⟨loops, polling, watches⟩
        next => exact unchanged
    next => exact unchanged
  | released loop answer =>
    simp only [step]
    split
    next rest released =>
      obtain ⟨place, turned⟩ := turned_release c loop rest
      exact .turn released rfl turned
    next => exact unchanged
  | abandon loop =>
    simp only [step]
    split
    next place found =>
      split
      next working => exact .drop found working
      next => exact unchanged
    next => exact unchanged
  | start index =>
    simp only [step]
    repeat' split
    all_goals exact outline_of_eq rfl rfl rfl
  | finish index outcome =>
    simp only [step]
    split
    next task found =>
      split
      next =>
        unfold finish
        split <;> exact outline_of_eq rfl rfl rfl
      next => exact unchanged
    next => exact unchanged
  | followed index answer =>
    simp only [step]
    repeat' split
    all_goals exact outline_of_eq rfl rfl rfl
  | shutDown deadline =>
    obtain ⟨givingUp, watches, same, clean⟩ :=
      look_eq { c with stopping := true, watches := c.watches ++ [.watching deadline c.now] }
        c.watches.length deadline c.now
    have last : (c.shutDown deadline).1 = { c with stopping := true, givingUp, watches } := same
    simp only [step, last]
    refine .aside rfl rfl fun ended => (clean ended).imp_left fun earlier => ?_
    simpa using earlier
  | look watch =>
    simp only [step]
    split
    next deadline next found =>
      obtain ⟨givingUp, watches, same, clean⟩ := look_eq c watch deadline next
      rw [same]
      exact .aside rfl rfl clean
    next => exact unchanged
  | wait milliseconds => exact outline_of_eq rfl rfl rfl

theorem Tracked.step {input : Input} (tracked : Tracked c) (orderly : input.Orderly c) :
    Tracked (c.step input).1 := by
  cases step_outline c input with
  | begin turned =>
    have noneWorking : c.loops.countP Place.working = 0 :=
      List.countP_eq_zero.mpr fun place member => Bool.eq_false_iff.mp (orderly place member)
    have begun : Tracked { c with polling := true, loops := c.loops ++ [.receiving] } := by
      simp [Tracked, noneWorking, Place.working]
    exact begun.turned List.getElem?_concat_length rfl turned
  | turn found working turned => exact tracked.turned found working turned
  | drop found working => exact absurd (orderly _ found) (by simp [working])
  | aside loops polling =>
    rw [Tracked, loops, polling]
    exact tracked

/-- A shutdown that has just ended cleanly has found no slot held and no loop polling. -/
theorem step_clean {input : Input} (orderly : input.Orderly c)
    (clean : .ended .quiet ∈ (c.step input).1.watches) :
    .ended .quiet ∈ c.watches ∨
      (c.step input).1.inFlight = 0 ∧ (c.step input).1.polling = false := by
  cases step_outline c input with
  | begin turned => exact .inl (turned.watches ▸ clean)
  | turn found working turned => exact .inl (turned.watches ▸ clean)
  | drop found working => exact absurd (orderly _ found) (by simp [working])
  | aside _ _ known => exact known clean

/-! ## At rest -/

/-- Nothing is going on, and no further batch will be asked for. -/
structure AtRest (c : Consumer) : Prop where
  stopping : c.stopping = true
  resting : Resting c
  finished : ∀ t ∈ c.tasks, t.unfinished = false

/-- An effect that is neither a call to the queue nor anything that a handler does. -/
def Effect.Idle (e : Effect) : Prop := (∀ caller call, e ≠ .called caller call) ∧ e.task? = none

/-- The loop that an input begins, returned at once. -/
def Input.arrivals : Input → List Place
  | .serve => [.returned (.ok .closed)]
  | _ => []

/-- What happens at rest: loops that begin return at once, and nothing else is done. -/
structure Rested (c : Consumer) (arrivals : List Place) (after : Consumer × List Effect) :
    Prop where
  rest : AtRest after.1
  tasks : after.1.tasks = c.tasks
  loops : after.1.loops = c.loops ++ arrivals
  idle : ∀ e ∈ after.2, e.Idle

theorem AtRest.unchanged (rest : AtRest c) : Rested c [] (c, []) :=
  ⟨rest, rfl, (List.append_nil _).symm, by simp⟩

theorem AtRest.serve (rest : AtRest c) : Rested c [.returned (.ok .closed)] c.serve := by
  have returned : c.serve =
      ({ c with phase := .closed, polling := false, loops := c.loops ++ [.returned (.ok .closed)] },
        [.entered .draining, .entered .closed, .returned c.loops.length (.ok .closed)]) := by
    simp [Consumer.serve, nextBatch, rest.stopping, drain, finishLoop, moved]
  rw [returned]
  refine ⟨⟨rest.stopping, ?_, rest.finished⟩, rfl, rfl, by simp [Effect.Idle, Effect.task?]⟩
  exact List.forall_mem_append.mpr ⟨rest.resting, List.forall_mem_singleton.mpr rfl⟩

/-- No loop is in a place where it is at work. -/
theorem AtRest.loop_elim (rest : AtRest c) {place : Place} (found : c.loops[loop]? = some place)
    (working : place.working = true) {P : Prop} : P := by
  rw [rest.resting place (List.mem_of_getElem? found)] at working
  cases working

/-- No handler is at a stage at which it is not finished. -/
theorem AtRest.task_elim (rest : AtRest c) {index : Nat} {task : Task}
    (found : c.tasks[index]? = some task) (unfinished : task.unfinished = true) {P : Prop} : P := by
  rw [rest.finished task (List.mem_of_getElem? found)] at unfinished
  cases unfinished

theorem look_idle (watch deadline next : Nat) : ∀ e ∈ (c.look watch deadline next).2, e.Idle := by
  unfold look
  split
  next late =>
    split
    next idle => simp [endWatch, Effect.Idle, Effect.task?]
    next busy => simp [endWatch, Effect.Idle, Effect.task?]
  next early =>
    split
    next tick =>
      split
      next quiet => simp [endWatch, Effect.Idle, Effect.task?]
      next busy => simp
    next => simp

theorem AtRest.look (rest : AtRest c) (watch deadline next : Nat) :
    Rested c [] (c.look watch deadline next) := by
  obtain ⟨givingUp, watches, same, -⟩ := look_eq c watch deadline next
  have kept : AtRest { c with givingUp, watches } := ⟨rest.stopping, rest.resting, rest.finished⟩
  exact ⟨same ▸ kept, by rw [same], by rw [same, List.append_nil], look_idle watch deadline next⟩

/-- No input disturbs a consumer at rest. -/
theorem AtRest.step (rest : AtRest c) (input : Input) : Rested c input.arrivals (c.step input) := by
  cases input with
  | serve => exact rest.serve
  | answer loop batch =>
    simp only [Consumer.step]
    split
    next asked => exact rest.loop_elim asked rfl
    next => exact rest.unchanged
  | resume loop =>
    simp only [Consumer.step]
    split
    next m others waited => exact rest.loop_elim waited rfl
    next => exact rest.unchanged
  | released loop answer =>
    simp only [Consumer.step]
    split
    next others released => exact rest.loop_elim released rfl
    next => exact rest.unchanged
  | abandon loop =>
    simp only [Consumer.step]
    split
    next place found =>
      split
      next working => exact rest.loop_elim found working
      next => exact rest.unchanged
    next => exact rest.unchanged
  | start index =>
    simp only [Consumer.step]
    split
    next task found =>
      split
      next fresh => exact rest.task_elim found (by simp [Task.unfinished, fresh])
      next => exact rest.unchanged
    next => exact rest.unchanged
  | finish index outcome =>
    simp only [Consumer.step]
    split
    next task found =>
      split
      next handling => exact rest.task_elim found (by simp [Task.unfinished, handling])
      next => exact rest.unchanged
    next => exact rest.unchanged
  | followed index answer =>
    simp only [Consumer.step]
    split
    next task found =>
      split
      next outcome following => exact rest.task_elim found (by simp [Task.unfinished, following])
      next => exact rest.unchanged
    next => exact rest.unchanged
  | shutDown deadline =>
    have begun : AtRest
        { c with stopping := true, watches := c.watches ++ [.watching deadline c.now] } :=
      ⟨rfl, rest.resting, rest.finished⟩
    obtain ⟨last, tasks, loops, idle⟩ := begun.look c.watches.length deadline c.now
    refine ⟨last, tasks, loops, List.forall_mem_cons.mpr ⟨?_, idle⟩⟩
    simp [Effect.Idle, Effect.task?]
  | look watch =>
    simp only [Consumer.step]
    split
    next deadline next found => exact rest.look watch deadline next
    next => exact rest.unchanged
  | wait milliseconds =>
    exact ⟨⟨rest.stopping, rest.resting, rest.finished⟩, rfl, (List.append_nil _).symm,
      by simp [Consumer.step]⟩

/-- No run disturbs a consumer at rest. -/
theorem AtRest.run (rest : AtRest c) (inputs : List Input) :
    Rested c (inputs.flatMap Input.arrivals) (c.run inputs) := by
  induction inputs generalizing c with
  | nil => exact rest.unchanged
  | cons input inputs ih =>
    obtain ⟨next, tasks, loops, idle⟩ := rest.step input
    obtain ⟨last, moreTasks, moreLoops, moreIdle⟩ := ih next
    refine ⟨last, moreTasks.trans tasks, ?_, List.forall_mem_append.mpr ⟨idle, moreIdle⟩⟩
    rw [List.flatMap_cons, ← List.append_assoc, ← loops]
    exact moreLoops

/-! ## A clean end means rest -/

/-- A consumer with a shutdown is stopping. -/
def Told (c : Consumer) : Prop := c.watches ≠ [] → c.stopping = true

theorem Move.told {input : Input} {a b : Moment} {effects : List Effect}
    (move : Move input a effects b) (told : Told a.consumer) : Told b.consumer := by
  cases move with
  | loop move => cases move <;> exact told
  | task move => cases move <;> exact told
  | watch move =>
    cases move with
    | stop => exact fun _ => rfl
    | endIdle found | endOverdue found | endQuiet found | lookAgain found =>
      exact fun _ => told (List.ne_nil_of_mem (List.mem_of_getElem? found))
  | pass => exact told

/-- What holds between the steps of a run in good order. -/
structure Sound (c : Consumer) : Prop where
  tracked : Tracked c
  balanced : Balanced c
  told : Told c
  /-- Once a shutdown has ended cleanly the consumer is at rest. -/
  rest : .ended .quiet ∈ c.watches → AtRest c

theorem sound_ofSettings (settings : ConsumerSettings) : Sound (ofSettings settings) where
  tracked := rfl
  balanced := balanced_ofSettings settings
  told stopping := absurd rfl stopping
  rest clean := absurd clean List.not_mem_nil

/-- With no slot held, every handler has finished. -/
theorem finished_of_idle (balanced : Balanced c) (idle : c.inFlight = 0) :
    ∀ t ∈ c.tasks, t.unfinished = false := by
  have allFinished : c.tasks.countP Task.unfinished = 0 := by
    simp only [Balanced, Gate.spare, inFlight, Gate.taken] at balanced idle
    omega
  exact fun t member => Bool.eq_false_iff.mpr (List.countP_eq_zero.mp allFinished t member)

/-- A shutdown that finds no slot held and no loop polling finds the consumer at rest. -/
theorem atRest_of_idle (tracked : Tracked c) (balanced : Balanced c) (stopping : c.stopping = true)
    (idle : c.inFlight = 0) (still : c.polling = false) : AtRest c :=
  ⟨stopping, tracked.resting still, finished_of_idle balanced idle⟩

/-- Every step in good order keeps what holds between steps. -/
theorem Sound.step {input : Input} (sound : Sound c) (orderly : input.Orderly c) :
    Sound (c.step input).1 := by
  have tracked : Tracked (c.step input).1 := sound.tracked.step orderly
  have balanced : Balanced (c.step input).1 :=
    (step_moves c input).induction (P := fun a _ => Balanced a.consumer) []
      (fun move => move.balanced)
      sound.balanced
  have told : Told (c.step input).1 :=
    (step_moves c input).induction (P := fun a _ => Told a.consumer) [] (fun move => move.told)
      sound.told
  refine ⟨tracked, balanced, told, fun clean => ?_⟩
  rcases step_clean orderly clean with earlier | ⟨idle, still⟩
  · exact ((sound.rest earlier).step input).rest
  · exact atRest_of_idle tracked balanced (told (List.ne_nil_of_mem clean)) idle still

theorem Sound.run {inputs : List Input} (sound : Sound c) (orderly : Orderly c inputs) :
    Sound (c.run inputs).1 := by
  induction inputs generalizing c with
  | nil => exact sound
  | cons input inputs ih => exact ih (sound.step orderly.1) orderly.2

/-! ## After a clean shutdown -/

/-- Once a shutdown has ended cleanly, in a run whose loops follow one another and are not dropped,
every handler has finished and no loop is at work.  Whatever happens afterwards, the handlers stay
as they are, each loop that begins has returned in good order, and of all that is done nothing is a
call to the queue or the doing of a handler. -/
theorem rest_after_clean_shutdown (settings : ConsumerSettings) (earlier later : List Input)
    (orderly : Orderly (ofSettings settings) earlier)
    (clean : .ended .quiet ∈ ((ofSettings settings).run earlier).1.watches) :
    let c := ((ofSettings settings).run earlier).1
    (∀ t ∈ c.tasks, ∃ outcome, t.stage = .finished outcome) ∧
      (∀ place ∈ c.loops, place.working = false) ∧
      (c.run later).1.tasks = c.tasks ∧
      (c.run later).1.loops = c.loops ++ later.flatMap Input.arrivals ∧
      ∀ e ∈ (c.run later).2, e.Idle := by
  intro c
  have rest : AtRest c := ((sound_ofSettings settings).run orderly).rest clean
  obtain ⟨-, tasks, loops, idle⟩ := rest.run later
  refine ⟨fun t member => ?_, rest.resting, tasks, loops, idle⟩
  have finished := rest.finished t member
  cases stage : t.stage with
  | finished outcome => exact ⟨outcome, rfl⟩
  | _ => simp [Task.unfinished, stage] at finished

/-- A shutdown begins while a handler is at work and a batch has been asked for.  It looks again
when the handler has finished and the loop has returned. -/
def cleanShutdown : List Input :=
  [.serve, .answer 0 (.ok [received 'a']), .start 0, .shutDown 1000, .finish 0 .done,
    .answer 0 (.ok []), .followed 0 (.ok ()), .wait 500, .look 0]

theorem rest_after_clean_shutdown_of_busy :
    let c := ((ofSettings oneSlot).run cleanShutdown).1
    Orderly (ofSettings oneSlot) cleanShutdown ∧ .ended .quiet ∈ c.watches ∧
      c.tasks.length = 1 ∧ (c.run [.serve]).1.loops = c.loops ++ [.returned (.ok .closed)] := by
  intro c
  have orderly : Orderly (ofSettings oneSlot) cleanShutdown :=
    ⟨fun place member => absurd member List.not_mem_nil, trivial, trivial, trivial, trivial,
      trivial, trivial, trivial, trivial, trivial⟩
  have clean : .ended .quiet ∈ c.watches := List.mem_singleton_self _
  obtain ⟨-, -, -, loops, -⟩ :=
    rest_after_clean_shutdown oneSlot cleanShutdown [.serve] orderly clean
  exact ⟨orderly, clean, rfl, loops⟩

end MessageQueue.Consumer
