import MessageQueue.Proofs.Consumer.History
import MessageQueue.Proofs.Consumer.Slots

/-!
# What a handler owes its message

A message whose handler is done is deleted, one whose handler failed is hidden for the time after
which it is to be tried again, and one whose handler panicked is left alone.  `Task.history` says
what a handler has done by its stage, and `Move.recorded` that the effects of a run tell just this
of every handler, whatever else happens in between.  How a handler ends is said by an input and by
nothing else (`handled_mem_step_iff`), and its call is the one for this ending (`finish_eq`).  A
slot is given back once, as the last thing that a handler does.
-/

namespace MessageQueue.Consumer

variable {c d : Consumer} {a b : Moment} {input : Input} {effects before : List Effect}
variable {settings : ConsumerSettings}

/-! ## Histories by stage -/

/-- The calls that follow when a handler has ended. -/
def Outcome.duties (settings : ConsumerSettings) (m : ReceivedMessage) : Outcome → List QueueCall
  | .done => [.delete settings.queueUrl m.receiptHandle]
  | .failed => [.changeVisibility settings.queueUrl m.receiptHandle settings.retryTimeoutSeconds]
  | .panicked => []

/-- What a handler has done until it calls the queue and waits for the answer. -/
def Task.work (settings : ConsumerSettings) (index : Nat) (t : Task) (outcome : Outcome) :
    List Effect :=
  [.dispatched t.loop index t.message, .started index t.assignment, .handled index outcome] ++
    (outcome.duties settings t.message).map (.called (.task index))

/-- What a handler has done. -/
def Task.history (settings : ConsumerSettings) (index : Nat) (t : Task) : List Effect :=
  match t.stage with
  | .dispatched => [.dispatched t.loop index t.message]
  | .handling => [.dispatched t.loop index t.message, .started index t.assignment]
  | .following outcome => t.work settings index outcome
  | .finished outcome => t.work settings index outcome ++ [.freed index]

theorem duties_of_followUp_some {m : ReceivedMessage} {outcome : Outcome} {call : QueueCall}
    (due : c.followUp m outcome = some call) : outcome.duties c.settings m = [call] := by
  cases outcome <;> cases due <;> rfl

theorem duties_of_followUp_none {m : ReceivedMessage} {outcome : Outcome}
    (due : c.followUp m outcome = none) : outcome.duties c.settings m = [] := by
  cases outcome <;> cases due
  rfl

/-! ## Every move is recorded -/

/-- The effects tell of every handler what it has done.  Each has been lent the lifetime of the
handlers. -/
structure Recorded (settings : ConsumerSettings) (a : Moment) (effects : List Effect) : Prop where
  kept : a.consumer.settings = settings
  lent : ∀ task ∈ a.consumer.tasks, task.lifetime = .handlers
  told : ∀ index,
    taskHistory index effects = a.consumer.tasks[index]?.elim [] (Task.history settings index)

/-- A handler keeps the lifetime that it was lent. -/
theorem lent_staged {index : Nat} {task : Task} (found : c.tasks[index]? = some task)
    (stage : Stage) (lent : ∀ task ∈ c.tasks, task.lifetime = .handlers) :
    ∀ other ∈ (c.staged index task stage).tasks, other.lifetime = .handlers := by
  intro other member
  rcases List.mem_or_eq_of_mem_set member with old | rfl
  · exact lent other old
  · exact lent task (List.mem_of_getElem? found)

theorem Move.lent (move : Move input a effects b)
    (lent : ∀ task ∈ a.consumer.tasks, task.lifetime = .handlers) :
    ∀ task ∈ b.consumer.tasks, task.lifetime = .handlers := by
  cases move with
  | loop move =>
    rcases move.dispatches with ⟨m, -, tasks⟩ | ⟨tasks, -⟩
    · rw [tasks]
      exact List.forall_mem_append.mpr ⟨lent, List.forall_mem_singleton.mpr rfl⟩
    · rw [tasks]
      exact lent
  | @task c _ _ _ move =>
    cases move with
    | start found => exact lent_staged found _ lent
    | call found => exact lent_staged found _ lent
    | stop found => exact lent_staged (c := { c with gate := c.gate.giveBack }) found _ lent
    | free found => exact lent_staged (c := { c with gate := c.gate.giveBack }) found _ lent
  | watch move =>
    rw [move.tasks_eq]
    exact lent
  | pass => exact lent

theorem LoopMove.recorded {loop : Nat} (move : LoopMove loop input a effects b)
    (recorded : Recorded settings a before) : Recorded settings b (before ++ effects) := by
  refine ⟨(Move.loop move).settings_eq.trans recorded.kept, (Move.loop move).lent recorded.lent,
    fun index => ?_⟩
  rw [taskHistory_append, recorded.told]
  rcases move.dispatches with ⟨m, told, tasks⟩ | ⟨tasks, untold⟩
  · rw [told, tasks]
    by_cases new : a.consumer.tasks.length = index
    · subst new
      rw [List.getElem?_eq_none (Nat.le_refl _), List.getElem?_concat_length]
      simp [taskHistory_cons, Effect.task?, Task.history]
    · rw [getElem?_concat_of_ne new]
      simp [taskHistory_cons, Effect.task?, new]
  · rw [tasks, untold, List.append_nil]

theorem getElem?_staged_self {index : Nat} {task : Task} (found : c.tasks[index]? = some task)
    (stage : Stage) : (c.staged index task stage).tasks[index]? = some { task with stage } :=
  List.getElem?_set_self (List.getElem?_eq_some_iff.mp found).1

theorem TaskMove.tasks_of_ne {index other : Nat} (move : TaskMove index input c effects d)
    (different : index ≠ other) : d.tasks[other]? = c.tasks[other]? := by
  cases move <;> exact List.getElem?_set_ne different

/-- The handler whose move it is goes on in its history. -/
theorem TaskMove.history_eq {index : Nat} (move : TaskMove index input c effects d) :
    c.tasks[index]?.elim [] (Task.history c.settings index) ++ taskHistory index effects =
      d.tasks[index]?.elim [] (Task.history c.settings index) := by
  have apart := (admissions_admission c.gate).taskHistory_eq index
  cases move with
  | start found fresh =>
    rw [getElem?_staged_self found, found]
    simp [taskHistory_cons, Effect.task?, Task.history, fresh]
  | call found handling due =>
    rw [getElem?_staged_self found, found]
    simp [taskHistory_cons, Effect.task?, Task.history, Task.work, handling,
      duties_of_followUp_some due]
  | stop found handling due =>
    rw [getElem?_staged_self (c := { c with gate := c.gate.giveBack }) found, found]
    simp [taskHistory_cons, Effect.task?, Task.history, Task.work, handling,
      duties_of_followUp_none due, apart]
  | free found following =>
    rw [getElem?_staged_self (c := { c with gate := c.gate.giveBack }) found, found]
    simp [taskHistory_cons, Effect.task?, Task.history, Task.work, following, apart]

theorem TaskMove.recorded {index : Nat} (move : TaskMove index input c effects d)
    (recorded : Recorded settings ⟨c, none⟩ before) :
    Recorded settings ⟨d, none⟩ (before ++ effects) := by
  obtain ⟨rfl, lent, told⟩ := recorded
  refine ⟨(Move.task move).settings_eq, (Move.task move).lent lent, fun other => ?_⟩
  rw [taskHistory_append, told]
  by_cases own : index = other
  · subst own
    exact move.history_eq
  · rw [move.taskHistory_eq_nil own, List.append_nil, move.tasks_of_ne own]

theorem Move.recorded (move : Move input a effects b) (recorded : Recorded settings a before) :
    Recorded settings b (before ++ effects) := by
  cases move with
  | loop move => exact move.recorded recorded
  | task move => exact move.recorded recorded
  | watch move =>
    refine ⟨(Move.watch move).settings_eq.trans recorded.kept, (Move.watch move).lent recorded.lent,
      fun index => ?_⟩
    rw [taskHistory_append, move.taskHistory_eq_nil, List.append_nil, recorded.told, move.tasks_eq]
  | pass =>
    rw [List.append_nil]
    exact ⟨recorded.kept, recorded.lent, recorded.told⟩

/-- After every run the effects tell of every handler what it has done. -/
theorem run_recorded (settings : ConsumerSettings) (inputs : List Input) :
    Recorded settings ⟨((ofSettings settings).run inputs).1, none⟩
      ((ofSettings settings).run inputs).2 :=
  run_induction (P := fun a effects => Recorded settings a effects) (fun move => move.recorded)
    ⟨rfl, List.forall_mem_nil _, fun _ => rfl⟩ inputs

/-- A handler begins with its message and the lifetime that it was lent. -/
theorem Recorded.assignment_eq (recorded : Recorded settings a effects) {index : Nat}
    {given : Assignment} (begun : .started index given ∈ effects) :
    ∃ task, a.consumer.tasks[index]? = some task ∧ given = task.assignment ∧
      given.lifetime = .handlers := by
  have member : .started index given ∈ taskHistory index effects := by
    simp [taskHistory, begun, Effect.task?]
  rw [recorded.told] at member
  cases found : a.consumer.tasks[index]? with
  | none => simp [found] at member
  | some task =>
    have same : given = task.assignment := by
      rw [found] at member
      cases stage : task.stage <;> simp_all [Task.history, Task.work]
    exact ⟨task, rfl, same, same ▸ recorded.lent task (List.mem_of_getElem? found)⟩

/-! ## A handler ends when an input says so -/

/-- Whether a handler that has ended is done with its slot, since it has no call to make. -/
def Outcome.silent : Outcome → Bool
  | .panicked => true
  | _ => false

/-- The stage of a handler that has just ended. -/
def Outcome.stage (outcome : Outcome) : Stage :=
  if outcome.silent then .finished outcome else .following outcome

theorem finish_eq (c : Consumer) (index : Nat) (task : Task) (outcome : Outcome) :
    (c.finish index task outcome).1.tasks = c.tasks.set index { task with stage := outcome.stage } ∧
      (c.finish index task outcome).2 = .handled index outcome ::
        ((outcome.duties c.settings task.message).map (.called (.task index)) ++
          if outcome.silent then .freed index :: admission c.gate else []) := by
  cases outcome with
  | done => exact ⟨rfl, rfl⟩
  | failed => exact ⟨rfl, rfl⟩
  | panicked => exact ⟨rfl, rfl⟩

theorem Admissions.not_handled (admissions : Admissions effects) (index : Nat) (outcome : Outcome) :
    .handled index outcome ∉ effects := by
  intro member
  obtain ⟨loop, admitted⟩ := admissions _ member
  cases admitted

theorem Move.input_of_handled (move : Move input a effects b) {index : Nat} {outcome : Outcome}
    (ended : .handled index outcome ∈ effects) : input = .finish index outcome := by
  have granted := fun c : Consumer => (admissions_admission c.gate).not_handled index outcome
  cases move with
  | loop move =>
    cases move with
    | leave | quitLine => exact absurd ended ((admissions_departure _ _).not_handled index outcome)
    | _ => simp at ended
  | task move =>
    cases move with
    | start => simp at ended
    | call =>
      obtain ⟨rfl, rfl⟩ : index = _ ∧ outcome = _ := by simpa using ended
      rfl
    | stop =>
      obtain ⟨rfl, rfl⟩ : index = _ ∧ outcome = _ := by simpa [granted] using ended
      rfl
    | free => simp [granted] at ended
  | watch move => cases move <;> simp at ended
  | pass => simp at ended

/-- A handler ends in a step exactly if it is at work and the input says that it ends, and how. -/
theorem handled_mem_step_iff {index : Nat} {outcome : Outcome} :
    .handled index outcome ∈ (c.step input).2 ↔
      input = .finish index outcome ∧
        ∃ task, c.tasks[index]? = some task ∧ task.stage = .handling := by
  constructor
  · intro ended
    obtain ⟨_, _, _, move, member⟩ := (step_moves c input).exists_move ended
    obtain rfl := move.input_of_handled member
    refine ⟨rfl, ?_⟩
    simp only [step] at ended
    split at ended
    next task found =>
      split at ended
      next handling => exact ⟨task, found, handling⟩
      next => cases ended
    next => cases ended
  · rintro ⟨rfl, task, found, handling⟩
    simp only [step, found, handling, (finish_eq c index task outcome).2]
    exact List.mem_cons_self

/-! ## A handler that follows up holds its slot until it is answered -/

section Unanswered

variable {index : Nat} {task : Task} {outcome : Outcome}

theorem Move.following_kept (move : Move input a effects b)
    (unanswered : ∀ answer, input ≠ .followed index answer)
    (following : task.stage = .following outcome) (found : a.consumer.tasks[index]? = some task) :
    b.consumer.tasks[index]? = some task := by
  cases move with
  | loop move =>
    rcases move.dispatches with ⟨m, -, tasks⟩ | ⟨tasks, -⟩
    · rw [tasks, List.getElem?_append_left (List.getElem?_eq_some_iff.mp found).1]
      exact found
    · rw [tasks]
      exact found
  | @task c d other _ move =>
    by_cases own : other = index
    · subst own
      -- The handler is waiting for its answer, so the only move it has is the one that the answer
      -- leads to.
      cases move with
      | start there fresh =>
        cases found.symm.trans there
        cases following.symm.trans fresh
      | call there handling =>
        cases found.symm.trans there
        cases following.symm.trans handling
      | stop there handling =>
        cases found.symm.trans there
        cases following.symm.trans handling
      | @free _ _ _ answer => exact absurd rfl (unanswered answer)
    · exact (move.tasks_of_ne own).trans found
  | watch move =>
    rw [move.tasks_eq]
    exact found
  | pass => exact found

theorem step_of_unanswered (following : task.stage = .following outcome)
    (found : c.tasks[index]? = some task) (unanswered : ∀ answer, input ≠ .followed index answer) :
    (c.step input).1.tasks[index]? = some task :=
  (step_moves c input).induction (P := fun a _ => a.consumer.tasks[index]? = some task) []
    (fun move => move.following_kept unanswered following) found

/-- The answer changes the slots and the stage of the handler, and nothing else. -/
theorem step_followed (following : task.stage = .following outcome)
    (found : c.tasks[index]? = some task) (answer : Except QueueError Unit) :
    (c.step (.followed index answer)).1 =
      { c with
        gate := c.gate.giveBack
        tasks := c.tasks.set index { task with stage := .finished outcome } } := by
  simp only [step, found, following]
  rfl

end Unanswered

/-! ## The law of follow-ups -/

/-- After every run the effects tell of each handler that it made the calls that its outcome asks
for, once it had ended and before it gave its slot back, and no others.  The outcome is the one that
the input says: a handler ends in a step exactly if it is at work and the input is its end, and in
this step it makes the call for this outcome, or if it panicked gives its slot back.  Slots that are
not spare are held by handlers that have not finished.  A handler that has made its call waits until
the call is answered; the answer then gives its slot back, once, and changes nothing else.  Whether
answers are successes makes no difference to a run. -/
theorem follow_ups_made (settings : ConsumerSettings) (inputs : List Input) :
    let c := ((ofSettings settings).run inputs).1
    let effects := ((ofSettings settings).run inputs).2
    (∀ index, taskHistory index effects = c.tasks[index]?.elim [] (Task.history settings index)) ∧
      (∀ input index outcome, .handled index outcome ∈ (c.step input).2 ↔
        input = .finish index outcome ∧
          ∃ task, c.tasks[index]? = some task ∧ task.stage = .handling) ∧
      (∀ index task outcome, c.tasks[index]? = some task → task.stage = .handling →
        (c.step (.finish index outcome)).1.tasks =
            c.tasks.set index { task with stage := outcome.stage } ∧
          (c.step (.finish index outcome)).2 = .handled index outcome ::
            ((outcome.duties settings task.message).map (.called (.task index)) ++
              if outcome.silent then .freed index :: admission c.gate else [])) ∧
      c.gate.free + c.gate.granted.length + c.tasks.countP Task.unfinished = c.maxConcurrency ∧
      (∀ index task outcome, c.tasks[index]? = some task → task.stage = .following outcome →
        (∀ input, (∀ answer, input ≠ .followed index answer) →
          (c.step input).1.tasks[index]? = some task) ∧
        ∀ answer, (c.step (.followed index answer)).1 =
          { c with
            gate := c.gate.giveBack
            tasks := c.tasks.set index { task with stage := .finished outcome } }) ∧
      (ofSettings settings).run (inputs.map Input.untroubled) =
        (ofSettings settings).run inputs := by
  intro c effects
  have recorded : Recorded settings ⟨c, none⟩ effects := run_recorded settings inputs
  refine ⟨recorded.told, fun input index outcome => handled_mem_step_iff, ?_,
    run_balanced settings inputs, ?_, run_untroubled _ inputs⟩
  · intro index task outcome found handling
    have ended : c.step (.finish index outcome) = c.finish index task outcome := by
      simp only [step, found, handling]
    rw [ended, ← recorded.kept]
    exact finish_eq c index task outcome
  · intro index task outcome found following
    exact ⟨fun input => step_of_unanswered following found, step_followed following found⟩

/-- A consumer of one slot. -/
def oneSlot : ConsumerSettings where
  queueUrl := ⟨"http://q", by decide +kernel⟩

/-- A message whose receipt is spelled by one letter. -/
def received (letter : Char) : ReceivedMessage :=
  ⟨none, ⟨String.singleton letter, String.singleton_ne_empty⟩, [], .empty, .empty⟩

/-- Three handlers end, one in each way, and the deletion of the first message fails. -/
def threeEndings : List Input :=
  [.serve, .answer 0 (.ok (['a', 'b', 'c'].map received)), .start 0, .start 1, .start 2,
    .finish 0 .done, .finish 1 .failed, .finish 2 .panicked,
    .followed 0 (.error (.connectionFailed ""))]

theorem follow_ups_made_in_each_way :
    let settings : ConsumerSettings :=
      { oneSlot with maxConcurrency := 3, retryTimeoutSeconds := 7 }
    let begun := ((ofSettings settings).run (threeEndings.take 5)).1
    let effects := ((ofSettings settings).run threeEndings).2
    (begun.step (.finish 0 .done)).2 =
        [.handled 0 .done, .called (.task 0)
          (.delete settings.queueUrl (received 'a').receiptHandle)] ∧
      (begun.step (.finish 1 .failed)).2 = [.handled 1 .failed,
        .called (.task 1) (.changeVisibility settings.queueUrl (received 'b').receiptHandle 7)] ∧
      (begun.step (.finish 2 .panicked)).2 = [.handled 2 .panicked, .freed 2] ∧
      taskHistory 0 effects = [.dispatched 0 0 (received 'a'),
        .started 0 ⟨(received 'a').toMessage, .handlers⟩, .handled 0 .done,
        .called (.task 0) (.delete settings.queueUrl (received 'a').receiptHandle), .freed 0] ∧
      taskHistory 1 effects = [.dispatched 0 1 (received 'b'),
        .started 1 ⟨(received 'b').toMessage, .handlers⟩, .handled 1 .failed,
        .called (.task 1) (.changeVisibility settings.queueUrl (received 'b').receiptHandle 7)] ∧
      taskHistory 2 effects = [.dispatched 0 2 (received 'c'),
        .started 2 ⟨(received 'c').toMessage, .handlers⟩, .handled 2 .panicked, .freed 2] := by
  intro settings begun effects
  obtain ⟨told, -⟩ := follow_ups_made settings threeEndings
  obtain ⟨-, -, ended, -⟩ := follow_ups_made settings (threeEndings.take 5)
  exact ⟨(ended 0 _ .done rfl rfl).2, (ended 1 _ .failed rfl rfl).2,
    (ended 2 _ .panicked rfl rfl).2, told 0, told 1, told 2⟩

end MessageQueue.Consumer
