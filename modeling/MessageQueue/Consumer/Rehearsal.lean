import MessageQueue.Consumer.Step

/-!
# Rehearsals

A rehearsal runs a consumer against a script, in a time of its own.  The script says what the queue
answers and when, how long each handler works and how it ends, and when loops and shutdowns are
begun.

Inputs that are due wait in a queue and are taken one at a time.  What follows without a delay comes
next, since an activity goes on until it has to wait; whoever is woken goes to the end of the queue.
When nobody is ready the time jumps to the next alarm or to the next act of the script, whichever is
first, and at the same time the act is first.  The number of steps is bounded by an argument, since
a queue that answers without delay keeps a consumer busy for ever.
-/

namespace MessageQueue

namespace Consumer

/-- An answer of the queue to a loop. -/
structure Delivery where
  /-- How long it takes, in milliseconds. -/
  delay : Nat
  batch : Except QueueError (List ReceivedMessage)

/-- How a handler works. -/
structure Work where
  /-- How long it takes, in milliseconds; absent if it goes on for ever. -/
  lasts : Option Nat
  outcome : Outcome
  /-- How it ends when it is told to give up; absent if it does not listen. -/
  onGiveUp : Option Outcome

/-- What somebody does with a consumer. -/
inductive Act where
  | serve
  /-- A shutdown with so many milliseconds until its deadline. -/
  | shutDown (allowed : Nat)
  | observe
deriving DecidableEq, Repr

/-- What the world does to a consumer. -/
structure Script where
  /-- The answers to the calls for a batch, in order. -/
  deliveries : List Delivery
  /-- How long an empty answer takes when there are no more. -/
  idle : Nat
  work : Message → Work
  /-- How long any other call takes, and its answer. -/
  reply : QueueCall → Nat × Except QueueError Unit
  /-- What is done at which time. -/
  acts : List (Nat × Act)
  /-- When the rehearsal is over. -/
  closing : Nat

/-- What one sees of a consumer at a time. -/
structure Observation where
  time : Nat
  phase : Phase
  inFlight : Nat
  running : Nat
deriving DecidableEq, Repr

/-- An effect in a rehearsal. -/
structure Entry where
  time : Nat
  effect : Effect
  /-- Whether handlers had been told to give up. -/
  givingUp : Bool

end Consumer

open Consumer

/-- A consumer in a rehearsal. -/
structure Rehearsal where
  script : Script
  consumer : Consumer
  /-- The inputs that are due. -/
  ready : List Input
  /-- The inputs to come, by time. -/
  alarms : List (Nat × Input)
  /-- What has happened, last first. -/
  journal : List Entry
  /-- What has been seen, last first. -/
  seen : List Observation

namespace Rehearsal

/-- A rehearsal that has not begun. -/
def ofScript (settings : ConsumerSettings) (script : Script) : Rehearsal :=
  ⟨script, .ofSettings settings, [], [], [], []⟩

/-! ## Alarms -/

/-- The alarms with one more, after those of the same time. -/
def withAlarm (time : Nat) (input : Input) : List (Nat × Input) → List (Nat × Input)
  | [] => [(time, input)]
  | first :: rest =>
    if first.1 ≤ time then first :: withAlarm time input rest else (time, input) :: first :: rest

/-- The rehearsal with an input that comes after a delay: next if there is none. -/
def after (r : Rehearsal) (delay : Nat) (input : Input) : Rehearsal :=
  if delay = 0 then { r with ready := input :: r.ready }
  else { r with alarms := withAlarm (r.consumer.now + delay) input r.alarms }

/-- The rehearsal with inputs at the end of the queue. -/
def woken (r : Rehearsal) (inputs : List Input) : Rehearsal := { r with ready := r.ready ++ inputs }

/-- The rehearsal with an alarm for the next look of a shutdown, unless it has ended. -/
def watched (r : Rehearsal) (watch : Nat) : Rehearsal :=
  match r.consumer.watches[watch]? with
  | some (.watching deadline next) =>
    { r with alarms := withAlarm (min deadline next) (.look watch) r.alarms }
  | _ => r

/-! ## Effects -/

/-- The loops at the gate. -/
def waiting (c : Consumer) : List Nat :=
  (List.range c.loops.length).filter fun i =>
    match c.loops[i]? with
    | some (.waiting _ _) => true
    | _ => false

/-- The handlers that work and listen, and whose lifetime is over. -/
def listening (r : Rehearsal) : List Nat :=
  (List.range r.consumer.tasks.length).filter fun i =>
    match r.consumer.tasks[i]? with
    | some t =>
      t.stage = .handling ∧ r.consumer.cancelled t.lifetime ∧
        (r.script.work t.message.toMessage).onGiveUp.isSome
    | none => false

/-- What follows from an effect. -/
def followed (r : Rehearsal) : Effect → Rehearsal
  | .called (.loop loop) (.receive _) =>
    match r.script.deliveries with
    | [] => r.after r.script.idle (.answer loop (.ok []))
    | d :: rest =>
      { r with script := { r.script with deliveries := rest } }.after d.delay (.answer loop d.batch)
  | .called (.loop loop) call =>
    r.after (r.script.reply call).1 (.released loop (r.script.reply call).2)
  | .called (.task task) call =>
    r.after (r.script.reply call).1 (.followed task (r.script.reply call).2)
  | .dispatched _ task _ => r.woken [.start task]
  | .admitted loop => r.woken [.resume loop]
  | .started task given =>
    let work := r.script.work given.toMessage
    if r.consumer.cancelled given.lifetime ∧ work.onGiveUp.isSome then
      r.after 0 (.finish task work.outcome)
    else match work.lasts with
      | some n => r.after n (.finish task work.outcome)
      | none => r
  | .stopped => r.woken ((waiting r.consumer).map .resume)
  | .gaveUp => r.woken (r.listening.map (.finish · .failed))
  | _ => r

/-- The outcome of a handler that ends: a handler that listens looks first whether its lifetime is
over. -/
def outcome (r : Rehearsal) (task : Nat) (planned : Outcome) : Outcome :=
  match r.consumer.tasks[task]? with
  | some t =>
    if r.consumer.cancelled t.lifetime then
      (r.script.work t.message.toMessage).onGiveUp.getD planned
    else planned
  | none => planned

/-- The input as the consumer gets it. -/
def actual (r : Rehearsal) : Input → Input
  | .finish task planned => .finish task (r.outcome task planned)
  | input => input

/-- The watch that an input is for. -/
def watchOf (c : Consumer) : Input → Option Nat
  | .shutDown _ => some c.watches.length
  | .look watch => some watch
  | _ => none

/-- The rehearsal after an input. -/
def take (r : Rehearsal) (input : Input) : Rehearsal :=
  let watch := watchOf r.consumer input
  let (consumer, effects) := r.consumer.step (r.actual input)
  let entries := effects.map fun effect => (⟨consumer.now, effect, consumer.givingUp⟩ : Entry)
  let next := effects.foldl followed { r with consumer, journal := entries.reverse ++ r.journal }
  match watch with
  | some watch => next.watched watch
  | none => next

/-! ## Acts and time -/

/-- The rehearsal after an act. -/
def act (r : Rehearsal) : Act → Rehearsal
  | .serve => r.woken [.serve]
  | .shutDown allowed => r.woken [.shutDown (r.consumer.now + allowed)]
  | .observe =>
    { r with
      seen :=
        ⟨r.consumer.now, r.consumer.phase, r.consumer.inFlight, r.consumer.running⟩ :: r.seen }

/-- The rehearsal after the acts that are due. -/
def performed (r : Rehearsal) : Rehearsal :=
  let due := r.script.acts.takeWhile (·.1 ≤ r.consumer.now)
  let later := r.script.acts.dropWhile (·.1 ≤ r.consumer.now)
  (due.map (·.2)).foldl act { r with script := { r.script with acts := later } }

/-- The time of the next act, or of the end. -/
def nextAct (r : Rehearsal) : Nat :=
  match r.script.acts with
  | [] => r.script.closing
  | (time, _) :: _ => time

/-- The rehearsal at a later time, with what is due then. -/
def advanced (r : Rehearsal) (time : Nat) : Rehearsal :=
  let moment : Rehearsal :=
    { r with
      consumer := (r.consumer.step (.wait (time - r.consumer.now))).1
      ready := r.ready ++ (r.alarms.takeWhile (·.1 ≤ time)).map (·.2)
      alarms := r.alarms.dropWhile (·.1 ≤ time) }
  moment.performed

/-- The rehearsal when everybody waits: at the next time, or over. -/
def jump (r : Rehearsal) : Option Rehearsal :=
  match r.alarms with
  | (time, _) :: _ =>
    if time < r.nextAct then some (r.advanced time)
    else if r.script.acts = [] then none
    else some (r.advanced r.nextAct)
  | [] => if r.script.acts = [] then none else some (r.advanced r.nextAct)

/-- The rehearsal after so many steps, or when it is over. -/
def run : Nat → Rehearsal → Rehearsal
  | 0, r => r
  | steps + 1, r =>
    match r.ready with
    | input :: rest => run steps ({ r with ready := rest }.take input)
    | [] =>
      match r.jump with
      | some next => run steps next
      | none => r

/-! ## What was seen -/

/-- What has happened, in order. -/
def history (r : Rehearsal) : List Entry := r.journal.reverse

/-- The most handlers that worked at once, after some that work and have worked at most. -/
def mostAtOnce : Nat → Nat → List Effect → Nat
  | _, most, [] => most
  | now, most, .started _ _ :: rest => mostAtOnce (now + 1) (max most (now + 1)) rest
  | now, most, .handled _ _ :: rest => mostAtOnce (now - 1) most rest
  | now, most, _ :: rest => mostAtOnce now most rest

/-- The most handlers that worked at once. -/
def peak (r : Rehearsal) : Nat := mostAtOnce 0 0 (r.history.map (·.effect))

end Rehearsal
end MessageQueue
