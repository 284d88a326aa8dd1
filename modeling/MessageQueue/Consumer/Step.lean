import MessageQueue.Consumer.Basic

/-!
# What a consumer does

A consumer is a machine: an input changes it and has effects, in order.  Inputs are what the world
does, such as an answer of the queue or the end of a handler; effects are what the consumer does in
turn, such as a call to the queue.  Everything up to the next time an activity has to wait is one
step.  An input for an activity that does not wait for it changes nothing.

A loop gives messages to free slots for as long as there are any, also while the consumer is
stopping.  At a full gate it waits, or if the consumer is stopping it makes this message and the
ones after it visible again, one by one, whatever the queue answers.

A handler that is done has its message deleted.  One that failed has its message hidden for the time
after which it is to be tried again.  One that panicked leaves its message alone.  The slot is given
back after the answer, whatever it is.

A shutdown looks at its deadline first.  Otherwise it looks from time to time whether no slot is
held and no loop is polling.
-/

namespace MessageQueue.Consumer

/-- What can happen to a consumer. -/
inductive Input where
  /-- A new loop begins. -/
  | serve
  /-- The queue answers a loop that is receiving. -/
  | answer (loop : Nat) (batch : Except QueueError (List ReceivedMessage))
  /-- A loop at the gate looks around. -/
  | resume (loop : Nat)
  /-- The queue answers a loop that is releasing a message. -/
  | released (loop : Nat) (answer : Except QueueError Unit)
  /-- A loop is dropped. -/
  | abandon (loop : Nat)
  /-- A handler begins. -/
  | start (task : Nat)
  /-- A handler ends. -/
  | finish (task : Nat) (outcome : Outcome)
  /-- The queue answers the call that follows a handler. -/
  | followed (task : Nat) (answer : Except QueueError Unit)
  /-- A new shutdown begins. -/
  | shutDown (deadline : Nat)
  /-- A shutdown looks around. -/
  | look (watch : Nat)
  /-- Time passes. -/
  | wait (milliseconds : Nat)

/-- Who makes a call. -/
inductive Caller where
  | loop (index : Nat)
  | task (index : Nat)
deriving DecidableEq, Repr

/-- What a consumer does. -/
inductive Effect where
  /-- A call to the queue is made. -/
  | called (caller : Caller) (call : QueueCall)
  /-- A loop takes notice of an answer. -/
  | answered (loop : Nat) (batch : Except QueueError (List ReceivedMessage))
  /-- A message is given to a new handler, with a slot. -/
  | dispatched (loop task : Nat) (message : ReceivedMessage)
  /-- A loop in line is granted a slot. -/
  | admitted (loop : Nat)
  /-- A handler begins. -/
  | started (task : Nat) (given : Assignment)
  /-- A handler ends. -/
  | handled (task : Nat) (outcome : Outcome)
  /-- A handler gives its slot back. -/
  | freed (task : Nat)
  | entered (phase : Phase)
  /-- A loop returns. -/
  | returned (loop : Nat) (result : Except ConsumerError Stopped)
  /-- No further batches are received. -/
  | stopped
  /-- Handlers are told to give up. -/
  | gaveUp
  /-- A shutdown returns. -/
  | watchEnded (watch : Nat) (ending : Ending)

/-! ## Loops -/

/-- The consumer with a loop in another place. -/
def moved (c : Consumer) (loop : Nat) (place : Place) : Consumer :=
  { c with loops := c.loops.set loop place }

/-- The request for a batch. -/
def request (c : Consumer) : ReceiveRequest :=
  .allAttributes c.settings.queueUrl c.settings.maxMessages c.settings.waitSeconds

/-- A loop returns. -/
def finishLoop (c : Consumer) (loop : Nat) (result : Except ConsumerError Stopped) :
    Consumer × List Effect :=
  ({ c with phase := .closed, polling := false }.moved loop (.returned result),
    [.entered .closed, .returned loop result])

/-- A loop that has nothing left to do returns in good order. -/
def drain (c : Consumer) (loop : Nat) : Consumer × List Effect :=
  let (c, effects) := { c with phase := .draining }.finishLoop loop (.ok .closed)
  (c, .entered .draining :: effects)

/-- A loop that has dealt with its batch asks for the next one, or drains. -/
def nextBatch (c : Consumer) (loop : Nat) : Consumer × List Effect :=
  if c.stopping then c.drain loop
  else (c.moved loop .receiving, [.called (.loop loop) (.receive c.request)])

/-- A loop makes messages visible again, the first of them now. -/
def release (c : Consumer) (loop : Nat) : List ReceivedMessage → Consumer × List Effect
  | [] => c.drain loop
  | m :: rest =>
    (c.moved loop (.releasing rest),
      [.called (.loop loop) (.changeVisibility c.settings.queueUrl m.receiptHandle 0)])

/-- The consumer with one more handler, whose slot has been taken. -/
def dispatch (c : Consumer) (loop : Nat) (message : ReceivedMessage) : Consumer :=
  { c with tasks := c.tasks ++ [⟨loop, message, .handlers, .dispatched⟩] }

/-- A loop deals with the messages that are left of its batch. -/
def feed (loop : Nat) : Consumer → List ReceivedMessage → Consumer × List Effect
  | c, [] => c.nextBatch loop
  | c, m :: rest =>
    match c.gate.take? with
    | some gate =>
      let (after, effects) := feed loop ({ c with gate }.dispatch loop m) rest
      (after, .dispatched loop c.tasks.length m :: effects)
    | none =>
      if c.stopping then c.release loop (m :: rest)
      else ({ c with gate := c.gate.join loop }.moved loop (.waiting m rest), [])

/-- A new loop. -/
def serve (c : Consumer) : Consumer × List Effect :=
  Consumer.nextBatch { c with polling := true, loops := c.loops ++ [.receiving] } c.loops.length

/-- The queue answers a loop. -/
def takeBatch (c : Consumer) (loop : Nat) (batch : Except QueueError (List ReceivedMessage)) :
    Consumer × List Effect :=
  let (after, effects) := match batch with
    | .ok messages => feed loop c messages
    | .error e => c.finishLoop loop (.error (.receive e))
  (after, .answered loop batch :: effects)

/-- Whoever is first in line is granted a slot that is given back. -/
def admission (g : Gate) : List Effect :=
  match g.line with
  | [] => []
  | loop :: _ => [.admitted loop]

/-- What follows when a loop leaves the gate. -/
def departure (g : Gate) (loop : Nat) : List Effect :=
  match g.claim? loop with
  | some g => admission g
  | none => []

/-- A loop at the gate goes on. -/
def resume (c : Consumer) (loop : Nat) (message : ReceivedMessage) (rest : List ReceivedMessage) :
    Consumer × List Effect :=
  if c.stopping then
    let (after, effects) := { c with gate := c.gate.leave loop }.release loop (message :: rest)
    (after, departure c.gate loop ++ effects)
  else match c.gate.claim? loop with
    | some gate =>
      let (after, effects) := feed loop ({ c with gate }.dispatch loop message) rest
      (after, .dispatched loop c.tasks.length message :: effects)
    | none => (c, [])

/-- A loop is dropped.  If it was at the gate it leaves. -/
def abandon (c : Consumer) (loop : Nat) (place : Place) : Consumer × List Effect :=
  match place with
  | .waiting _ _ =>
    ({ c with gate := c.gate.leave loop }.moved loop .abandoned, departure c.gate loop)
  | _ => (c.moved loop .abandoned, [])

/-! ## Handlers -/

/-- The consumer with a handler in another stage. -/
def staged (c : Consumer) (index : Nat) (task : Task) (stage : Stage) : Consumer :=
  { c with tasks := c.tasks.set index { task with stage } }

/-- The call that follows a handler. -/
def followUp (c : Consumer) (message : ReceivedMessage) : Outcome → Option QueueCall
  | .done => some (.delete c.settings.queueUrl message.receiptHandle)
  | .failed =>
    some (.changeVisibility c.settings.queueUrl message.receiptHandle
      c.settings.retryTimeoutSeconds)
  | .panicked => none

/-- A handler gives its slot back. -/
def free (c : Consumer) (index : Nat) (task : Task) (outcome : Outcome) : Consumer × List Effect :=
  ({ c with gate := c.gate.giveBack }.staged index task (.finished outcome),
    .freed index :: admission c.gate)

/-- A handler has ended. -/
def finish (c : Consumer) (index : Nat) (task : Task) (outcome : Outcome) :
    Consumer × List Effect :=
  match c.followUp task.message outcome with
  | some call =>
    (c.staged index task (.following outcome), [.handled index outcome, .called (.task index) call])
  | none =>
    let (after, effects) := c.free index task outcome
    (after, .handled index outcome :: effects)

/-! ## Shutdowns -/

/-- A shutdown returns. -/
def endWatch (c : Consumer) (watch : Nat) (ending : Ending) : Consumer × List Effect :=
  ({ c with watches := c.watches.set watch (.ended ending) }, [.watchEnded watch ending])

/-- A shutdown looks around. -/
def look (c : Consumer) (watch deadline next : Nat) : Consumer × List Effect :=
  if deadline ≤ c.now then
    if c.inFlight = 0 then c.endWatch watch .idle
    else
      let (after, effects) := { c with givingUp := true }.endWatch watch (.overdue c.inFlight)
      (after, .gaveUp :: effects)
  else if next ≤ c.now then
    if c.inFlight = 0 ∧ !c.polling then c.endWatch watch .quiet
    else
      let next := c.now + c.settings.shutdownPoll.milliseconds
      ({ c with watches := c.watches.set watch (.watching deadline next) }, [])
  else (c, [])

/-- A new shutdown, which looks around at once. -/
def shutDown (c : Consumer) (deadline : Nat) : Consumer × List Effect :=
  let begun : Consumer :=
    { c with stopping := true, watches := c.watches ++ [.watching deadline c.now] }
  let (after, effects) := begun.look c.watches.length deadline c.now
  (after, .stopped :: effects)

/-! ## Steps -/

/-- One step. -/
def step (c : Consumer) : Input → Consumer × List Effect
  | .serve => c.serve
  | .answer loop batch =>
    match c.loops[loop]? with
    | some .receiving => c.takeBatch loop batch
    | _ => (c, [])
  | .resume loop =>
    match c.loops[loop]? with
    | some (.waiting message rest) => c.resume loop message rest
    | _ => (c, [])
  | .released loop _ =>
    match c.loops[loop]? with
    | some (.releasing rest) => c.release loop rest
    | _ => (c, [])
  | .abandon loop =>
    match c.loops[loop]? with
    | some place => if place.working then c.abandon loop place else (c, [])
    | none => (c, [])
  | .start index =>
    match c.tasks[index]? with
    | some task =>
      match task.stage with
      | .dispatched => (c.staged index task .handling, [.started index task.assignment])
      | _ => (c, [])
    | none => (c, [])
  | .finish index outcome =>
    match c.tasks[index]? with
    | some task =>
      match task.stage with
      | .handling => c.finish index task outcome
      | _ => (c, [])
    | none => (c, [])
  | .followed index _ =>
    match c.tasks[index]? with
    | some task =>
      match task.stage with
      | .following outcome => c.free index task outcome
      | _ => (c, [])
    | none => (c, [])
  | .shutDown deadline => c.shutDown deadline
  | .look watch =>
    match c.watches[watch]? with
    | some (.watching deadline next) => c.look watch deadline next
    | _ => (c, [])
  | .wait milliseconds => ({ c with now := c.now + milliseconds }, [])

/-- The steps for inputs one after another, with all effects in order. -/
def run (c : Consumer) : List Input → Consumer × List Effect
  | [] => (c, [])
  | input :: inputs =>
    let (next, effects) := c.step input
    let (last, more) := next.run inputs
    (last, effects ++ more)

end MessageQueue.Consumer
