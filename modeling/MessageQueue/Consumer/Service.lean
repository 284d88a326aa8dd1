import MessageQueue.Consumer.Step

/-!
# A consumer at work on a queue service

The effects of a consumer are carried out one after another, and what comes back is its next input.
What follows from an input comes before anything else, so one handler works at a time.  A batch is
asked for when there is nothing else to do.  Before each batch one can interrupt the consumer, which
begins a shutdown.  The number of inputs is bounded by an argument.
-/

namespace MessageQueue.Consumer

variable {m : Type → Type} [Monad m]

/-- What a consumer needs of the world. -/
structure Surroundings (m : Type → Type) where
  queue : QueueService m
  handler : Assignment → m Outcome
  /-- Whether somebody wants the consumer to stop. -/
  interrupted : m Bool
  /-- How long a shutdown may take, in milliseconds. -/
  allowed : Nat

/-- The inputs that come back when an effect is carried out. -/
def Surroundings.carryOut (s : Surroundings m) (c : Consumer) : Effect → m (List Input)
  | .called (.loop loop) (.receive request) => do
    let stop := (← s.interrupted) && !c.stopping
    let batch ← s.queue.receive request
    pure
      (if stop then [.shutDown (c.now + s.allowed), .answer loop batch] else [.answer loop batch])
  | .called (.loop loop) (.changeVisibility queueUrl receipt seconds) => do
    pure [.released loop (← s.queue.changeVisibility queueUrl receipt seconds)]
  | .called (.task task) (.changeVisibility queueUrl receipt seconds) => do
    pure [.followed task (← s.queue.changeVisibility queueUrl receipt seconds)]
  | .called (.task task) (.delete queueUrl receipt) => do
    pure [.followed task (← s.queue.delete queueUrl receipt)]
  | .dispatched _ task _ => pure [.start task]
  | .started task given => do pure [.finish task (← s.handler given)]
  | .admitted loop => pure [.resume loop]
  | _ => pure []

/-- Whether an effect is a call for a batch. -/
def Effect.isPoll : Effect → Bool
  | .called _ (.receive _) => true
  | _ => false

/-- What is to be done next. -/
inductive Chore where
  | take (input : Input)
  | carryOut (effect : Effect)

/-- The consumer after its chores, and after all that follows from them.  Calls for a batch come
last. -/
def attend (s : Surroundings m) : Nat → Consumer → List Chore → m Consumer
  | 0, c, _ => pure c
  | _, c, [] => pure c
  | steps + 1, c, .take input :: rest =>
    let (c, effects) := c.step input
    let (polls, others) := effects.partition Effect.isPoll
    attend s steps c (others.map .carryOut ++ rest ++ polls.map .carryOut)
  | steps + 1, c, .carryOut effect :: rest => do
    let inputs ← s.carryOut c effect
    attend s steps c (inputs.map .take ++ rest)

/-- What the first loop and the first shutdown come to.  A shutdown that is still watching when all
is done looks once more. -/
def result (c : Consumer) : Option (Except ConsumerError Stopped) :=
  match c.watches with
  | .ended ending :: _ => some ending.result
  | .watching deadline next :: _ =>
    match ((c.step (.wait (min deadline next - c.now))).1.step (.look 0)).1.watches with
    | .ended ending :: _ => some ending.result
    | _ => none
  | [] =>
    match c.loops with
    | .returned result :: _ => some result
    | _ => none

/-- Serves until the loop returns, or for so many steps.  Absent if the loop has not returned by
then. -/
def consume (s : Surroundings m) (c : Consumer) (steps : Nat) :
    m (Option (Except ConsumerError Stopped)) := do
  return (← attend s steps c [.take .serve]).result

end MessageQueue.Consumer
