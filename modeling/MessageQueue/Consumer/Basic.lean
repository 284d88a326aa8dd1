import MessageQueue.Client.Basic
import MessageQueue.Consumer.Gate
import MessageQueue.Settings.Consumer

/-!
# Consumers

A consumer receives batches from its queue and hands each message to a handler of its own.  Three
kinds of activity share it, any number of each: loops that receive and dispatch, handlers that work
on one message, and shutdowns that watch until the work is done.  Each is known by its number, in
order of arrival, and keeps its place after it has ended.

Two flags that are never taken back govern the work.  `stopping` is set by the first shutdown and
keeps loops from receiving more.  `givingUp` is set when a shutdown runs out of time, and tells
handlers to give up.  Each flag is the end of a lifetime.  A handler does not see the consumer: it
is given a lifetime together with its message (`Assignment`), and by this it can see whether it is
to give up.

`polling` is one flag for all loops: a loop sets it when it begins and clears it when it returns.
So it says whether a loop is at work as long as loops neither overlap nor are abandoned.
-/

namespace MessageQueue

namespace Consumer

/-- How a handler ended. -/
inductive Outcome where
  | done
  | failed
  /-- It ended without saying how. -/
  | panicked
deriving DecidableEq, Repr

/-- How far a handler is. -/
inductive Stage where
  /-- It has not begun. -/
  | dispatched
  | handling
  /-- It has ended, and the call that follows has not been answered. -/
  | following (outcome : Outcome)
  /-- Its slot has been given back. -/
  | finished (outcome : Outcome)
deriving DecidableEq, Repr

/-- Something that ends once and for all while a consumer exists. -/
inductive Lifetime where
  /-- That of the loops, which is over when the consumer is stopping. -/
  | loops
  /-- That of the handlers, which is over when they are told to give up. -/
  | handlers
deriving DecidableEq, Repr

/-- A handler at work on a message. -/
structure Task where
  /-- The loop that dispatched it. -/
  loop : Nat
  message : ReceivedMessage
  /-- By which it can see whether it is to give up. -/
  lifetime : Lifetime
  stage : Stage
deriving DecidableEq

/-- What a handler is called with. -/
structure Assignment extends Message where
  lifetime : Lifetime

def Task.assignment (t : Task) : Assignment := ⟨t.message.toMessage, t.lifetime⟩

@[simp] theorem Task.assignment_staged (t : Task) (stage : Stage) :
    Task.assignment { t with stage } = t.assignment := rfl

/-- Whether a handler still holds its slot. -/
def Task.unfinished (t : Task) : Bool :=
  match t.stage with
  | .finished _ => false
  | _ => true

/-- Where a loop is. -/
inductive Place where
  /-- A batch has been asked for. -/
  | receiving
  /-- There is no slot for a message, the first of those that are left. -/
  | waiting (message : ReceivedMessage) (rest : List ReceivedMessage)
  /-- A message is being made visible again, and the rest will be. -/
  | releasing (rest : List ReceivedMessage)
  | returned (result : Except ConsumerError Stopped)
  /-- It was dropped before it returned. -/
  | abandoned

/-- Whether a loop is at work. -/
def Place.working : Place → Bool
  | .returned _ | .abandoned => false
  | _ => true

/-- How a shutdown ended. -/
inductive Ending where
  /-- At a look no loop was polling and no slot was held. -/
  | quiet
  /-- At the deadline no slot was held. -/
  | idle
  /-- At the deadline slots were held. -/
  | overdue (inFlight : Nat)
deriving DecidableEq, Repr

/-- What the caller of a shutdown is told. -/
def Ending.result : Ending → Except ConsumerError Stopped
  | .quiet | .idle => .ok .closed
  | .overdue n => .error (.deadlineExceeded n)

/-- Where a shutdown is. -/
inductive Watch where
  /-- It looks next at a time, and has a deadline. -/
  | watching (deadline next : Nat)
  | ended (ending : Ending)
deriving DecidableEq, Repr

/-- The life of a consumer, as it is shown. -/
inductive Phase where
  | running
  | draining
  | closed
deriving DecidableEq, Repr

def Phase.text : Phase → String
  | .running => "Running"
  | .draining => "Draining"
  | .closed => "Closed"

instance : Shown Phase := ⟨Phase.text⟩

end Consumer

/-- A consumer at a moment.  Times are in milliseconds. -/
structure Consumer where
  settings : ConsumerSettings
  now : Nat
  gate : Gate
  /-- No further batches are received. -/
  stopping : Bool
  /-- Handlers are told to give up. -/
  givingUp : Bool
  polling : Bool
  phase : Consumer.Phase
  loops : List Consumer.Place
  tasks : List Consumer.Task
  watches : List Consumer.Watch

namespace Consumer

/-- How many slots a consumer is given: at least one, and no more than a gate can have. -/
def slots (requested : UInt64) : Nat :=
  if requested < 1 then 1 else if maxConcurrency < requested then maxConcurrency.toNat
    else requested.toNat

/-- A consumer to which nothing has happened. -/
def ofSettings (settings : ConsumerSettings) : Consumer where
  settings
  now := 0
  gate := .ofCapacity (slots settings.maxConcurrency)
  stopping := false
  givingUp := false
  polling := false
  phase := .running
  loops := []
  tasks := []
  watches := []

/-- A consumer with the client through which it reaches its queue.  Both settings are checked first,
those of the consumer before those of the connection. -/
def connect (connection : ConnectionSettings) (settings : ConsumerSettings) :
    Except QueueError (Client × Consumer) :=
  match settings.fault? with
  | some e => .error (.configuration e)
  | none =>
    match Client.connect connection with
    | .error e => .error e
    | .ok client =>
      .ok (client.withPolicy settings.credentialRetry.policy.policy, ofSettings settings)

/-- The most handlers at once. -/
def maxConcurrency (c : Consumer) : Nat := c.gate.capacity

/-- The slots that are held. -/
def inFlight (c : Consumer) : Nat := c.gate.taken

/-- Whether a lifetime is over. -/
def cancelled (c : Consumer) : Lifetime → Bool
  | .loops => c.stopping
  | .handlers => c.givingUp

/-- The handlers that have begun and not ended. -/
def running (c : Consumer) : Nat := c.tasks.countP fun t => t.stage = .handling

instance : Shown Consumer where
  shown c := Shown.record "Server" [
    ("queue_url", shown c.settings.queueUrl),
    ("max_concurrency", shown c.maxConcurrency),
    ("in_flight", shown c.inFlight),
    ("state", shown c.phase)]

end Consumer
end MessageQueue
