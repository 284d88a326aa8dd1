import MessageQueue.Message

/-!
# Queues

What one can ask of a queue service, whatever stands behind it.  The type of computations is a
parameter: writers and consumers are written against this interface and run over a network, or in a
trace.  What a consumer asks for is also a value, so that one can say which calls it makes.
-/

namespace MessageQueue

/-- A queue service. -/
structure QueueService (m : Type → Type) where
  /-- Asks for messages. -/
  receive : ReceiveRequest → m (Except QueueError (List ReceivedMessage))
  /-- Hides a received message for so many seconds more. -/
  changeVisibility : QueueUrl → ReceiptHandle → UInt32 → m (Except QueueError Unit)
  /-- Deletes a received message. -/
  delete : QueueUrl → ReceiptHandle → m (Except QueueError Unit)
  /-- Sends a message. -/
  send : SendRequest → m (Except QueueError MessageId)

/-- A call that a consumer makes. -/
inductive QueueCall where
  | receive (request : ReceiveRequest)
  | changeVisibility (queueUrl : QueueUrl) (receipt : ReceiptHandle) (seconds : UInt32)
  | delete (queueUrl : QueueUrl) (receipt : ReceiptHandle)
deriving DecidableEq

end MessageQueue
