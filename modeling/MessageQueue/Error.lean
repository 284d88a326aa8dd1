import MessageQueue.Text.Shown

/-!
# What can go wrong

Each part of the library has a type of errors whose constructors are the causes.  An error that
wraps another says so in its message and lists what it wraps in `causes`, outermost first.  A queue
error is transient when the same request may succeed later: the connection failed, or the queue
answered that it is overloaded or broken, or it gave no answer at all.
-/

namespace MessageQueue

open Shown

/-! ## Encoding and decoding -/

/-- Something could not be encoded or decoded. -/
inductive SerializationError where
  /-- A body is not UTF-8. -/
  | invalidUtf8
  /-- An answer could not be read. -/
  | malformedResponse (message : String)
deriving DecidableEq, Repr

namespace SerializationError

def message : SerializationError → String
  | invalidUtf8 => "Message body is not valid UTF-8"
  | malformedResponse m => "Malformed response: " ++ m

instance : Shown SerializationError where
  shown
    | invalidUtf8 => "InvalidUtf8"
    | malformedResponse m => record "MalformedResponse" [("message", shown m)]

end SerializationError

/-! ## Settings -/

/-- Settings cannot be used. -/
inductive ConfigurationError where
  /-- A value is out of range, or does not fit another. -/
  | invalid (message : String)
  /-- Something that is needed was not given. -/
  | missing (key : String)
  /-- A source of settings could not be read. -/
  | parsing (message : String)
deriving DecidableEq, Repr

namespace ConfigurationError

def message : ConfigurationError → String
  | invalid m => "Invalid configuration: " ++ m
  | missing k => "Missing required configuration: " ++ k
  | parsing m => "Configuration parsing failed: " ++ m

instance : Shown ConfigurationError where
  shown
    | invalid m => record "Invalid" [("message", shown m)]
    | missing k => record "Missing" [("key", shown k)]
    | parsing m => record "Parsing" [("message", shown m)]

end ConfigurationError

/-! ## Values -/

/-- A text is no value of the type that is asked for. -/
inductive ValidationError where
  /-- Nothing was given. -/
  | required (field : String)
  /-- What was given does not have the form. -/
  | invalidFormat (field message : String)
deriving DecidableEq, Repr

namespace ValidationError

def message : ValidationError → String
  | required f => "Required field missing: " ++ f
  | invalidFormat f m => "Invalid format for " ++ f ++ ": " ++ m

instance : Shown ValidationError where
  shown
    | required f => record "Required" [("field", shown f)]
    | invalidFormat f m => record "InvalidFormat" [("field", shown f), ("message", shown m)]

end ValidationError

/-! ## Queues -/

/-- A request to a queue failed. -/
inductive QueueError where
  | queueNotFound (message : String)
  /-- The receipt is unknown or has run out. -/
  | messageNotFound (receipt : String)
  | authenticationFailed (message : String)
  | connectionFailed (message : String)
  | messageTooLarge (size maxSize : Nat)
  /-- Any other refusal, with the status of the answer if there was one. -/
  | providerError (status : Option UInt16) (code message : String)
  | serialization (cause : SerializationError)
  | configuration (cause : ConfigurationError)
  | validation (cause : ValidationError)
deriving DecidableEq, Repr

namespace QueueError

def message : QueueError → String
  | queueNotFound m => "Queue not found: " ++ m
  | messageNotFound r => "Message not found or receipt expired: " ++ r
  | authenticationFailed m => "Authentication failed: " ++ m
  | connectionFailed m => "Connection failed: " ++ m
  | messageTooLarge size maxSize =>
    "Message too large: " ++ size.repr ++ " bytes (max: " ++ maxSize.repr ++ ")"
  | providerError status code m => "Provider error (" ++ shown status ++ "): " ++ code ++ " - " ++ m
  | serialization e => "Serialization failed: " ++ e.message
  | configuration e => "Configuration error: " ++ e.message
  | validation e => "Validation error: " ++ e.message

/-- The messages of the errors that this one wraps. -/
def causes : QueueError → List String
  | serialization e => [e.message]
  | configuration e => [e.message]
  | validation e => [e.message]
  | _ => []

/-- Whether the same request may succeed later. -/
def isTransient : QueueError → Bool
  | connectionFailed _ => true
  | providerError none _ _ => true
  | providerError (some status) _ _ => status = 429 || 500 ≤ status
  | _ => false

instance : Shown QueueError where
  shown
    | queueNotFound m => record "QueueNotFound" [("message", shown m)]
    | messageNotFound r => record "MessageNotFound" [("receipt", shown r)]
    | authenticationFailed m => record "AuthenticationFailed" [("message", shown m)]
    | connectionFailed m => record "ConnectionFailed" [("message", shown m)]
    | messageTooLarge size maxSize =>
      record "MessageTooLarge" [("size", shown size), ("max_size", shown maxSize)]
    | providerError status code m =>
      record "ProviderError" [("status", shown status), ("code", shown code), ("message", shown m)]
    | serialization e => applied "SerializationError" (shown e)
    | configuration e => applied "ConfigurationError" (shown e)
    | validation e => applied "ValidationError" (shown e)

end QueueError

/-! ## Consuming -/

/-- A consumer's loop or its shutdown ended badly. -/
inductive ConsumerError where
  /-- A batch could not be received. -/
  | receive (cause : QueueError)
  /-- Handlers were still running at the deadline of a shutdown. -/
  | deadlineExceeded (inFlight : Nat)
deriving DecidableEq, Repr

namespace ConsumerError

def message : ConsumerError → String
  | receive e => "Could not read from queue: " ++ e.message
  | deadlineExceeded n =>
    "Shutdown deadline exceeded with " ++ n.repr ++ " handler(s) still running"

/-- The messages of the errors that this one wraps. -/
def causes : ConsumerError → List String
  | receive e => e.message :: e.causes
  | deadlineExceeded _ => []

instance : Shown ConsumerError where
  shown
    | receive e => applied "Receive" (shown e)
    | deadlineExceeded n => record "DeadlineExceeded" [("in_flight", shown n)]

end ConsumerError

/-- The answer of a consumer's loop that was stopped and has drained. -/
inductive Stopped where
  | closed
deriving DecidableEq, Repr

def Stopped.message : Stopped → String
  | closed => "server closed"

instance : Shown Stopped := ⟨fun _ => "ServerClosed"⟩

/-! ## Writing -/

/-- A writer could not do what it was asked to. -/
inductive WriterError where
  /-- The writer has been closed before. -/
  | closed
  /-- The message could not be sent. -/
  | send (cause : QueueError)
  /-- The body is no text. -/
  | serialization (cause : SerializationError)
deriving DecidableEq, Repr

namespace WriterError

def message : WriterError → String
  | closed => "MessageWriter is closed"
  | send e => "Failed to publish message: " ++ e.message
  | serialization e => "Failed to encode message: " ++ e.message

/-- The messages of the errors that this one wraps. -/
def causes : WriterError → List String
  | closed => []
  | send e => e.message :: e.causes
  | serialization e => [e.message]

instance : Shown WriterError where
  shown
    | closed => "Closed"
    | send e => applied "Send" (shown e)
    | serialization e => applied "Serialization" (shown e)

end WriterError

/-! ## Commands -/

/-- A command failed. -/
inductive CommandError where
  | configuration (cause : ConfigurationError)
  | queue (cause : QueueError)
  | consumer (cause : ConsumerError)
  | writer (cause : WriterError)
  /-- An argument has a value that cannot be used. -/
  | invalidArgument (name message : String)
  | failed (message : String)
  /-- Reading or writing a stream failed. -/
  | stream (message : String)
deriving DecidableEq, Repr

namespace CommandError

def message : CommandError → String
  | configuration e => "Configuration error: " ++ e.message
  | queue e => "Queue error: " ++ e.message
  | consumer e => "Consumer error: " ++ e.message
  | writer e => "Publish error: " ++ e.message
  | invalidArgument a m => "Invalid argument: " ++ a ++ " - " ++ m
  | failed m => "Command failed: " ++ m
  | stream m => "IO error: " ++ m

/-- The messages of the errors that this one wraps. -/
def causes : CommandError → List String
  | configuration e => [e.message]
  | queue e => e.message :: e.causes
  | consumer e => e.message :: e.causes
  | writer e => e.message :: e.causes
  | _ => []

/-- The exit code that tells the kinds of failure apart. -/
def exitCode : CommandError → UInt8
  | configuration _ => 1
  | queue _ => 2
  | consumer _ => 3
  | writer _ => 4
  | invalidArgument _ _ => 5
  | failed _ => 6
  | stream _ => 7

instance : Shown CommandError where
  shown
    | configuration e => applied "Configuration" (shown e)
    | queue e => applied "Queue" (shown e)
    | consumer e => applied "Server" (shown e)
    | writer e => applied "Writer" (shown e)
    | invalidArgument a m => record "InvalidArgument" [("arg", shown a), ("message", shown m)]
    | failed m => record "CommandFailed" [("message", shown m)]
    | stream m => applied "Io" (shown m)

end CommandError
end MessageQueue
