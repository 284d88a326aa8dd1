import MessageQueue.Error
import MessageQueue.Retry.Policy

/-!
# Failed exchanges

One exchange with the queue service fails without an answer, with an answer that reports an error,
or with an answer that should report success but cannot be read.  A retry policy sees the status and
the code of a failure; what is reported in the end is a queue error, chosen by the code where it is
known and else by the status.
-/

namespace MessageQueue

/-- Why one exchange failed. -/
inductive ExchangeFailure where
  /-- There was no answer. -/
  | network (message : String)
  /-- The answer reports an error. -/
  | response (status : UInt16) (code message : String)
  /-- The answer reports success but cannot be read. -/
  | malformed (message : String)
deriving DecidableEq, Repr

namespace ExchangeFailure

def message : ExchangeFailure → String
  | network m => "Network error: " ++ m
  | response status code m => code ++ ": " ++ m ++ " (status " ++ shown status ++ ")"
  | malformed m => "Malformed response: " ++ m

/-- What a retry policy is told.  An answer that cannot be read counts as a success that is not
worth repeating. -/
def failedAttempt (attempt : UInt32) : ExchangeFailure → FailedAttempt
  | network _ => ⟨attempt, none, none⟩
  | response status code _ => ⟨attempt, some status, some code⟩
  | malformed _ => ⟨attempt, some 200, none⟩

/-- The codes for a queue that does not exist. -/
def missingQueueCodes : List String :=
  ["AWS.SimpleQueueService.NonExistentQueue", "QueueDoesNotExist"]

/-- The codes for a receipt that is unknown or has run out. -/
def badReceiptCodes : List String := ["ReceiptHandleIsInvalid", "InvalidReceiptHandle"]

/-- The codes for credentials that are refused. -/
def badCredentialCodes : List String :=
  ["InvalidClientTokenId", "UnrecognizedClientException", "SignatureDoesNotMatch", "AccessDenied",
    "AccessDeniedException", "ExpiredToken"]

/-- What is reported of a failure. -/
def toQueueError : ExchangeFailure → QueueError
  | network m => .connectionFailed m
  | malformed m => .serialization (.malformedResponse m)
  | response status code m =>
    if code ∈ missingQueueCodes then .queueNotFound m
    else if code ∈ badReceiptCodes then .messageNotFound m
    else if code ∈ badCredentialCodes ∨ status = 401 ∨ status = 403 then
      .authenticationFailed (code ++ ": " ++ m)
    else .providerError (some status) code m

end ExchangeFailure
end MessageQueue
