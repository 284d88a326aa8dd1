import MessageQueue.Error
import MessageQueue.Url.Reader

/-!
# Queues, messages and receipts by name

A queue is named by the URL under which it is reached, a message by the identifier the queue gave
it, and the handing out of a message by a receipt handle.  A queue URL keeps the text it was read
from; the type holds the fact that this text is an absolute URL of the two schemes in use.  A
receipt handle is not empty.  A message identifier read from an answer is not empty either, but one
stored earlier is taken back as it is.
-/

namespace MessageQueue

/-! ## Queue URLs -/

namespace QueueUrl

/-- Why a text does not name a queue, if it does not. -/
def fault? (text : String) : Option ValidationError :=
  if text = "" then some (.required "queue_url")
  else match Url.parse text with
    | .error e => some (.invalidFormat "queue_url" e.message)
    | .ok url =>
      if url.scheme = "http".toList ∨ url.scheme = "https".toList then none
      else
        some (.invalidFormat "queue_url"
          ("unsupported scheme '" ++ String.ofList url.scheme ++ "'"))

end QueueUrl

/-- The address of a queue. -/
structure QueueUrl where
  /-- The address as it was given. -/
  text : String
  /-- It is an absolute URL that is reached over HTTP. -/
  sound : QueueUrl.fault? text = none
deriving DecidableEq

namespace QueueUrl

/-- The queue that a text names. -/
def parse (text : String) : Except ValidationError QueueUrl :=
  match h : fault? text with
  | none => .ok ⟨text, h⟩
  | some e => .error e

instance : Shown QueueUrl := ⟨fun u => Shown.applied "QueueUrl" (shown u.text)⟩

/-- A text is read exactly if nothing is wrong with it, and then kept. -/
theorem parse_eq_ok_iff (text : String) (u : QueueUrl) : parse text = .ok u ↔ u.text = text := by
  unfold parse
  constructor
  · intro h
    split at h
    · cases h; rfl
    · cases h
  · intro h
    obtain ⟨t, sound⟩ := u
    subst h
    split
    · rfl
    · rename_i e he
      rw [sound] at he
      cases he

end QueueUrl

/-! ## Message identifiers -/

/-- The name that the queue gave a message. -/
structure MessageId where
  text : String
deriving DecidableEq, Repr

namespace MessageId

/-- The identifier that a text spells; an empty text spells none. -/
def parse (text : String) : Except ValidationError MessageId :=
  if text = "" then .error (.required "message_id") else .ok ⟨text⟩

end MessageId

/-! ## Receipt handles -/

/-- The token by which a received message is deleted or made visible again. -/
structure ReceiptHandle where
  text : String
  nonempty : text ≠ ""
deriving DecidableEq

namespace ReceiptHandle

/-- The handle that a text spells; an empty text spells none. -/
def parse (text : String) : Except ValidationError ReceiptHandle :=
  if h : text = "" then .error (.required "receipt_handle") else .ok ⟨text, h⟩

end ReceiptHandle
end MessageQueue
