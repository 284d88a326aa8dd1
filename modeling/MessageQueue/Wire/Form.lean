import MessageQueue.Message
import MessageQueue.Text.Fields
import MessageQueue.Text.Percent

/-!
# Requests as forms

A request to the queue service is a form: named parameters, written as `name=value` with both sides
percent encoded, in order of the written pairs, with ampersands between them.  Besides its own
parameters a form names the action and the version of the service.  A list becomes parameters
numbered from one.
-/

namespace MessageQueue

/-- The parameters of a request by name. -/
abbrev Form := Table String

namespace Form

/-- One parameter as it is written. -/
def pairText (name value : String) : String := Percent.encode name ++ "=" ++ Percent.encode value

/-- The form as it is sent. -/
def text (form : Form) : String :=
  String.intercalate "&"
    ((form.entries.map fun (name, value) => pairText name value).mergeSort (· ≤ ·))

/-- One written parameter, decoded. -/
def pairOf? (pair : List Char) : Option (String × String) :=
  match Text.cut? '=' pair with
  | some (name, value) =>
    match Percent.decode? (String.ofList name), Percent.decode? (String.ofList value) with
    | some n, some v => some (n, v)
    | _, _ => none
  | none => none

/-- The parameters of a form that was sent, in the order in which they are written. -/
def read? (text : String) : Option (List (String × String)) :=
  if text = "" then some [] else (Text.fields '&' text.toList).mapM pairOf?

/-- The version of the service that is spoken to. -/
def version : String := "2012-11-05"

/-- The form with the action that it asks for. -/
def forAction (action : String) (form : Form) : Form :=
  (form.insert "Action" action).insert "Version" version

/-- A list as parameters numbered from `index` on. -/
def numbered {α : Type} (parameters : Nat → α → List (String × String)) :
    Nat → List α → List (String × String)
  | _, [] => []
  | index, item :: rest => parameters index item ++ numbered parameters (index + 1) rest

end Form

/-! ## The four requests -/

namespace Form

/-- Asks for messages. -/
def receive (r : ReceiveRequest) : Form :=
  .ofList ([
    ("QueueUrl", r.queueUrl.text),
    ("MaxNumberOfMessages", shown r.maxMessages),
    ("WaitTimeSeconds", shown r.waitSeconds),
    ("AttributeName.1", "All")] ++
    numbered (fun i name => [("MessageAttributeName." ++ i.repr, name)]) 1 r.attributeNames)

/-- Hides a message for some time more, or shows it again. -/
def changeVisibility (queueUrl : QueueUrl) (receipt : ReceiptHandle) (seconds : UInt32) : Form :=
  .ofList
    [("QueueUrl", queueUrl.text), ("ReceiptHandle", receipt.text),
      ("VisibilityTimeout", shown seconds)]

/-- Deletes a message. -/
def delete (queueUrl : QueueUrl) (receipt : ReceiptHandle) : Form :=
  .ofList [("QueueUrl", queueUrl.text), ("ReceiptHandle", receipt.text)]

/-- The parameters of one attribute. -/
def attributeParameters (index : Nat) (entry : String × AttributeValue) : List (String × String) :=
  let start := "MessageAttribute." ++ index.repr
  [(start ++ ".Name", entry.1), (start ++ ".Value.DataType", entry.2.dataType),
    (start ++ ".Value.StringValue", entry.2.text)]

/-- Sends a message. -/
def send (r : SendRequest) : Form :=
  .ofList ([
    ("QueueUrl", r.queueUrl.text),
    ("MessageBody", r.body),
    ("DelaySeconds", shown r.delaySeconds)] ++ numbered attributeParameters 1 r.attributes.entries)

end Form

/-- The octets of a message that count towards the limit: its body, and names, types and values of
its attributes. -/
def SendRequest.size (r : SendRequest) : Nat :=
  r.body.utf8ByteSize +
    (r.attributes.entries.map fun (name, value) =>
      name.utf8ByteSize + value.dataType.utf8ByteSize + value.text.utf8ByteSize).foldr (· + ·) 0

end MessageQueue
