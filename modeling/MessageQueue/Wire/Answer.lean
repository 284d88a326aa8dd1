import MessageQueue.Markup.Node
import MessageQueue.Message
import MessageQueue.Wire.Failure

/-!
# Reading answers

The answers of the queue service are documents whose texts are told apart by the innermost elements
they stand in.  An answer that reports an error is read as far as it can be; the last code and the
last message in it count.  An answer that hands out messages is read as a whole or not at all.

A message is collected in a draft from its begin to its end.  An attribute has a name and then a
value; the name that was read last is kept until the attribute ends.
-/

namespace MessageQueue.Answer

open MessageQueue.Markup

/-! ## Places in a document -/

/-- Names from the outermost to the innermost, as a path has them. -/
def place (names : List String) : List (List Char) := names.reverse.map String.toList

/-- Where the code of an error stands. -/
def errorCode : List (List Char) := place ["Error", "Code"]

/-- Where the message of an error stands. -/
def errorMessage : List (List Char) := place ["Error", "Message"]

/-- Where the identifier of a message that was sent stands. -/
def sentId : List (List Char) := place ["SendMessageResult", "MessageId"]

/-- A message that is handed out. -/
def messageElement : List (List Char) := place ["ReceiveMessageResult", "Message"]

/-- Where the parts of a message stand. -/
def idText : List (List Char) := place ["Message", "MessageId"]
def handleText : List (List Char) := place ["Message", "ReceiptHandle"]
def bodyText : List (List Char) := place ["Message", "Body"]

/-- Where the names and values of attributes stand. -/
def senderAttribute : List (List Char) := place ["MessageAttribute"]
def senderName : List (List Char) := place ["MessageAttribute", "Name"]
def senderValue : List (List Char) := place ["MessageAttribute", "Value", "StringValue"]
def queueAttribute : List (List Char) := place ["Attribute"]
def queueName : List (List Char) := place ["Attribute", "Name"]
def queueValue : List (List Char) := place ["Attribute", "Value"]

/-- The last text at a place. -/
def lastText (names : List (List Char)) (nodes : List Node) : Option String :=
  nodes.foldl (fun found node =>
    match node with
    | .text path content => if endsWith names path then some (String.ofList content) else found
    | _ => found) none

/-! ## Errors -/

/-- The failure that an answer with a status reports. -/
def failure (status : UInt16) (document : String) : ExchangeFailure :=
  let (nodes, _) := nodes document
  .response status ((lastText errorCode nodes).getD "Unknown")
    ((lastText errorMessage nodes).getD "Unknown error")

/-! ## Messages that were sent -/

/-- The identifier of the message that was sent. -/
def sent (document : String) : Except ExchangeFailure MessageId :=
  match nodes document with
  | (_, some fault) => .error (.malformed fault.message)
  | (nodes, none) =>
    match lastText sentId nodes with
    | none => .error (.malformed "MessageId not found in response")
    | some id =>
      match MessageId.parse id with
      | .ok id => .ok id
      | .error e => .error (.malformed ("Invalid MessageId: " ++ e.message))

/-! ## Messages that are handed out -/

/-- The parts of a message that have been read. -/
structure Draft where
  messageId : Option String
  receiptHandle : Option String
  /-- The texts of the body, last first. -/
  body : List (List Char)
  /-- The name of the attribute that is open. -/
  name : Option String
  /-- The attributes of the sender, last first. -/
  messageAttributes : List (String × String)
  /-- The attributes that the queue notes, last first. -/
  systemAttributes : List (String × String)
deriving DecidableEq, Repr

namespace Draft

/-- Nothing has been read. -/
def empty : Draft := ⟨none, none, [], none, [], []⟩

/-- Takes a text that stands inside a path. -/
def take (d : Draft) (path : Path) (content : List Char) : Draft :=
  let text := String.ofList content
  if endsWith idText path then { d with messageId := some text }
  else if endsWith handleText path then { d with receiptHandle := some text }
  else if endsWith bodyText path then { d with body := content :: d.body }
  else if endsWith senderName path ∨ endsWith queueName path then { d with name := some text }
  else if endsWith senderValue path then
    match d.name with
    | some name => { d with messageAttributes := (name, text) :: d.messageAttributes }
    | none => d
  else if endsWith queueValue path then
    match d.name with
    | some name => { d with systemAttributes := (name, text) :: d.systemAttributes }
    | none => d
  else d

/-- The message, once it has ended.  It has a receipt handle; an empty identifier counts as none. -/
def toMessage (d : Draft) : Except ExchangeFailure ReceivedMessage :=
  match d.receiptHandle with
  | none => .error (.malformed "Message without ReceiptHandle")
  | some text =>
    match ReceiptHandle.parse text with
    | .error e => .error (.malformed ("Invalid ReceiptHandle: " ++ e.message))
    | .ok receiptHandle =>
      .ok {
        messageId := d.messageId.bind fun id => (MessageId.parse id).toOption
        receiptHandle
        body := Utf8.encode (String.ofList d.body.reverse.flatten)
        messageAttributes := .ofList d.messageAttributes.reverse
        systemAttributes := .ofList d.systemAttributes.reverse }

end Draft

/-- What has been read of an answer: the message that is open, and those that have ended, last
first. -/
structure Inbox where
  draft : Option Draft
  done : List ReceivedMessage
deriving DecidableEq

namespace Inbox

/-- Takes one node. -/
def step (i : Inbox) : Node → Except ExchangeFailure Inbox
  | .opened path =>
    .ok (if endsWith messageElement path then { i with draft := some .empty } else i)
  | .text path content => .ok { i with draft := i.draft.map fun d => d.take path content }
  | .closed path =>
    if endsWith messageElement path then
      match i.draft with
      | none => .ok i
      | some d =>
        match d.toMessage with
        | .ok message => .ok ⟨none, message :: i.done⟩
        | .error e => .error e
    else if endsWith senderAttribute path ∨ endsWith queueAttribute path then
      .ok { i with draft := i.draft.map fun d => { d with name := none } }
    else .ok i

/-- Takes nodes up to the first message that is not complete. -/
def run (i : Inbox) : List Node → Except ExchangeFailure Inbox
  | [] => .ok i
  | node :: rest =>
    match i.step node with
    | .ok next => run next rest
    | .error e => .error e

end Inbox

/-- The messages that an answer hands out. -/
def received (document : String) : Except ExchangeFailure (List ReceivedMessage) :=
  let (nodes, fault) := nodes document
  match Inbox.run ⟨none, []⟩ nodes with
  | .error e => .error e
  | .ok inbox =>
    match fault with
    | some fault => .error (.malformed fault.message)
    | none => .ok inbox.done.reverse

end MessageQueue.Answer
