import MessageQueue.Proofs.Answer.Inbox
import MessageQueue.Proofs.Table

/-!
# Messages are read back from an answer

An answer shows messages in elements: the parts of a message in any order, a name in front of its
value, and among them anything that is not looked at (`Renders`).  While such an answer is read, the
draft of a message holds what the parts so far say (`Collected`), whatever their order, and each
part is read to its end before the next one begins, so that no name is left over.  A draft that has
collected the parts of a message is this message (`Collected.toMessage_eq`), so that the messages
are read back.

Two kinds of documents that show messages are not read back: those with a number in a reference that
has more zeros in front than the reader takes, and those with parts of a message hidden in an
element that is not looked at.
-/

namespace MessageQueue.Answer

open MessageQueue.Markup

/-! ## What elements show -/

/-- A part of a message. -/
inductive Part where
  | id (text : String)
  | handle (text : String)
  | body (text : String)
  /-- An attribute of the sender, by name and value. -/
  | sender (entry : String × String)
  /-- An attribute that the queue notes, by name and value. -/
  | queue (entry : String × String)

/-- The text in an element in which nothing else stands. -/
def textIn? (child : Child) : Option String :=
  match child.inside with
  | none => some ""
  | some (.text s) => some (String.ofList s.content)
  | some _ => none

/-- The element has a name and a text. -/
def Says (child : Child) (name text : String) : Prop :=
  child.name = name.toList ∧ textIn? child = some text

/-- The element shows a part of a message. -/
inductive Shows : Child → Part → Prop where
  | id {child : Child} {text : String} (leaf : Says child "MessageId" text) : Shows child (.id text)
  | handle {child : Child} {text : String} (leaf : Says child "ReceiptHandle" text) :
      Shows child (.handle text)
  | body {child : Child} {text : String} (leaf : Says child "Body" text) : Shows child (.body text)
  | sender {child first second third : Child} {name value : String}
      (named : child.name = "MessageAttribute".toList)
      (inside : knownIn child = [first, second]) (before : Says first "Name" name)
      (outer : second.name = "Value".toList) (within : knownIn second = [third])
      (behind : Says third "StringValue" value) : Shows child (.sender (name, value))
  | queue {child first second : Child} {name value : String}
      (named : child.name = "Attribute".toList)
      (inside : knownIn child = [first, second]) (before : Says first "Name" name)
      (behind : Says second "Value" value) : Shows child (.queue (name, value))

/-- The parts of a message with a given text as its body. -/
def partsOf (m : ReceivedMessage) (text : String) : List Part :=
  m.messageId.toList.map (fun id => .id id.text) ++ [.handle m.receiptHandle.text, .body text] ++
    m.messageAttributes.entries.map .sender ++ m.systemAttributes.entries.map .queue

/-- The element shows a message, its parts in any order. -/
def ShowsMessage (child : Child) (m : ReceivedMessage) : Prop :=
  child.name = "Message".toList ∧ ∃ parts text, List.Forall₂ Shows (knownIn child) parts ∧
    parts.Perm (partsOf m text) ∧ Utf8.encode text = m.body

/-- The document shows messages, one after another, in the result of a response. -/
def Renders (document : Content) (messages : List ReceivedMessage) : Prop :=
  ∃ response result, document.children = [response] ∧
    response.name = "ReceiveMessageResponse".toList ∧
    knownIn response = [result] ∧ result.name = "ReceiveMessageResult".toList ∧
    List.Forall₂ ShowsMessage (knownIn result) messages

/-- No text that a document shows for the message is empty, but for the body. -/
structure Expressible (m : ReceivedMessage) : Prop where
  messageId : ∀ id ∈ m.messageId, id.text ≠ ""
  messageAttributes : ∀ e ∈ m.messageAttributes.entries, e.1 ≠ "" ∧ e.2 ≠ ""
  systemAttributes : ∀ e ∈ m.systemAttributes.entries, e.1 ≠ "" ∧ e.2 ≠ ""

/-! ## Drafts along nodes -/

/-- Nodes inside a message turn one draft into another. -/
def Drafts (d : Draft) (nodes : List Node) (next : Draft) : Prop :=
  ∀ done, Inbox.run ⟨some d, done⟩ nodes = .ok ⟨some next, done⟩

theorem Drafts.append {d middle next : Draft} {first second : List Node}
    (before : Drafts d first middle)
    (behind : Drafts middle second next) : Drafts d (first ++ second) next := by
  intro done
  rw [Inbox.run_append, before done]
  exact behind done

/-- In content whose elements are not hidden, those that are looked at have such content again. -/
def ApartIn (child : Child) : Prop := ∀ c ∈ child.inside, Apart c

instance : DecidablePred ApartIn :=
  fun child => inferInstanceAs (Decidable (∀ c ∈ child.inside, Apart c))

theorem Apart.known {c : Content} (apart : Apart c) : ∀ child ∈ Answer.known c, ApartIn child := by
  intro child member inside stands
  obtain ⟨direct, looked⟩ := List.mem_filter.mp member
  have both := apart.child direct stands
  rwa [if_pos (by simpa using looked)] at both

theorem ApartIn.knownIn {child : Child} (apart : ApartIn child) :
    ∀ inner ∈ Answer.knownIn child, ApartIn inner := by
  intro inner member
  cases stands : child.inside with
  | none =>
    rw [knownIn_of_none stands] at member
    cases member
  | some c =>
    rw [knownIn_of_some stands] at member
    exact (apart c stands).known inner member

section Elements

variable {path : Path} {child : Child} {d next : Draft}

/-- An element with nothing but a text in it has its text taken, unless it is empty. -/
theorem drafts_leaf {text : String} (leaf : textIn? child = some text)
    (plain : Plain (child.name :: path)) (d : Draft) :
    Drafts d (child.nodes path)
      (if text = "" then d else d.take (child.name :: path) text.toList) := by
  intro done
  unfold textIn? at leaf
  split at leaf
  next empty =>
    cases leaf
    rw [Child.nodes_of_none empty]
    rfl
  next s stands =>
    obtain rfl := Option.some.inj leaf
    have last : ∀ node ∈ [Node.closed (child.name :: path)], Idle node :=
      List.forall_mem_singleton.mpr (idle_closed plain)
    rw [Child.nodes_of_some stands, Inbox.run, idle_opened plain, Content.nodes]
    by_cases empty : s = []
    · subst empty
      exact Inbox.run_of_idle last _
    · have filled : String.ofList s.content ≠ "" := by
        intro blank
        have content := congrArg String.toList blank
        rw [String.toList_ofList] at content
        exact empty (List.map_eq_nil_iff.mp content)
      rw [Spelled.nodes, if_neg empty, if_neg filled, String.toList_ofList]
      exact Inbox.run_of_idle last _
  next => cases leaf

/-- An element inside a message counts for the elements in it that are looked at.  At its end the
name of an attribute is forgotten, if this is what the element is. -/
theorem drafts_element {name : List Char} {children : List Child} (named : child.name = name)
    (inside : knownIn child = children) (filled : children ≠ []) (apart : ApartIn child)
    (path : Path)
    (silent : Silent (name :: path)) (inner : endsWith messageElement (name :: path) = false)
    (drafts : Drafts d (children.flatMap (Child.nodes (name :: path))) next) :
    Drafts d (child.nodes path)
      (if endsWith senderAttribute (name :: path) ∨ endsWith queueAttribute (name :: path)
        then { next with name := none } else next) := by
  subst named inside
  intro done
  cases stands : child.inside with
  | none => exact absurd (knownIn_of_none stands) filled
  | some c =>
    have taken := drafts done
    rw [knownIn_of_some stands, ← Inbox.run_known silent (apart c stands)] at taken
    have begun : Inbox.step ⟨some d, done⟩ (.opened (child.name :: path)) = .ok ⟨some d, done⟩ := by
      rw [Inbox.step, inner]
      rfl
    rw [Child.nodes_of_some stands, Inbox.run, begun]
    show Inbox.run _ (c.nodes _ ++ _) = _
    rw [Inbox.run_append, taken]
    show Inbox.run ⟨some next, done⟩ [.closed _] = _
    rw [Inbox.run, Inbox.step, inner]
    by_cases ends : endsWith senderAttribute (child.name :: path) ∨
        endsWith queueAttribute (child.name :: path)
    · rw [if_pos ends, if_neg Bool.false_ne_true, if_pos ends]
      rfl
    · rw [if_neg ends, if_neg Bool.false_ne_true, if_neg ends]
      rfl

end Elements

/-! ## What a draft collects -/

namespace Part

def id? : Part → Option String
  | id text => some text
  | _ => none

def handle? : Part → Option String
  | handle text => some text
  | _ => none

def body? : Part → Option String
  | body text => some text
  | _ => none

def sender? : Part → Option (String × String)
  | sender entry => some entry
  | _ => none

def queue? : Part → Option (String × String)
  | queue entry => some entry
  | _ => none

/-- The part has no empty text, but for the body. -/
def Filled : Part → Prop
  | id text => text ≠ ""
  | handle text => text ≠ ""
  | body _ => True
  | sender entry => entry.1 ≠ "" ∧ entry.2 ≠ ""
  | queue entry => entry.1 ≠ "" ∧ entry.2 ≠ ""

end Part

/-- The draft with a part that has been read. -/
def Draft.add (d : Draft) : Part → Draft
  | .id text => { d with messageId := some text }
  | .handle text => { d with receiptHandle := some text }
  | .body text => { d with body := if text = "" then d.body else text.toList :: d.body }
  | .sender entry => { d with name := none, messageAttributes := entry :: d.messageAttributes }
  | .queue entry => { d with name := none, systemAttributes := entry :: d.systemAttributes }

/-- The draft holds what these parts say. -/
structure Collected (d : Draft) (parts : List Part) : Prop where
  messageId : d.messageId = (parts.filterMap Part.id?).getLast?
  receiptHandle : d.receiptHandle = (parts.filterMap Part.handle?).getLast?
  body : d.body.reverse.flatten = (parts.filterMap Part.body?).flatMap String.toList
  messageAttributes : d.messageAttributes.reverse = parts.filterMap Part.sender?
  systemAttributes : d.systemAttributes.reverse = parts.filterMap Part.queue?

theorem collected_empty : Collected .empty [] := ⟨rfl, rfl, rfl, rfl, rfl⟩

theorem Collected.add {d : Draft} {parts : List Part} (collected : Collected d parts)
    (part : Part) :
    Collected (d.add part) (parts ++ [part]) := by
  obtain ⟨id, handle, body, sender, queue⟩ := collected
  refine ⟨?_, ?_, ?_, ?_, ?_⟩
  · cases part with
    | id text => simp [Draft.add, Part.id?]
    | _ => simpa [Draft.add, Part.id?] using id
  · cases part with
    | handle text => simp [Draft.add, Part.handle?]
    | _ => simpa [Draft.add, Part.handle?] using handle
  · cases part with
    | body text =>
      by_cases empty : text = "" <;>
          simpa [Draft.add, List.filterMap_cons, Part.body?, empty] using body
    | _ => simpa [Draft.add, List.filterMap_cons, Part.body?] using body
  · cases part with
    | sender entry => simpa [Draft.add, List.filterMap_cons, Part.sender?] using sender
    | _ => simpa [Draft.add, List.filterMap_cons, Part.sender?] using sender
  · cases part with
    | queue entry => simpa [Draft.add, List.filterMap_cons, Part.queue?] using queue
    | _ => simpa [Draft.add, List.filterMap_cons, Part.queue?] using queue

theorem Collected.foldl {d : Draft} {before : List Part} (collected : Collected d before)
    (parts : List Part) :
    Collected (parts.foldl Draft.add d) (before ++ parts) := by
  induction parts generalizing d before with
  | nil => rwa [List.append_nil]
  | cons part parts ih =>
    rw [List.append_cons]
    exact ih (collected.add part)

/-! ## Parts along a message -/

/-- Where the parts of a message stand. -/
def messagePath : Path := place ["ReceiveMessageResponse", "ReceiveMessageResult", "Message"]

theorem Says.drafts {child : Child} {name text : String} (leaf : Says child name text)
    (filled : text ≠ "")
    (path : Path) (plain : Plain (name.toList :: path)) {d : Draft} (next : String → Draft)
    (taken : ∀ content, d.take (name.toList :: path) content = next (String.ofList content)) :
    Drafts d (child.nodes path) (next text) := by
  obtain ⟨named, content⟩ := leaf
  rw [← named] at plain taken
  have drafts := drafts_leaf content plain d
  rwa [if_neg filled, taken, String.ofList_toList] at drafts

/-- An element that shows a part of a message adds this part to the draft. -/
theorem Shows.drafts {child : Child} {part : Part} (shown : Shows child part) (filled : part.Filled)
    (apart : ApartIn child) (d : Draft) : Drafts d (child.nodes messagePath) (d.add part) := by
  cases shown with
  | id leaf =>
    exact leaf.drafts filled messagePath (by decide) (fun text => d.add (.id text)) fun _ => rfl
  | handle leaf =>
    exact leaf.drafts filled messagePath (by decide) (fun text => d.add (.handle text)) fun _ => rfl
  | @body text leaf =>
    by_cases empty : text = ""
    · obtain ⟨named, content⟩ := leaf
      have plain : Plain (child.name :: messagePath) := by
        rw [named]
        decide
      have taken := drafts_leaf content plain d
      rw [if_pos empty] at taken
      rwa [Draft.add, if_pos empty]
    · rw [Draft.add, if_neg empty]
      refine leaf.drafts empty messagePath (by decide)
        (fun text => { d with body := text.toList :: d.body })
        fun content => ?_
      show { d with body := content :: d.body } =
          { d with body := (String.ofList content).toList :: d.body }
      rw [String.toList_ofList]
  | @sender first second third name value named inside before outer within behind =>
    have key : Drafts d (first.nodes ("MessageAttribute".toList :: messagePath))
        { d with name := some name } :=
      before.drafts filled.1 _ (by decide) (fun name => { d with name := some name }) fun _ => rfl
    have content : Drafts { d with name := some name }
        (third.nodes ("Value".toList :: "MessageAttribute".toList :: messagePath))
        { d with name := some name, messageAttributes := (name, value) :: d.messageAttributes } :=
      behind.drafts filled.2 _ (by decide)
        (fun value =>
          { d with name := some name, messageAttributes := (name, value) :: d.messageAttributes })
        fun _ => rfl
    have inner : ApartIn second := apart.knownIn second (by simp [inside])
    have outside : Drafts { d with name := some name }
        (second.nodes ("MessageAttribute".toList :: messagePath))
        { d with name := some name, messageAttributes := (name, value) :: d.messageAttributes } :=
      drafts_element outer within (by simp) inner _ (by decide) (by decide) (by simpa using content)
    have elements := key.append outside
    exact drafts_element named inside (by simp) apart messagePath (by decide) (by decide)
      (by simpa using elements)
  | @queue first second name value named inside before behind =>
    have key : Drafts d (first.nodes ("Attribute".toList :: messagePath))
        { d with name := some name } :=
      before.drafts filled.1 _ (by decide) (fun name => { d with name := some name }) fun _ => rfl
    have content : Drafts { d with name := some name }
        (second.nodes ("Attribute".toList :: messagePath))
        { d with name := some name, systemAttributes := (name, value) :: d.systemAttributes } :=
      behind.drafts filled.2 _ (by decide)
        (fun value =>
          { d with name := some name, systemAttributes := (name, value) :: d.systemAttributes })
        fun _ => rfl
    have elements := key.append content
    exact drafts_element named inside (by simp) apart messagePath (by decide) (by decide)
      (by simpa using elements)

/-- Elements that show the parts of a message add these parts, one after another. -/
theorem drafts_parts {children : List Child} {parts : List Part}
    (shown : List.Forall₂ Shows children parts)
    (filled : ∀ part ∈ parts, part.Filled) (apart : ∀ child ∈ children, ApartIn child) (d : Draft) :
    Drafts d (children.flatMap (Child.nodes messagePath)) (parts.foldl Draft.add d) := by
  induction shown generalizing d with
  | nil => exact fun done => rfl
  | cons first _ ih =>
    obtain ⟨full, fuller⟩ := List.forall_mem_cons.mp filled
    obtain ⟨plain, plainer⟩ := List.forall_mem_cons.mp apart
    exact (first.drafts full plain d).append (ih fuller plainer _)

/-! ## Messages -/

theorem Expressible.filled {m : ReceivedMessage} (expressible : Expressible m) (text : String) :
    ∀ part ∈ partsOf m text, part.Filled := by
  obtain ⟨id, sender, queue⟩ := expressible
  intro part member
  simp only [partsOf, List.mem_append, List.mem_map, List.mem_cons, List.not_mem_nil,
    or_false] at member
  rcases member with ((⟨i, stands, rfl⟩ | rfl | rfl) | ⟨e, stands, rfl⟩) | ⟨e, stands, rfl⟩
  · exact id i (by simpa using stands)
  · exact m.receiptHandle.nonempty
  · trivial
  · exact sender e stands
  · exact queue e stands

section PartsOf

variable (m : ReceivedMessage) (text : String)

theorem id?_partsOf :
    (partsOf m text).filterMap Part.id? = m.messageId.toList.map MessageId.text := by
  simp [partsOf, List.filterMap_append, List.filterMap_cons, List.filterMap_map, Function.comp_def,
    Part.id?]

theorem handle?_partsOf : (partsOf m text).filterMap Part.handle? = [m.receiptHandle.text] := by
  simp [partsOf, List.filterMap_append, List.filterMap_cons, List.filterMap_map, Function.comp_def,
    Part.handle?]

theorem body?_partsOf : (partsOf m text).filterMap Part.body? = [text] := by
  simp [partsOf, List.filterMap_append, List.filterMap_cons, List.filterMap_map, Function.comp_def,
    Part.body?]

theorem sender?_partsOf :
    (partsOf m text).filterMap Part.sender? = m.messageAttributes.entries := by
  simp [partsOf, List.filterMap_append, List.filterMap_cons, List.filterMap_map, Function.comp_def,
    Part.sender?]

theorem queue?_partsOf : (partsOf m text).filterMap Part.queue? = m.systemAttributes.entries := by
  simp [partsOf, List.filterMap_append, List.filterMap_cons, List.filterMap_map, Function.comp_def,
    Part.queue?]

end PartsOf

/-- A draft with the parts of a message is this message, in whatever order they were read. -/
theorem Collected.toMessage_eq {d : Draft} {parts : List Part} (collected : Collected d parts)
    {m : ReceivedMessage}
    {text : String} (perm : parts.Perm (partsOf m text)) (encoded : Utf8.encode text = m.body)
    (named : ∀ id ∈ m.messageId, id.text ≠ "") : d.toMessage = .ok m := by
  obtain ⟨id, handle, body, sender, queue⟩ := collected
  have ids := perm.filterMap Part.id?
  have handles := perm.filterMap Part.handle?
  have bodies := perm.filterMap Part.body?
  have senders := perm.filterMap Part.sender?
  have queues := perm.filterMap Part.queue?
  rw [id?_partsOf] at ids
  rw [handle?_partsOf, List.perm_singleton] at handles
  rw [body?_partsOf, List.perm_singleton] at bodies
  rw [sender?_partsOf, ← sender] at senders
  rw [queue?_partsOf, ← queue] at queues
  rw [handles] at handle
  rw [bodies] at body
  have messageId : (d.messageId.bind fun id => (MessageId.parse id).toOption) = m.messageId := by
    cases own : m.messageId with
    | none =>
      rw [own] at ids
      rw [id, List.Perm.eq_nil ids]
      rfl
    | some i =>
      have filled := named i own
      rw [own] at ids
      rw [id, List.perm_singleton.mp ids]
      simp [MessageId.parse, filled, Except.toOption]
  have content : Utf8.encode (String.ofList d.body.reverse.flatten) = m.body := by
    rw [body, List.flatMap_singleton, String.ofList_toList, encoded]
  have receipt : ReceiptHandle.parse m.receiptHandle.text = .ok m.receiptHandle :=
    dif_neg m.receiptHandle.nonempty
  have last : d.receiptHandle = some m.receiptHandle.text := handle
  unfold Draft.toMessage
  simp only [last, receipt, messageId, content, Table.ofList_of_perm senders,
    Table.ofList_of_perm queues]

/-- Where messages stand. -/
def resultPath : Path := place ["ReceiveMessageResponse", "ReceiveMessageResult"]

/-- An element that shows a message hands it out. -/
theorem ShowsMessage.run {child : Child} {m : ReceivedMessage} (shown : ShowsMessage child m)
    (expressible : Expressible m) (apart : ApartIn child) (done : List ReceivedMessage) :
    Inbox.run ⟨none, done⟩ (child.nodes resultPath) = .ok ⟨none, m :: done⟩ := by
  obtain ⟨named, parts, text, shows, perm, encoded⟩ := shown
  cases stands : child.inside with
  | none =>
    -- A message has parts, so something stands in its element.
    rw [knownIn_of_none stands] at shows
    cases shows
    have partless := congrArg List.length perm.nil_eq
    simp [partsOf] at partless
  | some c =>
    have filled : ∀ part ∈ parts, part.Filled := fun part member =>
      expressible.filled text part (perm.mem_iff.mp member)
    have taken := drafts_parts shows filled apart.knownIn .empty done
    rw [knownIn_of_some stands, ← Inbox.run_known (by decide) (apart c stands)] at taken
    have begun : Inbox.step ⟨none, done⟩ (.opened messagePath) = .ok ⟨some .empty, done⟩ := rfl
    have collected := collected_empty.foldl parts
    have ended : Inbox.step ⟨some (parts.foldl Draft.add .empty), done⟩ (.closed messagePath) =
        .ok ⟨none, m :: done⟩ := by
      have ends : endsWith messageElement messagePath = true := by decide
      rw [Inbox.step, if_pos ends]
      simp only [collected.toMessage_eq perm encoded expressible.messageId]
    have path : child.name :: resultPath = messagePath := by
      rw [named]
      rfl
    rw [Child.nodes_of_some stands, path, Inbox.run, begun]
    show Inbox.run _ (c.nodes messagePath ++ _) = _
    rw [Inbox.run_append, taken]
    show Inbox.run ⟨some (parts.foldl Draft.add .empty), done⟩ [.closed messagePath] = _
    rw [Inbox.run, ended]
    rfl

/-- Elements that show messages hand them out, one after another. -/
theorem run_messages {children : List Child} {messages : List ReceivedMessage}
    (shown : List.Forall₂ ShowsMessage children messages)
    (expressible : ∀ m ∈ messages, Expressible m)
    (apart : ∀ child ∈ children, ApartIn child) (done : List ReceivedMessage) :
    Inbox.run ⟨none, done⟩ (children.flatMap (Child.nodes resultPath)) =
      .ok ⟨none, messages.reverse ++ done⟩ := by
  induction shown generalizing done with
  | nil => rfl
  | cons first _ ih =>
    obtain ⟨own, others⟩ := List.forall_mem_cons.mp expressible
    obtain ⟨plain, plainer⟩ := List.forall_mem_cons.mp apart
    rw [List.flatMap_cons, Inbox.run_append, first.run own plain]
    show Inbox.run _ _ = _
    rw [ih others plainer]
    simp

/-- An element at whose beginning and end nothing happens counts for the elements in it that are
looked at. -/
theorem run_plain {child : Child} {name : List Char} (named : child.name = name)
    (apart : ApartIn child)
    {path : Path} (silent : Silent (name :: path)) (plain : Plain (name :: path)) (i : Inbox) :
    i.run (child.nodes path) = i.run ((knownIn child).flatMap (Child.nodes (name :: path))) := by
  subst named
  cases stands : child.inside with
  | none =>
    rw [Child.nodes_of_none stands, knownIn_of_none stands]
    rfl
  | some c =>
    have last : ∀ node ∈ [Node.closed (child.name :: path)], Idle node :=
      List.forall_mem_singleton.mpr (idle_closed plain)
    rw [Child.nodes_of_some stands, knownIn_of_some stands, Inbox.run, idle_opened plain]
    show Inbox.run _ (c.nodes _ ++ _) = _
    rw [Inbox.run_append, Inbox.run_known silent (apart c stands)]
    cases i.run ((known c).flatMap (Child.nodes (child.name :: path))) with
    | ok j => exact Inbox.run_of_idle last j
    | error e => rfl

/-! ## Documents that show messages -/

/-- Characters written as themselves. -/
def plainly (chars : List Char) (ordinary : '&' ∉ chars ∧ '<' ∉ chars) : Spelled :=
  chars.pmap .plain fun _ member =>
    ⟨fun same => ordinary.1 (same ▸ member), fun same => ordinary.2 (same ▸ member)⟩

/-- An element without attributes. -/
def bare (name : List Char) (filled : name ≠ []) (named : name.all NameChar = true) : Tag :=
  ⟨name, [], filled, fun c member => of_decide_eq_true (List.all_eq_true.mp named c member), nofun,
    trivial⟩

/-- An element with nothing in front of it and no blanks in its end tag. -/
def elementOf (tag : Tag) (inside rest : Content) : Content :=
  .element [] tag inside ⟨[], nofun⟩ rest

/-- Nothing between the name and the closing angle bracket of an end tag. -/
def noBlanks : Blanks := ⟨[], nofun⟩

def tagResponse : Tag := bare "ReceiveMessageResponse".toList (by decide) (by decide)
def tagResult : Tag := bare "ReceiveMessageResult".toList (by decide) (by decide)
def tagMessage : Tag := bare "Message".toList (by decide) (by decide)
def tagHandle : Tag := bare "ReceiptHandle".toList (by decide) (by decide)
def tagBody : Tag := bare "Body".toList (by decide) (by decide)

/-- The element of the handle `r`, and what follows it. -/
def handleThen (rest : Content) : Content :=
  elementOf tagHandle (.text (plainly ['r'] (by decide))) rest

/-- An answer with one message, in whose element the handle `r` and what is given stand. -/
def answerWith (parts : Content) : Content :=
  elementOf tagResponse
    (elementOf tagResult (elementOf tagMessage (handleThen parts) (.text [])) (.text [])) (.text [])

/-- Messages are read back from every document that shows them, if no number in a reference is too
long and nothing that is looked at is hidden in an element that is not. -/
theorem received_of_rendering {document : Content} {messages : List ReceivedMessage}
    (rendered : Renders document messages) (expressible : ∀ m ∈ messages, Expressible m)
    (short : document.Short) (apart : ∀ child ∈ document.children, ApartIn child) :
    received (String.ofList document.write) = .ok messages := by
  obtain ⟨response, result, children, outer, inside, inner, shown⟩ := rendered
  have nodes := nodes_write document short
  have within : ApartIn response := apart response (by simp [children])
  have inmost : ApartIn result := within.knownIn result (by simp [inside])
  have inbox : Inbox.run ⟨none, []⟩ (document.unmarked.nodes []) =
      .ok ⟨none, messages.reverse⟩ := by
    rw [Inbox.run_children (by decide), document.children_unmarked, children,
      List.flatMap_singleton, run_plain outer within (by decide) (by decide), inside,
      List.flatMap_singleton, run_plain inner inmost (by decide) (by decide)]
    have taken := run_messages shown expressible inmost.knownIn []
    rwa [List.append_nil] at taken
  unfold received
  simp only [nodes, inbox, List.reverse_reverse]

/-- An answer with a comment, with elements that are not looked at, with references of every kind,
and with the identifier of the message behind everything else. -/
def mixedAnswer : Content :=
  let name : Tag := bare "Name".toList (by decide) (by decide)
  let value : Tag := bare "Value".toList (by decide) (by decide)
  let key : Spelled := plainly ['k'] (by decide)
  .aside [] (.instruction "xml version='1.0'".toList (by decide) (by decide)) <|
  answerWith <|
  elementOf tagBody
    (.text [.plain 'a' (by decide), .named .less,
      .decimal '&' "38".toList ⟨[3, 8], by decide, by decide, by decide⟩ (by decide)]) <|
  elementOf (bare "MD5OfBody".toList (by decide) (by decide)) (.text key) <|
  .aside (plainly [' '] (by decide)) (.comment "noted".toList (by decide)) <|
  elementOf (bare "MessageAttribute".toList (by decide) (by decide))
    (elementOf name (.text key) <|
      elementOf value
        (elementOf (bare "DataType".toList (by decide) (by decide)) (.text key) <|
          elementOf (bare "StringValue".toList (by decide) (by decide))
            (.text [.hexadecimal '<' "3C".toList ⟨[3, 12], by decide, by decide, by decide⟩
              (by decide)]) <|
          .text [])
        (.text [])) <|
  elementOf (bare "Attribute".toList (by decide) (by decide))
    (elementOf name (.text key) <|
      elementOf value (.text (plainly ['v'] (by decide))) (.text [])) <|
  elementOf (bare "MessageId".toList (by decide) (by decide)) (.text (plainly ['m'] (by decide))) <|
  .text (plainly [' '] (by decide))

/-- The message that this answer shows. -/
def mixedMessage : ReceivedMessage :=
  { messageId := some ⟨"m"⟩
    receiptHandle := ⟨"r", by decide⟩
    body := Utf8.encode "a<&"
    messageAttributes := .ofList [("k", "<")]
    systemAttributes := .ofList [("k", "v")] }

theorem renders_mixedAnswer : Renders mixedAnswer [mixedMessage] := by
  refine ⟨_, _, rfl, rfl, rfl, rfl,
    .cons ⟨rfl, [.handle "r", .body "a<&", .sender ("k", "<"), .queue ("k", "v")] ++
    [.id "m"], "a<&", ?_, List.perm_append_comm, rfl⟩ .nil⟩
  exact .cons (.handle ⟨rfl, rfl⟩) <| .cons (.body ⟨rfl, rfl⟩) <|
    .cons (.sender rfl rfl ⟨rfl, rfl⟩ rfl rfl ⟨rfl, rfl⟩) <|
      .cons (.queue rfl rfl ⟨rfl, rfl⟩ ⟨rfl, rfl⟩) <|
    .cons (.id ⟨rfl, rfl⟩) .nil

theorem received_of_mixedAnswer :
    Renders mixedAnswer [mixedMessage] ∧ (∀ m ∈ [mixedMessage], Expressible m) ∧ mixedAnswer.Short ∧
      (∀ child ∈ mixedAnswer.children, ApartIn child) ∧
      received (String.ofList mixedAnswer.write) = .ok [mixedMessage] := by
  have expressible : ∀ m ∈ [mixedMessage], Expressible m :=
    List.forall_mem_singleton.mpr ⟨by simp [mixedMessage], by decide, by decide⟩
  have short : mixedAnswer.Short := by decide
  have apart : ∀ child ∈ mixedAnswer.children, ApartIn child := by decide
  exact ⟨renders_mixedAnswer, expressible, short, apart,
    received_of_rendering renders_mixedAnswer expressible short apart⟩

/-! ## Documents that are not read back -/

/-- A message with a body and nothing else but the handle `r`. -/
def bareMessage (body : String) : ReceivedMessage :=
  ⟨none, ⟨"r", by decide⟩, Utf8.encode body, .empty, .empty⟩

theorem expressible_bareMessage (body : String) : Expressible (bareMessage body) :=
  ⟨nofun, nofun, nofun⟩

/-- The body is written `&#00000038;`. -/
def longNumber : Content :=
  answerWith (elementOf tagBody
    (.text [.decimal '&' "00000038".toList
      ⟨[0, 0, 0, 0, 0, 0, 3, 8], by decide, by decide, by decide⟩ (by decide)])
    (.text []))

/-- Behind the body `b` stands `<Extra><Message><Body>x</Body></Message></Extra>`. -/
def hiddenBody : Content :=
  answerWith (elementOf tagBody (.text (plainly ['b'] (by decide)))
    (elementOf (bare "Extra".toList (by decide) (by decide))
      (elementOf tagMessage (elementOf tagBody (.text (plainly ['x'] (by decide))) (.text []))
        (.text []))
      (.text [])))

theorem renders_longNumber : Renders longNumber [bareMessage "&"] := by
  refine ⟨_, _, rfl, rfl, rfl, rfl,
    .cons ⟨rfl, [.handle "r", .body "&"], "&", ?_, .refl _, rfl⟩ .nil⟩
  exact .cons (.handle ⟨rfl, rfl⟩) (.cons (.body ⟨rfl, rfl⟩) .nil)

theorem renders_hiddenBody : Renders hiddenBody [bareMessage "b"] := by
  refine ⟨_, _, rfl, rfl, rfl, rfl,
    .cons ⟨rfl, [.handle "r", .body "b"], "b", ?_, .refl _, rfl⟩ .nil⟩
  exact .cons (.handle ⟨rfl, rfl⟩) (.cons (.body ⟨rfl, rfl⟩) .nil)

set_option maxRecDepth 4000 in
theorem received_longNumber :
    received (String.ofList longNumber.write) = .error (.malformed Fault.reference.message) := by
  unfold received nodes
  rw [String.toList_ofList]
  rfl

theorem received_hiddenBody :
    received (String.ofList hiddenBody.write) = .ok [bareMessage "bx"] := by
  unfold received
  rw [nodes_write hiddenBody (by decide)]
  rfl

/-- A document that shows a message is not always read back.  It is refused for a number of eight
digits in a reference, and a body in an element that is not looked at is added to the one of the
message. -/
theorem renderings_misread :
    (Renders longNumber [bareMessage "&"] ∧ Expressible (bareMessage "&") ∧
      (∀ child ∈ longNumber.children, ApartIn child) ∧
      received (String.ofList longNumber.write) = .error (.malformed Fault.reference.message)) ∧
    (Renders hiddenBody [bareMessage "b"] ∧ Expressible (bareMessage "b") ∧ hiddenBody.Short ∧
      received (String.ofList hiddenBody.write) = .ok [bareMessage "bx"] ∧
      bareMessage "bx" ≠ bareMessage "b") := by
  have other : bareMessage "bx" ≠ bareMessage "b" := by
    intro same
    have bodies : Utf8.encode "bx" = Utf8.encode "b" := congrArg ReceivedMessage.body same
    have texts := congrArg Utf8.decode? bodies
    rw [Utf8.decode?_encode, Utf8.decode?_encode] at texts
    exact absurd (Option.some.inj texts) (by decide)
  exact ⟨⟨renders_longNumber, expressible_bareMessage _, by decide, received_longNumber⟩,
    ⟨renders_hiddenBody, expressible_bareMessage _, by decide, received_hiddenBody, other⟩⟩

end MessageQueue.Answer
