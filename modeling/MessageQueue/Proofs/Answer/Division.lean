import MessageQueue.Proofs.Answer.Errors
import MessageQueue.Proofs.Markup.Division

/-!
# Answers with divided texts

A body is put together from the pieces of its character data.  Everywhere else a piece replaces the
one in front of it, and so what counts is the last piece alone (`divisions_read`).

Two drafts count as the same if the same message would come of them, and the name that they keep is
the same (`Draft.gist`).  This lasts whatever text they take next.  Two texts that are taken at one
place, other than that of a body, leave the same gist as the second alone: of an identifier, a
handle or a name only the last is kept, and two values under one name become one entry of a table.
-/

namespace MessageQueue.Answer

open MessageQueue.Markup

/-! ## What counts of a draft -/

/-- What counts of a draft, for the message that it becomes and for the texts to come. -/
structure Gist where
  messageId : Option String
  receiptHandle : Option String
  body : List Char
  name : Option String
  messageAttributes : Table String
  systemAttributes : Table String

namespace Draft

def gist (d : Draft) : Gist :=
  ⟨d.messageId, d.receiptHandle, d.body.reverse.flatten, d.name,
    .ofList d.messageAttributes.reverse, .ofList d.systemAttributes.reverse⟩

theorem toMessage_of_gist {d e : Draft} (same : d.gist = e.gist) : d.toMessage = e.toMessage := by
  obtain ⟨messageId, receiptHandle, body, -, messageAttributes, systemAttributes⟩ :=
    Gist.mk.inj same
  unfold toMessage
  rw [messageId, receiptHandle, body, messageAttributes, systemAttributes]

/-- Drafts with one gist have one gist behind a text, too. -/
theorem gist_take {d e : Draft} (same : d.gist = e.gist) (path : Path) (content : List Char) :
    (d.take path content).gist = (e.take path content).gist := by
  obtain ⟨messageId, receiptHandle, body, name, sender, queue⟩ := Gist.mk.inj same
  unfold take
  rw [name]
  split_ifs
  · simp only [gist, receiptHandle, body, sender, queue]
  · simp only [gist, messageId, body, sender, queue]
  · simp only [gist, List.reverse_cons, List.flatten_append, messageId, receiptHandle, body,
      sender, queue]
  · simp only [gist, messageId, receiptHandle, body, sender, queue]
  · cases e.name with
    | none => exact same
    | some key =>
      simp only [gist, List.reverse_cons, ← Table.insert_ofList, messageId, receiptHandle, body,
        sender, queue]
  · cases e.name with
    | none => exact same
    | some key =>
      simp only [gist, List.reverse_cons, ← Table.insert_ofList, messageId, receiptHandle, body,
        sender, queue]
  · exact same

/-- Of two texts at one place only the second counts, if it is not the place of a body. -/
theorem gist_take_take (d : Draft) {path : Path} (elsewhere : endsWith bodyText path = false)
    (first second : List Char) :
    ((d.take path first).take path second).gist = (d.take path second).gist := by
  by_cases atId : endsWith idText path = true
  · simp [take, atId]
  by_cases atHandle : endsWith handleText path = true
  · simp [take, atId, atHandle]
  by_cases atName : endsWith senderName path = true ∨ endsWith queueName path = true
  · simp [take, atId, atHandle, elsewhere, atName]
  by_cases atSender : endsWith senderValue path = true
  · cases name : d.name with
    | none => simp [take, atId, atHandle, elsewhere, atName, atSender, name]
    | some key =>
      simp [take, atId, atHandle, elsewhere, atName, atSender, name, gist, Table.ofList_replace]
  by_cases atQueue : endsWith queueValue path = true
  · cases name : d.name with
    | none => simp [take, atId, atHandle, elsewhere, atName, atSender, atQueue, name]
    | some key =>
      simp [take, atId, atHandle, elsewhere, atName, atSender, atQueue, name, gist,
        Table.ofList_replace]
  simp [take, atId, atHandle, elsewhere, atName, atSender, atQueue]

theorem take_body (d : Draft) {path : Path} (here : endsWith bodyText path = true)
    (content : List Char) :
    d.take path content = { d with body := content :: d.body } := by
  obtain ⟨outer, rfl⟩ := List.isPrefixOf_iff_prefix.mp here
  rfl

/-- Takes texts that stand inside a path, one after another. -/
def takeAll (d : Draft) (path : Path) (pieces : List (List Char)) : Draft :=
  pieces.foldl (fun d => d.take path) d

theorem takeAll_cons (d : Draft) (path : Path) (piece : List Char) (pieces : List (List Char)) :
    d.takeAll path (piece :: pieces) = (d.take path piece).takeAll path pieces := rfl

theorem takeAll_concat (d : Draft) (path : Path) (pieces : List (List Char)) (piece : List Char) :
    d.takeAll path (pieces ++ [piece]) = (d.takeAll path pieces).take path piece :=
  List.foldl_concat ..

/-- The pieces of a body are put together. -/
theorem takeAll_body (d : Draft) {path : Path} (here : endsWith bodyText path = true)
    (pieces : List (List Char)) :
    d.takeAll path pieces = { d with body := pieces.reverse ++ d.body } := by
  induction pieces generalizing d with
  | nil => rfl
  | cons piece pieces ih =>
    rw [takeAll_cons, ih, take_body d here, List.reverse_cons, List.append_assoc]
    rfl

/-- At every other place the last piece counts. -/
theorem gist_takeAll (d : Draft) {path : Path} (elsewhere : endsWith bodyText path = false)
    (pieces : List (List Char)) :
    (d.takeAll path pieces).gist = (d.takeAll path pieces.getLast?.toList).gist := by
  induction pieces using List.reverseRecOn with
  | nil => rfl
  | append_singleton pieces piece ih =>
    rw [takeAll_concat, gist_take ih, List.getLast?_concat]
    cases pieces.getLast? with
    | none => rfl
    | some first => exact gist_take_take d elsewhere first piece

end Draft

/-- What counts of the pieces at a place: of a body all of them together, and elsewhere the last
one. -/
def SameAt (path : Path) (first second : List (List Char)) : Prop :=
  if endsWith bodyText path then first.flatten = second.flatten
    else first.getLast? = second.getLast?

instance (path : Path) (first second : List (List Char)) : Decidable (SameAt path first second) :=
  inferInstanceAs (Decidable (if endsWith bodyText path then _ else _))

theorem Draft.takeAll_same {path : Path} {first second : List (List Char)}
    (same : SameAt path first second)
    (d : Draft) : (d.takeAll path first).gist = (d.takeAll path second).gist := by
  unfold SameAt at same
  split at same
  next here =>
    simp only [takeAll_body d here, gist, List.reverse_append, List.reverse_reverse,
      List.flatten_append, same]
  next elsewhere =>
    rw [gist_takeAll d (by simpa using elsewhere), same,
      ← gist_takeAll d (by simpa using elsewhere)]

/-! ## What counts of an inbox -/

namespace Inbox

/-- What counts of an inbox. -/
def gist (i : Inbox) : Option Gist × List ReceivedMessage := (i.draft.map Draft.gist, i.done)

/-- Inboxes with one gist differ in a draft at most. -/
theorem gist_inv {i j : Inbox} (same : i.gist = j.gist) :
    i = j ∨ ∃ d e done, i = ⟨some d, done⟩ ∧ j = ⟨some e, done⟩ ∧ d.gist = e.gist := by
  obtain ⟨draft, done⟩ := i
  obtain ⟨draft', done'⟩ := j
  obtain ⟨drafts, rfl⟩ := Prod.mk.inj same
  cases draft with
  | none =>
    cases draft' with
    | none => exact .inl rfl
    | some e => exact absurd drafts nofun
  | some d =>
    cases draft' with
    | none => exact absurd drafts nofun
    | some e => exact .inr ⟨d, e, done, rfl, rfl, Option.some.inj drafts⟩

theorem gist_some {d e : Draft} (same : d.gist = e.gist) (done : List ReceivedMessage) :
    gist ⟨some d, done⟩ = gist ⟨some e, done⟩ := by
  rw [gist, gist, Option.map_some, same]
  rfl

/-- Inboxes with one gist have one gist behind a node, too, or neither can take it. -/
theorem gist_step {i j : Inbox} (same : i.gist = j.gist) (node : Node) :
    (i.step node).map gist = (j.step node).map gist := by
  rcases gist_inv same with rfl | ⟨d, e, done, rfl, rfl, drafts⟩
  · rfl
  cases node with
  | opened path =>
    simp only [step]
    split
    next => rfl
    next => exact congrArg Except.ok same
  | text path content =>
    exact congrArg Except.ok (gist_some (Draft.gist_take drafts path content) done)
  | closed path =>
    simp only [step, Draft.toMessage_of_gist drafts]
    split
    next => rfl
    next =>
      have unnamed : Draft.gist { d with name := none } = Draft.gist { e with name := none } := by
        obtain ⟨messageId, receiptHandle, body, -, sender, queue⟩ := Gist.mk.inj drafts
        simp only [Draft.gist, messageId, receiptHandle, body, sender, queue]
      split
      next => exact congrArg Except.ok (gist_some unnamed done)
      next => exact congrArg Except.ok same

theorem gist_map_inv {first second : Except ExchangeFailure Inbox}
    (same : first.map gist = second.map gist) :
    (∃ e, first = .error e ∧ second = .error e) ∨
      ∃ i j, first = .ok i ∧ second = .ok j ∧ i.gist = j.gist := by
  cases first with
  | error e =>
    cases second with
    | error e' => exact .inl ⟨e, rfl, congrArg Except.error (Except.error.inj same).symm⟩
    | ok j => cases same
  | ok i =>
    cases second with
    | error e' => cases same
    | ok j => exact .inr ⟨i, j, rfl, rfl, Except.ok.inj same⟩

/-- Inboxes with one gist have one gist behind any nodes, too. -/
theorem gist_run {i j : Inbox} (same : i.gist = j.gist) (nodes : List Node) :
    (i.run nodes).map gist = (j.run nodes).map gist := by
  induction nodes generalizing i j with
  | nil => exact congrArg Except.ok same
  | cons node nodes ih =>
    rw [run, run]
    rcases gist_map_inv (gist_step same node) with ⟨e, taken, taken'⟩
        | ⟨i', j', taken, taken', behind⟩
    · rw [taken, taken']
    · rw [taken, taken']
      exact ih behind

theorem run_pieces (path : Path) (pieces : List (List Char)) (i : Inbox) :
    i.run (pieces.map (.text path)) =
      .ok { i with draft := i.draft.map fun d => d.takeAll path pieces } := by
  induction pieces generalizing i with
  | nil =>
    obtain ⟨draft, done⟩ := i
    cases draft <;> rfl
  | cons piece pieces ih =>
    rw [List.map_cons, run, step]
    simp only [ih, Option.map_map]
    rfl

/-- What counts of an inbox behind the pieces at a place, and behind what follows them. -/
theorem gist_run_pieces {path : Path} {first second : List (List Char)}
    (same : SameAt path first second) (behind : List Node) (i : Inbox) :
    (i.run (first.map (.text path) ++ behind)).map gist =
      (i.run (second.map (.text path) ++ behind)).map gist := by
  rw [run_append, run_append, run_pieces, run_pieces]
  refine gist_run ?_ behind
  obtain ⟨draft, done⟩ := i
  cases draft with
  | none => rfl
  | some d => exact gist_some (d.takeAll_same same) done

end Inbox

/-! ## Answers with a divided text -/

section Divided

variable {path : Path} {first second : List (List Char)}

theorem textsAt_pieces (names : List (List Char)) (path : Path) (pieces : List (List Char)) :
    textsAt names (pieces.map (.text path)) = if endsWith names path then pieces else [] := by
  induction pieces with
  | nil => exact (ite_self []).symm
  | cons piece pieces ih =>
    rw [List.map_cons, textsAt_cons, ih, textAt]
    split <;> rfl

/-- At a place that is not that of a body, the last piece is what counts. -/
theorem lastText_pieces (same : SameAt path first second) {name : List Char}
    {outer : List (List Char)} (other : "Body".toList ≠ name) (before behind : List Node) :
    lastText (name :: outer) (before ++ (first.map (.text path) ++ behind)) =
      lastText (name :: outer) (before ++ (second.map (.text path) ++ behind)) := by
  have last : (textsAt (name :: outer) (first.map (.text path))).getLast? =
      (textsAt (name :: outer) (second.map (.text path))).getLast? := by
    rw [textsAt_pieces, textsAt_pieces]
    by_cases here : endsWith (name :: outer) path = true
    · have elsewhere : ¬ endsWith bodyText path = true := by
        intro body
        obtain ⟨rest, rfl⟩ := List.isPrefixOf_iff_prefix.mp body
        exact Bool.eq_false_iff.mp (endsWith_of_ne other _) here
      rw [if_pos here, if_pos here]
      rwa [SameAt, if_neg elsewhere] at same
    · rw [if_neg here, if_neg here]
  simp only [lastText_eq, textsAt_append, List.getLast?_append, last]

theorem received_pieces (same : SameAt path first second) {document document' : String}
    {before behind : List Node}
    {fault : Option Fault}
    (read : nodes document = (before ++ (first.map (.text path) ++ behind), fault))
    (read' : nodes document' = (before ++ (second.map (.text path) ++ behind), fault)) :
    received document = received document' := by
  have turns : (Inbox.run ⟨none, []⟩ (before ++ (first.map (.text path) ++ behind))).map
      Inbox.gist =
      (Inbox.run ⟨none, []⟩ (before ++ (second.map (.text path) ++ behind))).map Inbox.gist := by
    rw [Inbox.run_append, Inbox.run_append]
    cases Inbox.run ⟨none, []⟩ before with
    | error e => rfl
    | ok i => exact i.gist_run_pieces same behind
  unfold received
  rw [read, read']
  simp only
  rcases Inbox.gist_map_inv turns with ⟨e, taken, taken'⟩ | ⟨i, j, taken, taken', gists⟩
  · rw [taken, taken']
  · have done : i.done = j.done := congrArg Prod.snd gists
    rw [taken, taken']
    simp only [done]

end Divided

/-- However the character data of an element is divided, an answer is read in the same way if the
pieces of a body are the same together, and elsewhere if the last pieces are the same. -/
theorem divisions_read (status : UInt16) {front : List Char} {path : Path}
    (opens : Opens front path) (tag : Tag)
    (gap : Blanks) (back : List Char) {first second : Division} (short : first.Short)
    (short' : second.Short) (same : SameAt (tag.name :: path) first.pieces second.pieces) :
    received (divided front tag first gap back) = received (divided front tag second gap back) ∧
      sent (divided front tag first gap back) = sent (divided front tag second gap back) ∧
      failure status (divided front tag first gap back) =
        failure status (divided front tag second gap back) := by
  obtain ⟨before, behind, fault, read⟩ := nodes_divided opens tag gap back
  have id : lastText sentId _ = lastText sentId _ :=
    lastText_pieces same (show "Body".toList ≠ "MessageId".toList by decide) before behind
  have code : lastText errorCode _ = lastText errorCode _ :=
    lastText_pieces same (show "Body".toList ≠ "Code".toList by decide) before behind
  have message : lastText errorMessage _ = lastText errorMessage _ :=
    lastText_pieces same (show "Body".toList ≠ "Message".toList by decide) before behind
  refine ⟨received_pieces same (read first short) (read second short'), ?_, ?_⟩
  · unfold sent
    rw [read first short, read second short']
    cases fault with
    | some fault => rfl
    | none => simp only [id]
  · rw [failure_eq, failure_eq, read first short, read second short', code, message]

/-- The text `ab`, a comment and the section `cd`. -/
def parted : Division :=
  .aside (plainly ['a', 'b'] (by decide)) (.comment ['x'] (by decide))
    (.verbatim [] ['c', 'd'] (by decide) (.text []))

/-- The same characters in one piece. -/
def joined : Division := .text (plainly ['a', 'b', 'c', 'd'] (by decide))

/-- A document of elements in one another, with divided character data in the last. -/
def nested (outer : List Tag) (tag : Tag) (d : Division) : String :=
  divided (openings outer) tag d noBlanks (outer.reverse.flatMap fun tag => tag.ending noBlanks)

/-- An answer with one message, in which there is nothing but one element. -/
def inMessage : Tag → Division → String := nested [tagResponse, tagResult, tagMessage]

/-- A divided body reads as one, and a divided handle as its last piece. -/
theorem divisions_read_in_message :
    let outer := [tagResponse, tagResult, tagMessage]
    let path := outer.reverse.map Tag.name
    let last : Division := .text (plainly ['c', 'd'] (by decide))
    Opens (openings outer) path ∧ parted.Short ∧ joined.Short ∧ last.Short ∧
      SameAt (tagBody.name :: path) parted.pieces joined.pieces ∧
      SameAt (tagHandle.name :: path) parted.pieces last.pieces ∧
      received (inMessage tagBody parted) = received (inMessage tagBody joined) ∧
      received (inMessage tagHandle parted) = received (inMessage tagHandle last) := by
  intro outer path last
  have opens : Opens (openings outer) path := opens_openings outer
  have body : SameAt (tagBody.name :: path) parted.pieces joined.pieces := by decide
  have handle : SameAt (tagHandle.name :: path) parted.pieces last.pieces := by decide
  have short : parted.Short ∧ joined.Short ∧ last.Short := by decide
  exact ⟨opens, short.1, short.2.1, short.2.2, body, handle,
    (divisions_read 200 opens tagBody _ _ short.1 short.2.1 body).1,
    (divisions_read 200 opens tagHandle _ _ short.1 short.2.2 handle).1⟩

/-- A message with a handle and nothing else. -/
def handed (handle : ReceiptHandle) : ReceivedMessage :=
  ⟨none, handle, Utf8.encode "", .empty, .empty⟩

/-- The same characters read differently if they are divided: of a handle, of the identifier of a
message that was sent and of the code of an error only the last piece is left. -/
theorem pieces_replaced :
    let result := bare "SendMessageResult".toList (by decide) (by decide)
    let id := bare "MessageId".toList (by decide) (by decide)
    parted.pieces.flatten = joined.pieces.flatten ∧ joined.pieces.flatten ≠ [] ∧ parted.Short ∧
      joined.Short ∧
      (received (inMessage tagHandle joined) = .ok [handed ⟨"abcd", by decide⟩] ∧
        received (inMessage tagHandle parted) = .ok [handed ⟨"cd", by decide⟩]) ∧
      (sent (nested [result] id joined) = .ok ⟨"abcd"⟩ ∧
        sent (nested [result] id parted) = .ok ⟨"cd"⟩) ∧
      failure 400 (nested [tagError] tagCode joined) = .response 400 "abcd" "Unknown error" ∧
      failure 400 (nested [tagError] tagCode parted) = .response 400 "cd" "Unknown error" := by
  decide +kernel

end MessageQueue.Answer
