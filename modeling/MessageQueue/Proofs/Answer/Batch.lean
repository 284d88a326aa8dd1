import MessageQueue.Proofs.Answer.Reading
import MessageQueue.Proofs.Answer.Rendering

/-!
# The messages of an answer are read one by one

What stands in the result of an answer is cut into pieces, such that every element of a piece ends
in it.  A reading comes out of a piece as it went in: the same elements are open, no message is
open, and what the piece adds to the messages that have ended depends on the piece alone
(`Piece.run_fresh`).  So each piece is read as it is read alone, up to the first that cannot be read
(`Piece.outcome_ofList`).

A message begins and ends with its element, because no other element in a piece stands where
messages do: this would take another result of an answer (`Reading.inside_of_nested`).  So an
element of a message hands out one message, if it can be read (`Reading.element_inv`).
-/

namespace MessageQueue.Answer

open MessageQueue.Markup

/-- The name of the element in which messages stand. -/
def resultName : List Char := "ReceiveMessageResult".toList

/-- The name of the element of a message. -/
def messageName : List Char := "Message".toList

/-! ## Readings of nested tokens -/

/-- Messages stand directly in a result. -/
theorem endsWith_messageElement (name : List Char) (path : Path) :
    endsWith messageElement (name :: path) = true ↔
      name = messageName ∧ path.head? = some resultName := by
  have place : messageElement = [messageName, resultName] := rfl
  rw [endsWith, place, List.isPrefixOf_iff_prefix, List.cons_prefix_cons]
  cases path with
  | nil => simp
  | cons top outer => simp [List.cons_prefix_cons, eq_comm]

theorem Inbox.step_closed_of_inside {i j : Inbox} {path : Path}
    (inside : endsWith messageElement path = false)
    (taken : i.step (.closed path) = .ok j) :
    j.done = i.done ∧ j.draft.isSome = i.draft.isSome := by
  rw [Inbox.step, inside] at taken
  simp only [Bool.false_eq_true, if_false] at taken
  split at taken
  next =>
    cases taken
    exact ⟨rfl, Option.isSome_map⟩
  next =>
    cases taken
    exact ⟨rfl, rfl⟩

namespace Reading

variable {r s : Reading} {tokens inside rest : List Token} {name : List Char}

/-- Behind nested tokens the same elements are open as in front of them. -/
theorem path_of_nested (nested : Nested tokens) (taken : r.run tokens = .ok s) :
    s.path = r.path := by
  induction nested generalizing r s with
  | nil =>
    cases taken
    rfl
  | text _ ih =>
    obtain ⟨t, first, behind⟩ := run_cons_inv taken
    obtain ⟨content, rfl⟩ := step_text_inv first
    have same := ih behind
    exact same
  | verbatim _ ih =>
    obtain ⟨t, first, behind⟩ := run_cons_inv taken
    cases first
    have same := ih behind
    exact same
  | @element name inside rest _ _ within ih =>
    obtain ⟨t, opened, behind⟩ := run_cons_inv taken
    cases opened
    obtain ⟨u, inner, behind⟩ := run_append_inv behind
    obtain ⟨v, closed, behind⟩ := run_cons_inv behind
    have top := (step_closing_inv closed).1
    rw [within inner] at top
    rw [ih behind, (List.cons.inj top).2]

/-- An element is read from its start tag to its end tag, and then what is behind it. -/
theorem run_element_inv (nested : Nested inside)
    (taken : r.run (.opening name :: (inside ++ .closing name :: rest)) = .ok s) :
    ∃ t i, Reading.run ⟨name :: r.path,
        if endsWith messageElement (name :: r.path) then { r.inbox with draft := some .empty }
          else r.inbox⟩ inside =
          .ok t ∧
      t.inbox.step (.closed (name :: r.path)) = .ok i ∧ Reading.run ⟨r.path, i⟩ rest = .ok s := by
  obtain ⟨t, opened, behind⟩ := run_cons_inv taken
  cases opened
  obtain ⟨u, inner, behind⟩ := run_append_inv behind
  obtain ⟨⟨path, inbox⟩, closed, behind⟩ := run_cons_inv behind
  obtain ⟨top, ended⟩ := step_closing_inv closed
  have same := path_of_nested nested inner
  rw [same] at top ended
  obtain rfl := (List.cons.inj top).2
  exact ⟨u, inbox, inner, ended, behind⟩

/-- No message ends where none is open, and none begins without its start tag. -/
theorem step_of_quiet {path next : Path} {token : Token} {node : Node}
    (read : nodeOf path token = .ok (node, next))
    (quiet : token ≠ .opening messageName) (done : List ReceivedMessage) :
    Reading.step ⟨path, ⟨none, done⟩⟩ token = .ok ⟨next, ⟨none, done⟩⟩ := by
  refine step_of_node read ?_
  cases node with
  | text inside content => rfl
  | closed inside => simp only [Inbox.step, Option.map_none, ite_self]
  | opened inside =>
    obtain ⟨name, rfl, rfl⟩ := nodeOf_eq_opened read
    have elsewhere : ¬ endsWith messageElement (name :: path) = true := by
      rw [endsWith_messageElement]
      exact fun both => quiet (by rw [both.1])
    rw [Inbox.step, if_neg elsewhere]

/-- Tokens without the start tag of a message change the open elements only. -/
theorem run_of_leads {path next : Path} (leads : Leads path tokens next)
    (quiet : .opening messageName ∉ tokens)
    (done : List ReceivedMessage) :
    Reading.run ⟨path, ⟨none, done⟩⟩ tokens = .ok ⟨next, ⟨none, done⟩⟩ := by
  induction tokens generalizing path with
  | nil =>
    cases leads
    rfl
  | cons token rest ih =>
    rw [List.mem_cons, not_or] at quiet
    rw [Leads, List.foldlM_cons] at leads
    cases read : nodeOf path token with
    | error fault =>
      rw [read] at leads
      cases leads
    | ok both =>
      rw [read] at leads
      rw [run_cons, step_of_quiet read (Ne.symm quiet.1)]
      exact ih leads quiet.2

theorem leads_of_run (taken : r.run tokens = .ok s) : Leads r.path tokens s.path := by
  induction tokens generalizing r with
  | nil =>
    cases taken
    rfl
  | cons token rest ih =>
    obtain ⟨t, first, behind⟩ := run_cons_inv taken
    obtain ⟨node, read, -⟩ := step_inv first
    rw [Leads, List.foldlM_cons, read]
    exact ih behind

theorem inbox_of_quiet {path : Path} {done : List ReceivedMessage}
    (quiet : .opening messageName ∉ tokens)
    (taken : Reading.run ⟨path, ⟨none, done⟩⟩ tokens = .ok s) : s.inbox = ⟨none, done⟩ := by
  have same := run_of_leads (leads_of_run taken) quiet done
  exact congrArg Reading.inbox (Except.ok.inj (taken.symm.trans same))

/-- Inside an element of another name than that of the result, messages neither begin nor end. -/
theorem inside_of_nested (nested : Nested tokens) (single : .opening resultName ∉ tokens)
    (apart : r.path.head? ≠ some resultName) (taken : r.run tokens = .ok s) :
    s.inbox.done = r.inbox.done ∧ s.inbox.draft.isSome = r.inbox.draft.isSome := by
  induction nested generalizing r s with
  | nil =>
    cases taken
    exact ⟨rfl, rfl⟩
  | text _ ih =>
    obtain ⟨t, first, behind⟩ := run_cons_inv taken
    obtain ⟨content, rfl⟩ := step_text_inv first
    have kept := ih (fun member => single (List.mem_cons_of_mem _ member)) (by exact apart) behind
    exact ⟨kept.1, kept.2.trans Option.isSome_map⟩
  | verbatim _ ih =>
    obtain ⟨t, first, behind⟩ := run_cons_inv taken
    cases first
    have kept := ih (fun member => single (List.mem_cons_of_mem _ member)) (by exact apart) behind
    exact ⟨kept.1, kept.2.trans Option.isSome_map⟩
  | @element name inside rest nested _ within ih =>
    simp only [List.mem_cons, List.mem_append, not_or] at single
    obtain ⟨own, inner, -, outer⟩ := single
    have outside : endsWith messageElement (name :: r.path) = false := by
      rw [← Bool.not_eq_true, endsWith_messageElement]
      exact fun both => apart both.2
    have other : (name :: r.path).head? ≠ some resultName :=
      fun same => own (by rw [← Option.some.inj same])
    obtain ⟨t, i, taken, ended, behind⟩ := run_element_inv nested taken
    rw [outside, if_neg Bool.false_ne_true] at taken
    have first := within inner other taken
    have last := Inbox.step_closed_of_inside outside ended
    have later := ih outer (by exact apart) behind
    exact ⟨later.1.trans (last.1.trans first.1), later.2.trans (last.2.trans first.2)⟩

/-- An element of a message hands out one message, and any other element of a result hands out
none. -/
theorem element_inv {outer : Path} {done : List ReceivedMessage} (nested : Nested inside)
    (single : .opening resultName ∉ .opening name :: inside)
    (taken : Reading.run ⟨resultName :: outer, ⟨none, done⟩⟩
      (.opening name :: (inside ++ .closing name :: rest)) =
      .ok s) :
    ∃ fresh, Reading.run ⟨resultName :: outer, ⟨none, fresh ++ done⟩⟩ rest = .ok s ∧
      fresh.length = if name = messageName then 1 else 0 := by
  rw [List.mem_cons, not_or] at single
  obtain ⟨own, inner⟩ := single
  have other : (name :: resultName :: outer).head? ≠ some resultName :=
    fun same => own (by rw [← Option.some.inj same])
  obtain ⟨⟨path, draft, new⟩, i, taken, ended, behind⟩ := run_element_inv nested taken
  have kept := inside_of_nested nested inner other taken
  by_cases message : name = messageName
  · have stands : endsWith messageElement (name :: resultName :: outer) = true :=
      (endsWith_messageElement _ _).mpr ⟨message, rfl⟩
    rw [if_pos stands] at kept
    cases draft with
    | none => cases kept.2
    | some d =>
      obtain rfl : new = done := kept.1
      rw [Inbox.step, if_pos stands] at ended
      simp only at ended
      split at ended
      next m _ =>
        cases ended
        exact ⟨[m], behind, by rw [if_pos message]; rfl⟩
      next => cases ended
  · have stands : endsWith messageElement (name :: resultName :: outer) = false := by
      rw [← Bool.not_eq_true, endsWith_messageElement]
      exact fun both => message both.1
    rw [stands, if_neg Bool.false_ne_true] at kept
    have last := Inbox.step_closed_of_inside stands ended
    obtain ⟨shut, all⟩ := i
    obtain rfl : all = done := last.1.trans kept.1
    obtain rfl : shut = none :=
      Option.isSome_eq_false_iff.mp (last.2.trans kept.2) |> Option.isNone_iff_eq_none.mp
    exact ⟨[], behind, by rw [if_neg message]; rfl⟩

/-- Behind nested tokens that stand in a result no message is open, as in front of them. -/
theorem shut_of_nested {outer : Path} {done : List ReceivedMessage} (nested : Nested tokens)
    (single : .opening resultName ∉ tokens)
    (taken : Reading.run ⟨resultName :: outer, ⟨none, done⟩⟩ tokens = .ok s) :
    s.inbox.draft = none := by
  induction nested generalizing done with
  | nil =>
    cases taken
    rfl
  | text _ ih =>
    obtain ⟨t, first, behind⟩ := run_cons_inv taken
    obtain ⟨content, rfl⟩ := step_text_inv first
    exact ih (fun member => single (List.mem_cons_of_mem _ member)) behind
  | verbatim _ ih => exact ih (fun member => single (List.mem_cons_of_mem _ member)) taken
  | @element name inside rest nested _ _ ih =>
    have within : .opening resultName ∉ .opening name :: inside := by
      intro member
      rw [← List.cons_append] at single
      exact single (List.mem_append_left _ member)
    obtain ⟨fresh, behind, -⟩ := element_inv nested within taken
    refine ih (fun member => single ?_) behind
    exact List.mem_cons_of_mem _ (List.mem_append_right _ (List.mem_cons_of_mem _ member))

end Reading

/-! ## Pieces of a result -/

/-- A part of what stands in the result of an answer.  Every element that begins in it ends in it,
and none of them is the result of an answer again. -/
structure Piece where
  text : List Char
  tokens : List Token
  scanned : pass (.text []) text = (.text [], tokens)
  nested : Nested tokens
  single : .opening resultName ∉ tokens

namespace Piece

/-- The piece is the element of a message, perhaps among other things.  The element has a start tag
and an end tag: one that is closed in its own tag is passed over by readers, and hands out
nothing. -/
def IsMessage (p : Piece) : Prop :=
  ∃ before inside behind,
    p.tokens = before ++ .opening messageName :: (inside ++ .closing messageName :: behind) ∧
    Nested before ∧ Nested inside ∧ .opening messageName ∉ before ++ behind

/-- Pieces one behind the other. -/
def ofList : List Piece → Piece
  | [] => ⟨[], [], rfl, .nil, List.not_mem_nil⟩
  | p :: pieces =>
    let rest := ofList pieces
    { text := p.text ++ rest.text
      tokens := p.tokens ++ rest.tokens
      scanned := by rw [pass_append, p.scanned, rest.scanned]
      nested := p.nested.append rest.nested
      single := fun member => (List.mem_append.mp member).elim p.single rest.single }

theorem text_ofList (pieces : List Piece) : (ofList pieces).text = pieces.flatMap text := by
  induction pieces with
  | nil => rfl
  | cons p pieces ih => rw [List.flatMap_cons, ← ih]; rfl

theorem tokens_ofList (pieces : List Piece) : (ofList pieces).tokens = pieces.flatMap tokens := by
  induction pieces with
  | nil => rfl
  | cons p pieces ih => rw [List.flatMap_cons, ← ih]; rfl

/-- Where a reading is when the result of an answer has just begun. -/
def fresh : Reading := ⟨resultPath, ⟨none, []⟩⟩

/-- The messages that are handed out where only this piece stands in the result. -/
def outcome (p : Piece) : Except ExchangeFailure (List ReceivedMessage) :=
  (fresh.run p.tokens).map Reading.messages

/-- A piece adds messages to those that have ended, and leaves nothing else behind. -/
theorem run_fresh (p : Piece) {s : Reading} (taken : fresh.run p.tokens = .ok s) :
    s = fresh.after s.inbox.done := by
  have path : s.path = resultPath := Reading.path_of_nested p.nested taken
  have shut : s.inbox.draft = none := Reading.shut_of_nested p.nested p.single taken
  obtain ⟨_, _, done⟩ := s
  cases path
  cases shut
  rfl

/-- Each piece is read as if it were alone, up to the first that cannot be read. -/
theorem outcome_ofList (pieces : List Piece) :
    (ofList pieces).outcome = (pieces.mapM outcome).map List.flatten := by
  rw [outcome, tokens_ofList]
  induction pieces with
  | nil => rfl
  | cons p pieces ih =>
    rw [List.flatMap_cons, Reading.run_append, List.mapM_cons]
    cases own : fresh.run p.tokens with
    | error e =>
      rw [outcome, own]
      rfl
    | ok s =>
      have later : (s.run (pieces.flatMap Piece.tokens)).map Reading.messages =
          ((fresh.run (pieces.flatMap Piece.tokens)).map Reading.messages).map
            (s.messages ++ ·) := by
        rw [p.run_fresh own, Reading.run_after]
        cases fresh.run (pieces.flatMap Piece.tokens) with
        | error e => rfl
        | ok t => simp [Except.map, Reading.messages, Reading.after, fresh]
      rw [outcome, own]
      show (s.run _).map _ = _
      rw [later, ih]
      cases pieces.mapM outcome <;> rfl

/-- The element of a message hands out one message, if it is read. -/
theorem length_of_isMessage {p : Piece} (message : p.IsMessage) {messages : List ReceivedMessage}
    (read : p.outcome = .ok messages) : messages.length = 1 := by
  obtain ⟨before, inside, behind, tokens, nestedBefore, nested, quiet⟩ := message
  rw [List.mem_append, not_or] at quiet
  have single := p.single
  rw [outcome, tokens] at read
  rw [tokens, List.mem_append, ← List.cons_append, List.mem_append, not_or, not_or] at single
  cases taken : fresh.run
      (before ++ .opening messageName :: (inside ++ .closing messageName :: behind)) with
  | error e =>
    rw [taken] at read
    cases read
  | ok s =>
    rw [taken] at read
    cases read
    obtain ⟨⟨path, inbox⟩, first, taken⟩ := Reading.run_append_inv taken
    obtain rfl : path = resultPath := Reading.path_of_nested nestedBefore first
    obtain rfl : inbox = ⟨none, []⟩ := Reading.inbox_of_quiet quiet.1 first
    obtain ⟨handed, taken, counted⟩ := Reading.element_inv nested single.2.1 taken
    rw [Reading.messages, Reading.inbox_of_quiet quiet.2 taken, List.length_reverse,
      List.append_nil, counted, if_pos rfl]

end Piece

/-! ## Elements as pieces -/

theorem nested_spelled (s : Spelled) {rest : List Token} (behind : Nested rest) :
    Nested (s.tokens ++ rest) := by
  unfold Spelled.tokens pending
  split
  next => exact behind
  next => exact .text behind

theorem nested_tokens (c : Content) : Nested c.tokens := by
  induction c with
  | text last =>
    have nested := nested_spelled last .nil
    rwa [List.append_nil] at nested
  | aside before piece rest ih => exact nested_spelled before ih
  | closed before tag rest ih => exact nested_spelled before ih
  | element before tag inside gap rest within ih => exact nested_spelled before (.element within ih)

/-- The characters of an element bring the scanner back to where it was. -/
theorem pass_element (tag : Tag) (inside : Content) (gap : Blanks) :
    pass (.text []) (tag.opening ++ inside.write ++ tag.ending gap) =
      (.text [], .opening tag.name :: (inside.tokens ++ [.closing tag.name])) := by
  obtain ⟨done, before, within, complete⟩ := inside.scan_write [.opening tag.name]
  have scanned : (tag.opening ++ inside.write ++ tag.ending gap).foldl Scan.step ⟨.text [], []⟩ =
      ⟨.text [], .closing tag.name :: (inside.tokens.reverse ++ [.opening tag.name])⟩ := by
    rw [List.foldl_append, List.foldl_append, tag.foldl_opening, ← complete, ← tag.foldl_ending,
      ← within]
    rfl
  rw [foldl_step, List.append_nil, Scan.mk.injEq] at scanned
  refine Prod.ext scanned.1 (List.reverse_injective (scanned.2.trans ?_))
  simp

/-- An element, as it is written, is a piece. -/
def Piece.ofElement (tag : Tag) (inside : Content) (gap : Blanks)
    (single : .opening resultName ∉ .opening tag.name :: inside.tokens) : Piece where
  text := tag.opening ++ inside.write ++ tag.ending gap
  tokens := .opening tag.name :: (inside.tokens ++ [.closing tag.name])
  scanned := pass_element tag inside gap
  nested := .element (nested_tokens inside) .nil
  single := by
    rw [← List.cons_append, List.mem_append, not_or]
    exact ⟨single, by simp⟩

/-! ## Answers around pieces -/

/-- What stands in front of and behind the content of the result of an answer.  No message is in
it. -/
structure Envelope where
  front : List Char
  back : List Char
  opening : List Token
  closing : List Token
  /-- The elements that are open in the end. -/
  left : Path
  scannedFront : pass (.text []) (withoutMark front) = (.text [], opening)
  scannedBack : tokensFrom (.text []) back = closing
  complete : (finish (pass (.text []) back).1).2 = none
  opens : Leads [] opening resultPath
  closes : Leads resultPath closing left
  quiet : .opening messageName ∉ opening ++ closing

namespace Envelope

/-- The answer in whose result a text stands. -/
def around (e : Envelope) (text : List Char) : String := String.ofList (e.front ++ text ++ e.back)

theorem tokens_around (e : Envelope) {text : List Char} {found : List Token}
    (scanned : pass (.text []) text = (.text [], found)) :
    tokens (e.around text).toList = (e.opening ++ (found ++ e.closing), none) := by
  have filled : e.front ≠ [] := by
    intro empty
    have opening := e.scannedFront
    rw [empty] at opening
    have opens := e.opens
    rw [← (Prod.mk.inj opening).2] at opens
    cases opens
  rw [around, String.toList_ofList, tokens_eq, List.append_assoc, withoutMark_append filled]
  have behind : (pass (.text []) (withoutMark e.front ++ (text ++ e.back))).1 =
      (pass (.text []) e.back).1 := by
    rw [pass_append, e.scannedFront, pass_append, scanned]
  rw [behind, tokensFrom_append, e.scannedFront, tokensFrom_append, scanned, e.scannedBack,
    e.complete]

/-- What stands around a piece changes nothing. -/
theorem received_around (e : Envelope) (p : Piece) : received (e.around p.text) = p.outcome := by
  have quiet := e.quiet
  rw [List.mem_append, not_or] at quiet
  have begun : Reading.start.run (e.opening ++ (p.tokens ++ e.closing)) =
      (Piece.fresh.run p.tokens).bind fun s =>
      s.run e.closing := by
    rw [← Reading.run_append]
    exact Reading.run_append_of_ok (Reading.run_of_leads e.opens quiet.1 []) _
  rw [received_eq, e.tokens_around p.scanned]
  simp only [begun]
  rw [Piece.outcome]
  cases taken : Piece.fresh.run p.tokens with
  | error failure => rfl
  | ok s =>
    have ended : s.run e.closing = .ok ⟨e.left, s.inbox⟩ := by
      rw [p.run_fresh taken]
      exact Reading.run_of_leads e.closes quiet.2 _
    show (s.run e.closing).bind _ = _
    rw [ended]
    rfl

end Envelope

/-! ## Messages that are handed out -/

theorem Draft.messageId_of_toMessage {d : Draft} {m : ReceivedMessage}
    (complete : d.toMessage = .ok m) :
    ∀ id ∈ m.messageId, id.text ≠ "" := by
  unfold toMessage at complete
  split at complete
  next => cases complete
  next =>
    split at complete
    next => cases complete
    next =>
      cases complete
      intro id member
      obtain ⟨text, -, parsed⟩ := Option.bind_eq_some_iff.mp member
      unfold MessageId.parse at parsed
      split at parsed
      next => cases parsed
      next filled =>
        cases parsed
        exact filled

/-- No message that is handed out has an empty identifier. -/
theorem messageId_of_received {document : String} {messages : List ReceivedMessage}
    (read : received document = .ok messages) :
    ∀ m ∈ messages, ∀ id ∈ m.messageId, id.text ≠ "" := by
  obtain ⟨-, r, taken, rfl⟩ := received_eq_ok_iff.mp read
  intro m member
  exact Reading.forall_done (fun d m => Draft.messageId_of_toMessage) taken nofun m
    (List.mem_reverse.mp member)

/-- Of so many pieces with a message each, so many messages are handed out. -/
theorem length_of_mapM {pieces : List Piece} (elements : ∀ p ∈ pieces, p.IsMessage)
    {batches : List (List ReceivedMessage)} (read : pieces.mapM Piece.outcome = .ok batches) :
    batches.flatten.length = pieces.length := by
  induction pieces generalizing batches with
  | nil =>
    cases read
    rfl
  | cons p pieces ih =>
    obtain ⟨message, others⟩ := List.forall_mem_cons.mp elements
    rw [List.mapM_cons] at read
    cases first : p.outcome with
    | error e =>
      rw [first] at read
      cases read
    | ok own =>
      cases rest : pieces.mapM Piece.outcome with
      | error e =>
        rw [first, rest] at read
        cases read
      | ok more =>
        rw [first, rest] at read
        cases read
        rw [List.flatten_cons, List.length_append, Piece.length_of_isMessage message first,
          ih others rest, List.length_cons, Nat.add_comm]

/-- What stands in the result of an answer is read piece by piece, as if each of them were alone,
and as far as this goes: either all of them can be read, and all of their messages are handed out in
order, or the answer fails as the first piece does that fails alone.  A piece that is the element of
a message hands out one.  Every message has a receipt handle, and an identifier that is not empty if
there is one. -/
theorem pieces_independent (e : Envelope) (pieces : List Piece) :
    received (e.around (pieces.flatMap Piece.text)) =
        (pieces.mapM fun p => received (e.around p.text)).map List.flatten ∧
      (∀ p ∈ pieces, p.IsMessage → ∀ messages, received (e.around
        p.text) = .ok messages → messages.length = 1) ∧
      (∀ messages, received (e.around (pieces.flatMap Piece.text)) = .ok messages →
        ((∀ p ∈ pieces, p.IsMessage) → messages.length = pieces.length) ∧
        ∀ m ∈ messages, m.receiptHandle.text ≠ "" ∧ ∀ id ∈ m.messageId, id.text ≠ "") := by
  have whole : received (e.around (pieces.flatMap Piece.text)) =
      (pieces.mapM Piece.outcome).map List.flatten := by
    rw [← Piece.text_ofList, e.received_around, Piece.outcome_ofList]
  have alone : (fun p : Piece => received (e.around p.text)) = Piece.outcome :=
    funext e.received_around
  refine ⟨by rw [whole, alone],
    fun p _ message messages read => ?_, fun messages read => ⟨fun elements => ?_, ?_⟩⟩
  · rw [e.received_around] at read
    exact Piece.length_of_isMessage message read
  · rw [whole] at read
    cases batches : pieces.mapM Piece.outcome with
    | error failure =>
      rw [batches] at read
      cases read
    | ok lists =>
      rw [batches] at read
      cases read
      exact length_of_mapM elements batches
  · exact fun m member => ⟨m.receiptHandle.nonempty, messageId_of_received read m member⟩

/-- A result in a response with a declaration in front of it, and with blanks and another element
behind it. -/
def noted : Envelope where
  front :=
    "<?xml version='1.0'?>\n<ReceiveMessageResponse xmlns='queue'><ReceiveMessageResult>".toList
  back := "\n</ReceiveMessageResult><ResponseMetadata/></ReceiveMessageResponse>".toList
  opening := [.text ['\n'], .opening "ReceiveMessageResponse".toList, .opening resultName]
  closing := [.text ['\n'], .closing resultName, .closing "ReceiveMessageResponse".toList]
  left := []
  scannedFront := by decide +kernel
  scannedBack := by decide +kernel
  complete := by decide +kernel
  opens := rfl
  closes := rfl
  quiet := by decide

/-- The element of a message with the handle `r` and the body `c`. -/
def filledElement : Piece :=
  .ofElement tagMessage
    (handleThen (elementOf tagBody (.text (plainly ['c'] (by decide))) (.text [])))
    ⟨[' '], List.forall_mem_singleton.mpr rfl⟩ (by decide)

/-- The element of a message with the handle `r` and without a body. -/
def handleElement : Piece :=
  .ofElement tagMessage (handleThen (.text [])) ⟨[' '], List.forall_mem_singleton.mpr rfl⟩
    (by decide)

theorem pieces_independent_of_two :
    let pieces := [filledElement, handleElement]
    let messages := [bareMessage "c", bareMessage ""]
    (∀ p ∈ pieces, p.IsMessage) ∧
      received (noted.around filledElement.text) = .ok [bareMessage "c"] ∧
      [bareMessage "c"].length = 1 ∧
      received (noted.around (pieces.flatMap Piece.text)) = .ok messages ∧
      messages.length = pieces.length ∧
      ∀ m ∈ messages, m.receiptHandle.text ≠ "" ∧ ∀ id ∈ m.messageId, id.text ≠ "" := by
  intro pieces messages
  have filled : filledElement.IsMessage := ⟨[], _, [], rfl, .nil, nested_tokens _, List.not_mem_nil⟩
  have handle : handleElement.IsMessage := ⟨[], _, [], rfl, .nil, nested_tokens _, List.not_mem_nil⟩
  have elements : ∀ p ∈ pieces, p.IsMessage :=
    List.forall_mem_cons.mpr ⟨filled, List.forall_mem_singleton.mpr handle⟩
  have first : received (noted.around filledElement.text) = .ok [bareMessage "c"] :=
    (noted.received_around filledElement).trans rfl
  have second : received (noted.around handleElement.text) = .ok [bareMessage ""] :=
    (noted.received_around handleElement).trans rfl
  obtain ⟨whole, alone, all⟩ := pieces_independent noted pieces
  have read : received (noted.around (pieces.flatMap Piece.text)) = .ok messages := by
    rw [whole]
    simp only [pieces, List.mapM_cons, List.mapM_nil, first, second]
    rfl
  exact ⟨elements, first, alone filledElement List.mem_cons_self filled _ first, read,
    (all messages read).1 elements, (all messages read).2⟩

end MessageQueue.Answer
