import MessageQueue.Proofs.Markup.Parts
import MessageQueue.Wire.Answer
import Mathlib.Data.List.Basic

/-!
# Reading an answer token by token

An answer is read by two machines, one behind the other: the first makes nodes of tokens, up to a
fault, and the second puts the nodes into an inbox, up to a message that is not complete.  Each
token gives one node, so the two can take turns (`received_eq`): a reading knows the open elements
and the inbox, and takes one token after another up to the first that cannot be taken.

Nothing that has been read is taken back.  A message that has ended stays in the inbox, behind those
that end later (`Reading.done_suffix`), and what a reading does with a token does not depend on the
messages that have ended (`Reading.run_after`).
-/

namespace MessageQueue.Answer

open MessageQueue.Markup

/-- A node leaves the messages that have ended as they are, or it ends an element and the draft
becomes one of them. -/
theorem Inbox.done_of_step {i j : Inbox} {node : Node} (taken : i.step node = .ok j) :
    j.done = i.done ∨
      ∃ (path : Path) (d : Draft) (m : ReceivedMessage),
        node = .closed path ∧ d.toMessage = .ok m ∧ j.done = m :: i.done := by
  cases node with
  | opened path =>
    rw [← Except.ok.inj taken]
    split <;> exact .inl rfl
  | text path content =>
    rw [← Except.ok.inj taken]
    exact .inl rfl
  | closed path =>
    simp only [step] at taken
    split at taken
    next =>
      cases draft : i.draft with
      | none =>
        rw [draft] at taken
        rw [← Except.ok.inj taken]
        exact .inl rfl
      | some d =>
        rw [draft] at taken
        cases complete : d.toMessage with
        | error e =>
          simp only [complete] at taken
          cases taken
        | ok m =>
          simp only [complete] at taken
          rw [← Except.ok.inj taken]
          exact .inr ⟨path, d, m, rfl, complete, rfl⟩
    next =>
      split at taken
      all_goals
        rw [← Except.ok.inj taken]
        exact .inl rfl

/-- What has been read of an answer: the elements that are open, and the inbox. -/
structure Reading where
  path : Path
  inbox : Inbox

namespace Reading

/-- Takes one token. -/
def step (r : Reading) (token : Token) : Except ExchangeFailure Reading :=
  match nodeOf r.path token with
  | .error fault => .error (.malformed fault.message)
  | .ok (node, path) =>
    match r.inbox.step node with
    | .ok inbox => .ok ⟨path, inbox⟩
    | .error e => .error e

/-- Takes tokens up to the first that cannot be taken. -/
def run (r : Reading) (tokens : List Token) : Except ExchangeFailure Reading := tokens.foldlM step r

/-- Nothing has been read. -/
def start : Reading := ⟨[], ⟨none, []⟩⟩

/-- The messages that have ended, the first one first. -/
def messages (r : Reading) : List ReceivedMessage := r.inbox.done.reverse

/-- What comes of an answer that ends here, perhaps with a fault. -/
def outcome (r : Reading) (fault : Option Fault) : Except ExchangeFailure (List ReceivedMessage) :=
  match fault with
  | some fault => .error (.malformed fault.message)
  | none => .ok r.messages

theorem run_cons (r : Reading) (token : Token) (rest : List Token) :
    r.run (token :: rest) = (r.step token).bind fun s => s.run rest := rfl

theorem run_append (r : Reading) (first next : List Token) :
    r.run (first ++ next) = (r.run first).bind fun s => s.run next := List.foldlM_append

theorem run_append_of_ok {r s : Reading} {first : List Token} (taken : r.run first = .ok s)
    (next : List Token) :
    r.run (first ++ next) = s.run next := by
  rw [run_append, taken]
  rfl

theorem run_append_of_error {r : Reading} {first : List Token} {e : ExchangeFailure}
    (failed : r.run first = .error e) (next : List Token) : r.run (first ++ next) = .error e := by
  rw [run_append, failed]
  rfl

/-- What has been read of the first tokens, if all of them could be read. -/
theorem run_append_inv {r t : Reading} {first next : List Token}
    (taken : r.run (first ++ next) = .ok t) :
    ∃ s, r.run first = .ok s ∧ s.run next = .ok t := by
  cases front : r.run first with
  | error e =>
    rw [run_append_of_error front] at taken
    cases taken
  | ok s => exact ⟨s, rfl, by rwa [run_append_of_ok front] at taken⟩

theorem run_cons_inv {r t : Reading} {token : Token} {rest : List Token}
    (taken : r.run (token :: rest) = .ok t) :
    ∃ s, r.step token = .ok s ∧ s.run rest = .ok t := by
  rw [run_cons] at taken
  cases first : r.step token with
  | error e =>
    rw [first] at taken
    cases taken
  | ok s => exact ⟨s, rfl, by rwa [first] at taken⟩

/-- The two parts of a step. -/
theorem step_inv {r s : Reading} {token : Token} (taken : r.step token = .ok s) :
    ∃ node, nodeOf r.path token = .ok (node, s.path) ∧ r.inbox.step node = .ok s.inbox := by
  unfold step at taken
  split at taken
  next => cases taken
  next node path read =>
    split at taken
    next inbox next =>
      cases taken
      exact ⟨node, read, next⟩
    next => cases taken

/-- A text changes the draft at most. -/
theorem step_text_inv {r s : Reading} {raw : List Char} (taken : r.step (.text raw) = .ok s) :
    ∃ content,
      s = ⟨r.path, { r.inbox with draft := r.inbox.draft.map fun d => d.take r.path content }⟩ := by
  obtain ⟨node, read, next⟩ := step_inv taken
  obtain ⟨path, inbox⟩ := s
  rw [nodeOf] at read
  cases spelled : resolve raw with
  | none =>
    rw [spelled] at read
    cases read
  | some content =>
    rw [spelled] at read
    cases read
    cases next
    exact ⟨content, rfl⟩

/-- An end tag closes the element of its name. -/
theorem step_closing_inv {r s : Reading} {name : List Char}
    (taken : r.step (.closing name) = .ok s) :
    r.path = name :: s.path ∧ r.inbox.step (.closed r.path) = .ok s.inbox := by
  obtain ⟨node, read, next⟩ := step_inv taken
  obtain ⟨path, inbox⟩ := r
  cases path with
  | nil => cases read
  | cons top outer =>
    simp only [nodeOf] at read
    split at read
    next same =>
      cases read
      exact ⟨by rw [same], next⟩
    next => cases read

theorem step_of_node {r : Reading} {token : Token} {node : Node} {path : Path} {inbox : Inbox}
    (read : nodeOf r.path token = .ok (node, path)) (next : r.inbox.step node = .ok inbox) :
    r.step token = .ok ⟨path, inbox⟩ := by
  unfold step
  simp only [read, next]

/-! ## Messages that have ended -/

/-- The same reading, with other messages that have ended before. -/
def after (older : List ReceivedMessage) (r : Reading) : Reading :=
  ⟨r.path, ⟨r.inbox.draft, r.inbox.done ++ older⟩⟩

theorem step_after (older : List ReceivedMessage) (r : Reading) (token : Token) :
    (r.after older).step token = (r.step token).map (after older) := by
  have inbox (node : Node) : Inbox.step (r.after older).inbox node =
      (r.inbox.step node).map fun i => ⟨i.draft, i.done ++ older⟩ := by
    obtain ⟨path, draft, done⟩ := r
    cases node with
    | opened path => simp only [Inbox.step, after]; split <;> rfl
    | text path content => rfl
    | closed path =>
      simp only [Inbox.step, after]
      split
      next =>
        cases draft with
        | none => rfl
        | some d => simp only; cases d.toMessage <;> rfl
      next => split <;> rfl
  unfold step
  show (match nodeOf r.path token with | .error fault => _ | .ok (node, path) => _) = _
  cases nodeOf r.path token with
  | error fault => rfl
  | ok read =>
    obtain ⟨node, path⟩ := read
    simp only [inbox]
    cases r.inbox.step node <;> rfl

/-- What is read does not depend on the messages that have ended before. -/
theorem run_after (older : List ReceivedMessage) (r : Reading) (tokens : List Token) :
    (r.after older).run tokens = (r.run tokens).map (after older) := by
  induction tokens generalizing r with
  | nil => rfl
  | cons token rest ih =>
    rw [run_cons, run_cons, step_after]
    cases r.step token with
    | error e => rfl
    | ok s => exact ih s

/-- Messages that have ended are kept. -/
theorem done_suffix {r s : Reading} {tokens : List Token} (taken : r.run tokens = .ok s) :
    r.inbox.done <:+ s.inbox.done := by
  have apart : r = after r.inbox.done ⟨r.path, ⟨r.inbox.draft, []⟩⟩ := rfl
  rw [apart, run_after] at taken
  cases fresh : Reading.run ⟨r.path, ⟨r.inbox.draft, []⟩⟩ tokens with
  | error e =>
    rw [fresh] at taken
    cases taken
  | ok t =>
    rw [fresh] at taken
    cases taken
    exact List.suffix_append t.inbox.done r.inbox.done

/-- Every message that has ended was a draft. -/
theorem forall_done {Holds : ReceivedMessage → Prop}
    (made : ∀ d : Draft, ∀ m, d.toMessage = .ok m → Holds m)
    {r s : Reading} {tokens : List Token} (taken : r.run tokens = .ok s)
    (before : ∀ m ∈ r.inbox.done, Holds m) :
    ∀ m ∈ s.inbox.done, Holds m := by
  induction tokens generalizing r with
  | nil =>
    cases taken
    exact before
  | cons token rest ih =>
    obtain ⟨t, first, behind⟩ := run_cons_inv taken
    refine ih behind ?_
    obtain ⟨node, -, next⟩ := step_inv first
    rcases Inbox.done_of_step next with kept | ⟨path, d, m, -, complete, added⟩
    · rwa [kept]
    · rw [added]
      exact List.forall_mem_cons.mpr ⟨made d m complete, before⟩

/-! ## Taking turns -/

/-- Reading tokens is reading their nodes; a fault counts behind the nodes in front of it. -/
theorem run_eq (path : Path) (i : Inbox) (tokens : List Token) :
    ((⟨path, i⟩ : Reading).run tokens).map Reading.inbox =
      (i.run (nodesFrom path [] tokens).1).bind fun inbox =>
        match (nodesFrom path [] tokens).2 with
        | some fault => .error (.malformed fault.message)
        | none => .ok inbox := by
  induction tokens generalizing path i with
  | nil => rfl
  | cons token rest ih =>
    rw [run_cons, step, nodesFrom_cons]
    cases nodeOf path token with
    | error fault => rfl
    | ok read =>
      obtain ⟨node, next⟩ := read
      simp only
      rw [nodesFrom_done next [node], List.reverse_singleton, List.singleton_append, Inbox.run]
      cases i.step node with
      | error e => rfl
      | ok inbox => exact ih next inbox

end Reading

/-- An answer is read token by token. -/
theorem received_eq (document : String) :
    received document =
      (Reading.start.run (tokens document.toList).1).bind fun r =>
        r.outcome (tokens document.toList).2 := by
  have turns := Reading.run_eq [] ⟨none, []⟩ (tokens document.toList).1
  unfold received nodes
  generalize tokens document.toList = scanned at turns ⊢
  obtain ⟨found, fault⟩ := scanned
  change (Reading.start.run found).map Reading.inbox = _ at turns
  simp only at turns ⊢
  generalize nodesFrom [] [] found = read at turns ⊢
  obtain ⟨met, stop⟩ := read
  simp only at turns ⊢
  have last : ((Reading.start.run found).bind fun r => r.outcome fault) =
      ((Reading.start.run found).map Reading.inbox).bind fun i =>
        (⟨[], i⟩ : Reading).outcome fault := by
    cases Reading.start.run found <;> rfl
  rw [last, turns]
  cases stop <;> cases Inbox.run ⟨none, []⟩ met <;> cases fault <;> rfl

/-- An answer hands out messages if it is scanned to its end and all of its tokens can be taken. -/
theorem received_eq_ok_iff {document : String} {messages : List ReceivedMessage} :
    received document = .ok messages ↔
      (tokens document.toList).2 = none ∧
        ∃ r, Reading.start.run (tokens document.toList).1 = .ok r ∧ r.messages = messages := by
  rw [received_eq]
  cases Reading.start.run (tokens document.toList).1 with
  | error e => simp [Except.bind]
  | ok r => cases (tokens document.toList).2 <;> simp [Except.bind, Reading.outcome]

end MessageQueue.Answer
