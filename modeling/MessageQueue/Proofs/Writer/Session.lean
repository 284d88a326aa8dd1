import MessageQueue.Writer

/-!
# The session of a writer

A session is a writer with all that was ever asked of it.  Each call has a number, by order, and a
standing: a change is over at once, and a close may have to wait for the answer of the queue.
Between the two halves of a close anything may happen to the session, and an answer to a call that
does not wait for one changes nothing.

A session goes through two phases.  While its writer is open, the writer holds just what the changes
made of it (`Session.run_open`).  The first close ends this, and from then on the session changes
only in one way: the close gets its answer (`Session.run_closed`).
-/

namespace MessageQueue.Writer

/-! ## Sessions -/

/-- A change that is asked of a writer. -/
inductive Change where
  | write (data : Bytes)
  /-- The octets are written to a stream that ends in the writer. -/
  | writeAll (data : Bytes)
  | setAttribute (name value : String)
  | addAttribute (name value : String)
  | setDelay (delay : Span)

/-- Makes a change. -/
def Change.apply (w : Writer) : Change → Except WriterError Writer
  | .write data => w.write data
  | .writeAll data => w.writeAll data
  | .setAttribute name value => w.setAttribute name value
  | .addAttribute name value => w.addAttribute name value
  | .setDelay delay => w.setDelay delay

/-- What happens to a session. -/
inductive Event where
  | change (change : Change)
  /-- A close begins. -/
  | close
  /-- The queue answers a call. -/
  | answer (call : Nat) (answer : Except QueueError MessageId)

/-- How a call stands. -/
inductive Standing where
  | changed (result : Except WriterError Unit)
  /-- A close waits for the answer of the queue. -/
  | sending
  | closed (result : Except WriterError MessageId)

/-- A writer with all that was asked of it. -/
structure Session where
  writer : Writer
  /-- The calls, in order. -/
  calls : List Standing

namespace Session

/-- A session in which nothing was asked. -/
def new (t : Topic) : Session := ⟨t.writer, []⟩

/-- A change is asked for. -/
def change (s : Session) (c : Change) : Session :=
  match c.apply s.writer with
  | .ok w => ⟨w, s.calls ++ [.changed (.ok ())]⟩
  | .error e => { s with calls := s.calls ++ [.changed (.error e)] }

/-- A close begins.  What it sends comes along. -/
def close (s : Session) : Session × List SendRequest :=
  match s.writer.beginClose with
  | .error e => ({ s with calls := s.calls ++ [.closed (.error e)] }, [])
  | .ok (w, .error e) => (⟨w, s.calls ++ [.closed (.error (.serialization e))]⟩, [])
  | .ok (w, .ok request) => (⟨w, s.calls ++ [.sending]⟩, [request])

/-- The queue answers a call. -/
def answer (s : Session) (call : Nat) (answer : Except QueueError MessageId) : Session :=
  match s.calls[call]? with
  | some .sending => { s with calls := s.calls.set call (.closed (endClose answer)) }
  | _ => s

/-- What one event does, and what is sent. -/
def step (s : Session) : Event → Session × List SendRequest
  | .change c => (s.change c, [])
  | .close => s.close
  | .answer call answer => (s.answer call answer, [])

/-- What events do one after another, with all that is sent. -/
def run (s : Session) : List Event → Session × List SendRequest
  | [] => (s, [])
  | event :: events =>
    let (next, sent) := s.step event
    let (last, more) := next.run events
    (last, sent ++ more)

/-- A close whose halves follow one another is a close of the writer. -/
theorem close_undisturbed {m : Type → Type} [Monad m] [LawfulMonad m] (queue : QueueService m)
    (s : Session) :
    (do
      let (w, result) ← s.writer.close queue
      return (⟨w, s.calls ++ [.closed result]⟩ : Session)) =
    match s.close with
    | (next, request :: _) => do return next.answer s.calls.length (← queue.send request)
    | (next, []) => pure next := by
  unfold Session.close Writer.close
  cases s.writer.beginClose with
  | error e => simp
  | ok begun =>
    obtain ⟨w, request | request⟩ := begun
    · simp
    · simp [answer]

end Session

/-! ## What changes make of a writer -/

/-- The octets that a change writes. -/
def Change.data : Change → Bytes
  | .write data => data
  | .writeAll data => data
  | _ => []

/-- What a change makes of the attributes. -/
def Change.annotate (a : Attributes) : Change → Attributes
  | .setAttribute name value => a.set name value
  | .addAttribute name value => a.add name value
  | _ => a

/-- The delay that a change asks for. -/
def Change.delay? : Change → Option Span
  | .setDelay delay => some delay
  | _ => none

/-- All that is written, in order. -/
def written (changes : List Change) : Bytes := changes.flatMap Change.data

/-- The attributes that changes make of none. -/
def annotated (changes : List Change) : Attributes := changes.foldl Change.annotate .empty

/-- The delay that is asked for last. -/
def lastDelay? (changes : List Change) : Option Span := (changes.filterMap Change.delay?).getLast?

/-- The writer with what changes make of it. -/
def collect (w : Writer) (changes : List Change) : Writer :=
  { w with
    buffer := w.buffer ++ written changes
    attributes := changes.foldl Change.annotate w.attributes
    delay :=
      (lastDelay? changes).elim w.delay fun d => .ofSeconds (d.secondsWithin maxDelaySeconds) }

theorem lastDelay?_cons (c : Change) (changes : List Change) :
    lastDelay? (c :: changes) = (lastDelay? changes).or c.delay? := by
  rw [← List.singleton_append]
  simp only [lastDelay?, List.filterMap_append, List.getLast?_append]
  congr 1
  cases c <;> rfl

theorem collect_nil (w : Writer) : w.collect [] = w := by simp [collect, written, lastDelay?]

theorem collect_singleton (w : Writer) (c : Change) :
    w.collect [c] =
      { w with
        buffer := w.buffer ++ c.data
        attributes := c.annotate w.attributes
        delay := c.delay?.elim w.delay fun d => .ofSeconds (d.secondsWithin maxDelaySeconds) } := by
  simp only [collect, written, lastDelay?_cons, List.flatMap_singleton, List.foldl_cons,
    List.foldl_nil]
  rfl

theorem collect_cons (w : Writer) (c : Change) (changes : List Change) :
    w.collect (c :: changes) = (w.collect [c]).collect changes := by
  simp only [collect_singleton]
  simp only [collect, written, lastDelay?_cons, List.flatMap_cons, List.append_assoc,
    List.foldl_cons]
  cases lastDelay? changes <;> rfl

theorem whileOpen_of_open {w : Writer} (isOpen : w.closed = false) (change : Writer → Writer) :
    w.whileOpen change = .ok (change w) := by simp [whileOpen, isOpen]

theorem whileOpen_of_closed {w : Writer} (closed : w.closed = true) (change : Writer → Writer) :
    w.whileOpen change = .error .closed := by simp [whileOpen, closed]

/-- An open writer makes every change. -/
theorem Change.apply_of_open {w : Writer} (isOpen : w.closed = false) (c : Change) :
    c.apply w = .ok (w.collect [c]) := by
  rw [collect_singleton]
  cases c with
  | write data =>
    simp [apply, Writer.write, whileOpen_of_open isOpen, Change.data, annotate, delay?]
  | writeAll data =>
    cases data with
    | nil => simp [apply, Writer.writeAll, Change.data, annotate, delay?]
    | cons =>
      simp [apply, Writer.writeAll, Writer.write, whileOpen_of_open isOpen, Change.data,
        annotate, delay?]
  | setAttribute =>
    simp [apply, Writer.setAttribute, whileOpen_of_open isOpen, Change.data, annotate, delay?]
  | addAttribute =>
    simp [apply, Writer.addAttribute, whileOpen_of_open isOpen, Change.data, annotate, delay?]
  | setDelay =>
    simp [apply, Writer.setDelay, whileOpen_of_open isOpen, Change.data, annotate, delay?]

/-- What a closed writer answers to a change: it refuses.  To write no octets to a stream is no
change. -/
def Change.refusal : Change → Except WriterError Unit
  | .writeAll [] => .ok ()
  | _ => .error .closed

/-- A closed writer makes no change. -/
theorem Change.apply_of_closed {w : Writer} (closed : w.closed = true) (c : Change) :
    c.apply w = c.refusal.map fun _ => w := by
  cases c with
  | write data => simp [apply, Writer.write, whileOpen_of_closed closed, refusal, Except.map]
  | writeAll data =>
    cases data with
    | nil => rfl
    | cons =>
      simp [apply, Writer.writeAll, Writer.write, whileOpen_of_closed closed, refusal, Except.map]
  | setAttribute =>
    simp [apply, Writer.setAttribute, whileOpen_of_closed closed, refusal, Except.map]
  | addAttribute =>
    simp [apply, Writer.addAttribute, whileOpen_of_closed closed, refusal, Except.map]
  | setDelay => simp [apply, Writer.setDelay, whileOpen_of_closed closed, refusal, Except.map]

/-! ## An open session -/

/-- The change that an event asks for. -/
def Event.change? : Event → Option Change
  | .change c => some c
  | _ => none

/-- Whether a close begins. -/
def Event.closes : Event → Bool
  | .close => true
  | _ => false

/-- The changes that are asked for, in order. -/
def changes (events : List Event) : List Change := events.filterMap Event.change?

namespace Session

variable {s : Session} {call : Nat} {answer : Except QueueError MessageId}

theorem answer_of_not_sending (settled : s.calls[call]? ≠ some .sending) :
    s.answer call answer = s := by
  unfold Session.answer
  split
  next sending => exact absurd sending settled
  next => rfl

theorem run_append (s : Session) (earlier later : List Event) :
    s.run (earlier ++ later) =
      (((s.run earlier).1.run later).1, (s.run earlier).2 ++ ((s.run earlier).1.run later).2) := by
  induction earlier generalizing s with
  | nil => rfl
  | cons event earlier ih => simp only [List.cons_append, run, ih, List.append_assoc]

theorem change_of_open (isOpen : s.writer.closed = false) (c : Change) :
    s.change c = ⟨s.writer.collect [c], s.calls ++ [.changed (.ok ())]⟩ := by
  simp only [change, Change.apply_of_open isOpen]

/-- While no close begins an open writer makes all changes, and sends nothing. -/
theorem run_open (isOpen : s.writer.closed = false) (idle : .sending ∉ s.calls)
    (events : List Event) (kept : events.any Event.closes = false) :
    s.run events =
      (⟨s.writer.collect (changes events),
        s.calls ++ (changes events).map fun _ => .changed (.ok ())⟩, []) := by
  induction events generalizing s with
  | nil => simp [run, changes, collect_nil]
  | cons event events ih =>
    rw [List.any_cons, Bool.or_eq_false_iff] at kept
    obtain ⟨notClose, kept⟩ := kept
    cases event with
    | change c =>
      have idle : .sending ∉ s.calls ++ [.changed (.ok ())] := by simpa using idle
      have rest := ih (s := ⟨s.writer.collect [c], s.calls ++ [.changed (.ok ())]⟩) isOpen idle kept
      simp only [run, step, change_of_open isOpen c, rest, ← collect_cons]
      simp [changes, Event.change?]
    | close => cases notClose
    | answer call answer =>
      have settled : s.calls[call]? ≠ some .sending :=
        fun sending => idle (List.mem_of_getElem? sending)
      simp only [run, step, answer_of_not_sending settled]
      rw [ih isOpen idle kept]
      simp [changes, List.filterMap_cons, Event.change?]

end Session

/-! ## A closed session -/

/-- The answer that an event brings to a call. -/
def Event.answer? (call : Nat) : Event → Option (Except QueueError MessageId)
  | .answer other reply => if other = call then some reply else none
  | _ => none

/-- The answer that a call gets, which is the first that is brought to it. -/
def answer? (call : Nat) (events : List Event) : Option (Except QueueError MessageId) :=
  events.findSome? (Event.answer? call)

/-- How a call stands that a closed writer refuses. -/
def Event.refusal? : Event → Option Standing
  | .change c => some (.changed c.refusal)
  | .close => some (.closed (.error .closed))
  | .answer _ _ => none

/-- How a call stands after an answer. -/
def Standing.settle (answer : Option (Except QueueError MessageId)) : Standing → Standing
  | .sending => match answer with
    | some answer => .closed (answer.mapError .send)
    | none => .sending
  | standing => standing

theorem answer?_cons (call : Nat) (event : Event) (events : List Event) :
    answer? call (event :: events) = (event.answer? call).or (answer? call events) := by
  simp only [answer?, List.findSome?_cons]
  cases event.answer? call <;> rfl

theorem Standing.settle_settle (standing : Standing)
    (first second : Option (Except QueueError MessageId)) :
    (standing.settle first).settle second = standing.settle (first.or second) := by
  cases standing <;> cases first <;> rfl

theorem endClose_eq (answer : Except QueueError MessageId) :
    endClose answer = answer.mapError .send := by
  cases answer <;> rfl

namespace Session

variable {s : Session}

theorem change_of_closed (closed : s.writer.closed = true) (c : Change) :
    s.change c = ⟨s.writer, s.calls ++ [.changed c.refusal]⟩ := by
  simp only [change, Change.apply_of_closed closed]
  cases c.refusal <;> rfl

theorem close_of_closed (closed : s.writer.closed = true) :
    s.close = (⟨s.writer, s.calls ++ [.closed (.error .closed)]⟩, []) := by
  simp [Session.close, beginClose, closed]

variable {w : Writer} {front back : List Standing} {first : Standing}

/-- No other call waits. -/
theorem ne_sending_of_ne (early : .sending ∉ front) (late : .sending ∉ back) {call : Nat}
    (other : call ≠ front.length) : (front ++ first :: back)[call]? ≠ some .sending := by
  intro sending
  rcases Nat.lt_or_gt_of_ne other with before | after
  · rw [List.getElem?_append_left before] at sending
    exact early (List.mem_of_getElem? sending)
  · obtain ⟨index, rfl⟩ := Nat.exists_eq_add_of_lt after
    rw [List.getElem?_append_right (by omega), Nat.add_assoc, Nat.add_sub_cancel_left,
      List.getElem?_cons_succ] at sending
    exact late (List.mem_of_getElem? sending)

/-- A closed writer stays as it is and sends nothing. -/
theorem step_of_closed (closed : w.closed = true) (early : .sending ∉ front)
    (late : .sending ∉ back) (event : Event) :
    step ⟨w, front ++ first :: back⟩ event =
      (⟨w, front ++ first.settle (event.answer? front.length) :: (back ++ event.refusal?.toList)⟩,
        []) := by
  cases event with
  | change c =>
    rw [step, change_of_closed closed]
    cases first <;> simp [Event.answer?, Event.refusal?, Standing.settle]
  | close =>
    rw [step, close_of_closed closed]
    cases first <;> simp [Event.answer?, Event.refusal?, Standing.settle]
  | answer call reply =>
    by_cases own : call = front.length
    · subst own
      cases first <;> simp [step, Session.answer, Event.answer?, Event.refusal?, Standing.settle,
        endClose_eq]
    · rw [step, answer_of_not_sending (ne_sending_of_ne early late own)]
      cases first <;> simp [Event.answer?, Event.refusal?, Standing.settle, own]

/-- From now on a close that waits gets the first answer to it, and everything else is refused. -/
theorem run_closed (closed : w.closed = true) (early : .sending ∉ front) (late : .sending ∉ back)
    (events : List Event) :
    run ⟨w, front ++ first :: back⟩ events =
      (⟨w, front ++ first.settle (answer? front.length events) ::
        (back ++ events.filterMap Event.refusal?)⟩, []) := by
  induction events generalizing first back with
  | nil => cases first <;> simp [run, answer?, Standing.settle]
  | cons event events ih =>
    have later : .sending ∉ back ++ event.refusal?.toList := by
      cases event <;> simpa [Event.refusal?] using late
    have refused : (event :: events).filterMap Event.refusal? =
        event.refusal?.toList ++ events.filterMap Event.refusal? := by
      rw [List.filterMap_cons]
      cases event.refusal? <;> rfl
    rw [run, step_of_closed closed early late]
    simp only [ih later, Standing.settle_settle, answer?_cons, refused, List.append_assoc,
      List.nil_append]

end Session

end MessageQueue.Writer
