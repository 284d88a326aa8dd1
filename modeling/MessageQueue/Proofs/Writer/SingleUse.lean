import MessageQueue.Proofs.Writer.Session

/-!
# A writer sends once

Any number of writers of one topic are at work, and what happens to them is mixed in any order.
What happens to one of them is as if it were alone (`Desk.run_alone`), so everything follows from
what a session does.

`single_use` says what that is.  The changes asked for before the first close are made, and the
first close sends what they amount to, if the octets written are the encoding of some text.  After
that nothing is changed and nothing is sent.  The first answer of the queue to that close is also
the answer of the close.
-/

namespace MessageQueue.Writer

/-! ## Many writers -/

/-- What belongs to one of many writers. -/
def ofWriter {α : Type} (writer : Nat) (all : List (Nat × α)) : List α :=
  all.filterMap fun (other, x) => if other = writer then some x else none

section OfWriter

variable {α : Type} (writer : Nat)

@[simp] theorem ofWriter_nil : ofWriter writer ([] : List (Nat × α)) = [] := rfl

theorem ofWriter_cons (other : Nat) (x : α) (all : List (Nat × α)) :
    ofWriter writer ((other, x) :: all) =
      if other = writer then x :: ofWriter writer all else ofWriter writer all := by
  simp only [ofWriter, List.filterMap_cons]
  split <;> simp_all

theorem ofWriter_append (earlier later : List (Nat × α)) :
    ofWriter writer (earlier ++ later) = ofWriter writer earlier ++ ofWriter writer later :=
  List.filterMap_append ..

theorem ofWriter_map (other : Nat) (xs : List α) :
    ofWriter writer (xs.map (Prod.mk other)) = if other = writer then xs else [] := by
  simp only [ofWriter, List.filterMap_map, Function.comp_def]
  split <;> simp

end OfWriter

/-- Writers of one topic, by number, and what goes through them. -/
structure Desk where
  sessions : Nat → Session
  /-- All that was sent, with the number of the writer. -/
  sent : List (Nat × SendRequest)

namespace Desk

/-- Writers to which nothing has happened. -/
def new (t : Topic) : Desk := ⟨fun _ => .new t, []⟩

/-- Something happens to a writer. -/
def step (d : Desk) (writer : Nat) (event : Event) : Desk where
  sessions other := if other = writer then ((d.sessions writer).step event).1 else d.sessions other
  sent := d.sent ++ ((d.sessions writer).step event).2.map (Prod.mk writer)

/-- What happens to writers, one thing after another. -/
def run (d : Desk) : List (Nat × Event) → Desk
  | [] => d
  | (writer, event) :: events => (d.step writer event).run events

/-- What happens to a writer is as if it were alone. -/
theorem run_alone (d : Desk) (events : List (Nat × Event)) (writer : Nat) :
    (d.run events).sessions writer = ((d.sessions writer).run (ofWriter writer events)).1 ∧
      ofWriter writer (d.run events).sent =
        ofWriter writer d.sent ++ ((d.sessions writer).run (ofWriter writer events)).2 := by
  induction events generalizing d with
  | nil => simp [run, Session.run]
  | cons e events ih =>
    obtain ⟨other, event⟩ := e
    obtain ⟨session, sent⟩ := ih (d.step other event)
    by_cases own : other = writer
    · subst own
      simp only [step, if_true, ofWriter_append, ofWriter_map, List.append_assoc] at session sent
      simp only [run, ofWriter_cons, if_true, Session.run]
      exact ⟨session, sent⟩
    · simp only [step, if_neg own, if_neg (Ne.symm own), ofWriter_append, ofWriter_map,
        List.append_nil] at session sent
      simp only [run, ofWriter_cons, if_neg own]
      exact ⟨session, sent⟩

end Desk

/-! ## The first close -/

/-- What happens before the first close. -/
def opening (events : List Event) : List Event := events.takeWhile fun e => !e.closes

/-- What happens after the first close. -/
def aftermath (events : List Event) : List Event := (events.dropWhile fun e => !e.closes).tail

/-- The changes that are asked for before the first close. -/
def asked (events : List Event) : List Change := changes (opening events)

theorem opening_kept (events : List Event) : (opening events).any Event.closes = false := by
  rw [List.any_eq_false]
  intro e member
  simpa using List.all_eq_true.mp List.all_takeWhile e member

theorem opening_of_kept {events : List Event} (kept : events.any Event.closes = false) :
    opening events = events := by
  induction events with
  | nil => rfl
  | cons e events ih =>
    rw [List.any_cons, Bool.or_eq_false_iff] at kept
    simpa [opening, kept.1] using ih kept.2

theorem Event.eq_close {e : Event} (closes : e.closes = true) : e = .close := by
  cases e with
  | close => rfl
  | change => cases closes
  | answer => cases closes

/-- Events among which a close begins are those before the first, the close and those after it. -/
theorem opening_append_aftermath {events : List Event} (closes : events.any Event.closes = true) :
    opening events ++ .close :: aftermath events = events := by
  induction events with
  | nil => cases closes
  | cons e events ih =>
    cases first : e.closes with
    | true =>
      rw [Event.eq_close first]
      rfl
    | false =>
      rw [List.any_cons, first, Bool.false_or] at closes
      simpa [opening, aftermath, first] using ih closes

/-! ## What is sent -/

/-- The whole seconds of the delay that was asked for last, brought within what a queue grants. -/
def delaySeconds (changes : List Change) : Int :=
  match lastDelay? changes with
  | none => 0
  | some d => max 0 (min maxDelaySeconds (d.nanoseconds.tdiv 1000000000))

/-- A request sends what changes make of a new writer. -/
structure Parcel (t : Topic) (changes : List Change) (request : SendRequest) : Prop where
  queueUrl : request.queueUrl = t.queueUrl
  body : Utf8.encode request.body = written changes
  attributes : request.attributes = (annotated changes).toSend
  delay : request.delaySeconds.toNat = delaySeconds changes

section Sending

variable (t : Topic) (changes : List Change)

theorem collect_writer : t.writer.collect changes =
    ⟨t.queueUrl, written changes, annotated changes, .ofSeconds (delaySeconds changes).toNat,
      false⟩ := by
  have delay :
      (lastDelay? changes).elim (⟨0⟩ : Duration)
        (fun d => .ofSeconds (d.secondsWithin maxDelaySeconds)) =
        .ofSeconds (delaySeconds changes).toNat := by
    unfold delaySeconds
    cases lastDelay? changes with
    | none => rfl
    | some d =>
      simp only [Option.elim_some, Span.secondsWithin, Span.seconds]
      congr 1
      omega
  rw [← delay]
  rfl

theorem delaySeconds_bounds :
    0 ≤ delaySeconds changes ∧ delaySeconds changes ≤ maxDelaySeconds := by
  unfold delaySeconds
  split
  · exact ⟨Int.le_refl 0, Int.natCast_nonneg _⟩
  · omega

/-- The octets are those of a text, and are sent. -/
theorem request_of_decoded {body : String} (decoded : Utf8.decode? (written changes) = some body) :
    ∃ request, (t.writer.collect changes).request = .ok request ∧ Parcel t changes request := by
  obtain ⟨nonneg, bound⟩ := delaySeconds_bounds changes
  refine ⟨_, by simp only [request, collect_writer, decoded]; rfl, rfl, ?_, rfl, ?_⟩
  · exact (Utf8.decode?_eq_some_iff _ _).mp decoded
  · have small : (delaySeconds changes).toNat < 2 ^ 32 := by
      simp only [maxDelaySeconds] at bound
      omega
    have whole : (UInt32.ofNat (delaySeconds changes).toNat).toNat = (delaySeconds changes).toNat :=
      UInt32.toNat_ofNat_of_lt' small
    simp only [Duration.seconds_ofSeconds, whole, Int.toNat_of_nonneg nonneg]

theorem request_of_undecoded (undecoded : Utf8.decode? (written changes) = none) :
    (t.writer.collect changes).request = .error .invalidUtf8 := by
  simp [request, collect_writer, undecoded]

end Sending

/-! ## What a session comes to -/

/-- A writer that was closed after changes. -/
def spent (t : Topic) (changes : List Change) : Writer :=
  { t.writer.collect changes with buffer := [], closed := true }

/-- How the calls stand that asked for changes of an open writer. -/
def made (changes : List Change) : List Standing := changes.map fun _ => .changed (.ok ())

theorem sending_not_mem_made (changes : List Change) : .sending ∉ made changes := by simp [made]

namespace Session

variable (t : Topic) {events : List Event}

theorem run_new_of_kept (kept : events.any Event.closes = false) :
    (new t).run events = (⟨t.writer.collect (changes events), made (changes events)⟩, []) :=
  run_open rfl List.not_mem_nil events kept

/-- The first close decides how it stands and what is sent. -/
theorem run_new_of_closes (closes : events.any Event.closes = true) {first : Standing}
    {sent : List SendRequest}
    (decided : close ⟨t.writer.collect (asked events), made (asked events)⟩ =
      (⟨spent t (asked events), made (asked events) ++ [first]⟩, sent)) :
    (new t).run events =
      (⟨spent t (asked events), made (asked events) ++
        first.settle (answer? (asked events).length (aftermath events)) ::
          (aftermath events).filterMap Event.refusal?⟩, sent) := by
  have before : (new t).run (opening events) =
      (⟨t.writer.collect (asked events), made (asked events)⟩, []) :=
    run_new_of_kept t (opening_kept events)
  have length : (made (asked events)).length = (asked events).length := List.length_map _
  have after :
      run ⟨spent t (asked events), made (asked events) ++ [first]⟩ (aftermath events) = _ :=
    run_closed rfl (sending_not_mem_made (asked events)) List.not_mem_nil (aftermath events)
  rw [length, List.nil_append] at after
  calc (new t).run events
      = (new t).run (opening events ++ .close :: aftermath events) := by
        rw [opening_append_aftermath closes]
    _ = _ := by
      simp only [run_append, before, run, step, decided, after, List.nil_append, List.append_nil]

/-- What an open session sends when it is closed, and how the close stands. -/
theorem close_collected (t : Topic) (changes : List Change) (calls : List Standing) :
    close ⟨t.writer.collect changes, calls⟩ =
      match (t.writer.collect changes).request with
      | .error e => (⟨spent t changes, calls ++ [.closed (.error (.serialization e))]⟩, [])
      | .ok request => (⟨spent t changes, calls ++ [.sending]⟩, [request]) := by
  have begun : (t.writer.collect changes).beginClose =
      .ok (spent t changes, (t.writer.collect changes).request) := rfl
  simp only [close, begun]
  cases (t.writer.collect changes).request <;> rfl

end Session

/-! ## One message at most -/

/-- Whatever happens to writers of a topic, in any order and whatever the queue answers, each of
them sends once at most.  It sends if it is closed and the octets written until then are the
encoding of a text; and what it sends is this text, with the attributes and the delay that were
asked for until then.  All changes until then are made and all later ones refused, as is every other
close; to write no octets to a stream is no change.  The first close fails if the octets are no
text.  Otherwise the first answer to it is its own, an error as one of sending. -/
theorem single_use (t : Topic) (events : List (Nat × Event)) (writer : Nat) :
    let desk := (Desk.new t).run events
    let sent := ofWriter writer desk.sent
    let own := ofWriter writer events
    let closed := own.any Event.closes
    sent.length ≤ 1 ∧
      (sent ≠ [] ↔ closed = true ∧ ∃ body, Utf8.encode body = written (asked own)) ∧
      (∀ request ∈ sent, Parcel t (asked own) request) ∧
      (desk.sessions writer).writer =
        (if closed then spent t (asked own) else t.writer.collect (asked own)) ∧
      (desk.sessions writer).calls =
        made (asked own) ++
          if closed then
            Standing.settle (answer? (asked own).length (aftermath own))
              (if sent = [] then .closed (.error (.serialization .invalidUtf8)) else .sending) ::
              (aftermath own).filterMap Event.refusal?
          else [] := by
  intro desk sent own closed
  obtain ⟨session, alone⟩ := Desk.run_alone (.new t) events writer
  have begun : (Desk.new t).sessions writer = .new t := rfl
  have sent_eq : sent = ((Session.new t).run own).2 := by rw [← begun]; exact alone
  have session_eq : desk.sessions writer = ((Session.new t).run own).1 := session
  cases closes : own.any Event.closes with
  | false =>
    have asked_eq : asked own = changes own := by rw [asked, opening_of_kept closes]
    rw [Session.run_new_of_kept t closes, ← asked_eq] at sent_eq session_eq
    simp [sent_eq, session_eq, closed, closes]
  | true =>
    cases decoded : Utf8.decode? (written (asked own)) with
    | none =>
      have decided := Session.close_collected t (asked own) (made (asked own))
      rw [request_of_undecoded t (asked own) decoded] at decided
      rw [Session.run_new_of_closes t closes decided] at sent_eq session_eq
      have foreign := (Utf8.decode?_eq_none_iff _).mp decoded
      simp [sent_eq, session_eq, closed, closes, foreign]
    | some body =>
      obtain ⟨request, posted, parcel⟩ := request_of_decoded t (asked own) decoded
      have decided := Session.close_collected t (asked own) (made (asked own))
      rw [posted] at decided
      rw [Session.run_new_of_closes t closes decided] at sent_eq session_eq
      have text : ∃ body, Utf8.encode body = written (asked own) := ⟨_, parcel.body⟩
      simp [sent_eq, session_eq, closed, closes, text, parcel]

end MessageQueue.Writer
