import MessageQueue.Proofs.Consumer.Quiescence

/-!
# What shutdowns do

A shutdown sets `stopping` when it begins, and looks around: at once, and then from time to time
until it ends.  What it comes to is decided by the moment at which it looks (`verdict`).  From its
deadline on it ends, whatever slots are held; before the deadline it ends only if it finds no slot
held and no loop polling.

`step_watched` says what a step can do to the shutdowns: one of them looks around, or they are left
alone.  From this it follows that the two flags tell of the shutdowns.  A consumer is `stopping`
once a shutdown has begun (`run_stopping_iff`), and `givingUp` once a shutdown has ended with slots
held (`Remembered.step`).  Every handler is given the lifetime that `givingUp` ends
(`Recorded.assignment_eq`), so what a handler can see is that a deadline was missed.
-/

namespace MessageQueue.Consumer

variable {c d : Consumer} {input : Input} {effects before : List Effect}
variable {watch other deadline next : Nat} {ending : Ending}

/-! ## What a shutdown finds -/

/-- What a shutdown comes to that looks around, if it ends. -/
def verdict (c : Consumer) (deadline next : Nat) : Option Ending :=
  if deadline ≤ c.now then some (if c.inFlight = 0 then .idle else .overdue c.inFlight)
  else if next ≤ c.now ∧ c.inFlight = 0 ∧ c.polling = false then some .quiet
  else none

theorem verdict_of_late (late : deadline ≤ c.now) (next : Nat) :
    c.verdict deadline next = some (if c.inFlight = 0 then .idle else .overdue c.inFlight) :=
  if_pos late

theorem verdict_of_early (early : c.now < deadline) (next : Nat) :
    c.verdict deadline next =
      if next ≤ c.now ∧ c.inFlight = 0 ∧ c.polling = false then some .quiet else none :=
  if_neg (Nat.not_le.mpr early)

/-- A shutdown that ends well finds no slot held. -/
theorem inFlight_of_verdict (found : c.verdict deadline next = some ending)
    (well : ending.result = .ok .closed) :
    c.inFlight = 0 := by
  by_cases late : deadline ≤ c.now
  · rw [verdict_of_late late] at found
    by_cases idle : c.inFlight = 0
    · exact idle
    · rw [if_neg idle] at found
      cases found
      cases well
  · rw [verdict_of_early (Nat.not_le.mp late)] at found
    split at found
    next quiet => exact quiet.2.1
    next => cases found

/-- A shutdown that runs out of time has reached its deadline, and is told how many slots are
held. -/
theorem late_of_verdict {n : Nat} (found : c.verdict deadline next = some (.overdue n)) :
    deadline ≤ c.now ∧ n = c.inFlight ∧ 1 ≤ n := by
  by_cases late : deadline ≤ c.now
  · rw [verdict_of_late late] at found
    by_cases idle : c.inFlight = 0
    · rw [if_pos idle] at found
      cases found
    · rw [if_neg idle] at found
      cases found
      exact ⟨late, rfl, Nat.pos_of_ne_zero idle⟩
  · rw [verdict_of_early (Nat.not_le.mp late)] at found
    split at found <;> cases found

/-- The effects of a shutdown that ends. -/
def Ending.signs (watch : Nat) : Ending → List Effect
  | .overdue n => [.gaveUp, .watchEnded watch (.overdue n)]
  | ending => [.watchEnded watch ending]

/-- Whether a shutdown ended with slots held. -/
def Ending.late : Ending → Bool
  | .overdue _ => true
  | _ => false

/-- What a look leads to. -/
theorem look_eq_verdict (found : c.watches[watch]? = some (.watching deadline next)) :
    ∃ later, c.look watch deadline next =
      ({ c with
          givingUp := c.givingUp || (c.verdict deadline next).any Ending.late
          watches :=
            c.watches.set watch
              ((c.verdict deadline next).elim (.watching deadline later) .ended) },
        (c.verdict deadline next).elim [] (Ending.signs watch)) := by
  by_cases late : deadline ≤ c.now
  · refine ⟨next, ?_⟩
    rw [look, if_pos late, verdict_of_late late]
    by_cases idle : c.inFlight = 0
    · simp [idle, endWatch, Ending.late, Ending.signs]
    · simp [idle, endWatch, Ending.late, Ending.signs]
  · rw [look, if_neg late, verdict_of_early (Nat.not_le.mp late)]
    by_cases tick : next ≤ c.now
    · by_cases quiet : c.inFlight = 0 ∧ c.polling = false
      · exact ⟨next, by simp [tick, quiet, endWatch, Ending.late, Ending.signs]⟩
      · refine ⟨c.now + c.settings.shutdownPoll.milliseconds, ?_⟩
        rw [if_pos tick, if_neg (by simpa using quiet), if_neg fun found => quiet found.2]
        simp
    · refine ⟨next, ?_⟩
      obtain ⟨present, same⟩ := List.getElem?_eq_some_iff.mp found
      simp [tick, ← same]

/-! ## What a step does to the shutdowns -/

/-- An input makes a shutdown with this deadline look around.  It is a new one, or one that watches.
From the time that comes last it looks for more than its deadline. -/
inductive Looks (c : Consumer) (watch deadline : Nat) : Nat → Input → Prop where
  | first (new : c.watches.length = watch) : Looks c watch deadline c.now (.shutDown deadline)
  | again {next : Nat} (found : c.watches[watch]? = some (.watching deadline next)) :
    Looks c watch deadline next (.look watch)

/-- The shutdowns are left alone. -/
structure Unwatched (c : Consumer) (result : Consumer × List Effect) : Prop where
  watches : result.1.watches = c.watches
  stopping : result.1.stopping = c.stopping
  givingUp : result.1.givingUp = c.givingUp
  quiet : ∀ watch ending, .watchEnded watch ending ∉ result.2

theorem unwatched_of_admissions (admissions : Admissions effects) (watches : d.watches = c.watches)
    (stopping : d.stopping = c.stopping) (givingUp : d.givingUp = c.givingUp) :
    Unwatched c (d, effects) := by
  refine ⟨watches, stopping, givingUp, fun watch ending member => ?_⟩
  obtain ⟨loop, admitted⟩ := admissions _ member
  cases admitted

theorem unwatched_release (c : Consumer) (loop : Nat) (messages : List ReceivedMessage) :
    Unwatched c (c.release loop messages) := by
  cases messages with
  | nil => exact ⟨rfl, rfl, rfl, by simp [release, drain, finishLoop]⟩
  | cons m rest => exact ⟨rfl, rfl, rfl, by simp [release]⟩

theorem unwatched_nextBatch (c : Consumer) (loop : Nat) : Unwatched c (c.nextBatch loop) := by
  unfold nextBatch
  split
  next => exact unwatched_release c loop []
  next => exact ⟨rfl, rfl, rfl, by simp⟩

theorem unwatched_feed (c : Consumer) (loop : Nat) (messages : List ReceivedMessage) :
    Unwatched c (c.feed loop messages) := by
  induction messages generalizing c with
  | nil => exact unwatched_nextBatch c loop
  | cons m rest ih =>
    simp only [feed]
    split
    next gate taken =>
      obtain ⟨watches, stopping, givingUp, quiet⟩ := ih ({ c with gate }.dispatch loop m)
      exact ⟨watches, stopping, givingUp, by simpa using quiet⟩
    next full =>
      split
      next => exact unwatched_release c loop (m :: rest)
      next => exact ⟨rfl, rfl, rfl, by simp⟩

theorem unwatched_takeBatch (c : Consumer) (loop : Nat)
    (batch : Except QueueError (List ReceivedMessage)) :
    Unwatched c (c.takeBatch loop batch) := by
  cases batch with
  | ok messages =>
    obtain ⟨watches, stopping, givingUp, quiet⟩ := unwatched_feed c loop messages
    exact ⟨watches, stopping, givingUp, by simpa [takeBatch] using quiet⟩
  | error e => exact ⟨rfl, rfl, rfl, by simp [takeBatch, finishLoop]⟩

theorem unwatched_resume (c : Consumer) (loop : Nat) (m : ReceivedMessage)
    (rest : List ReceivedMessage) :
    Unwatched c (c.resume loop m rest) := by
  unfold resume
  split
  next =>
    obtain ⟨watches, stopping, givingUp, quiet⟩ :=
      unwatched_release { c with gate := c.gate.leave loop } loop (m :: rest)
    refine ⟨watches, stopping, givingUp, fun watch ending member => ?_⟩
    rcases List.mem_append.mp member with left | released
    · obtain ⟨admitted, same⟩ := admissions_departure c.gate loop _ left
      cases same
    · exact quiet watch ending released
  next =>
    split
    next gate claimed =>
      obtain ⟨watches, stopping, givingUp, quiet⟩ :=
        unwatched_feed ({ c with gate }.dispatch loop m) loop rest
      exact ⟨watches, stopping, givingUp, by simpa using quiet⟩
    next => exact ⟨rfl, rfl, rfl, by simp⟩

theorem unwatched_abandon (c : Consumer) (loop : Nat) (place : Place) :
    Unwatched c (c.abandon loop place) := by
  unfold abandon
  split
  next => exact unwatched_of_admissions (admissions_departure c.gate loop) rfl rfl rfl
  next => exact ⟨rfl, rfl, rfl, by simp⟩

theorem unwatched_free (c : Consumer) (index : Nat) (task : Task) (outcome : Outcome) :
    Unwatched c (c.free index task outcome) := by
  have unwatched : Unwatched c ((c.free index task outcome).1, admission c.gate) :=
    unwatched_of_admissions (admissions_admission c.gate) rfl rfl rfl
  obtain ⟨watches, stopping, givingUp, quiet⟩ := unwatched
  exact ⟨watches, stopping, givingUp, by simpa [free] using quiet⟩

theorem unwatched_finish (c : Consumer) (index : Nat) (task : Task) (outcome : Outcome) :
    Unwatched c (c.finish index task outcome) := by
  unfold finish
  split
  next => exact ⟨rfl, rfl, rfl, by simp⟩
  next =>
    obtain ⟨watches, stopping, givingUp, quiet⟩ := unwatched_free c index task outcome
    exact ⟨watches, stopping, givingUp, by simpa using quiet⟩

/-- The deadline of the shutdown that an input begins. -/
def Input.deadline? : Input → Option Nat
  | .shutDown deadline => some deadline
  | _ => none

/-- In a step a shutdown looks around, or the shutdowns are left alone. -/
theorem step_watched (c : Consumer) (input : Input) :
    (∃ watch deadline next, Looks c watch deadline next input) ∨
      input.deadline? = none ∧ Unwatched c (c.step input) := by
  have unchanged : Unwatched c (c, []) := ⟨rfl, rfl, rfl, by simp⟩
  cases input with
  | serve =>
    obtain ⟨watches, stopping, givingUp, quiet⟩ :=
      unwatched_nextBatch { c with polling := true, loops := c.loops ++ [.receiving] }
        c.loops.length
    exact .inr ⟨rfl, watches, stopping, givingUp, quiet⟩
  | answer loop batch =>
    refine .inr ⟨rfl, ?_⟩
    simp only [step]
    split
    next asked => exact unwatched_takeBatch c loop batch
    next => exact unchanged
  | resume loop =>
    refine .inr ⟨rfl, ?_⟩
    simp only [step]
    split
    next m rest waited => exact unwatched_resume c loop m rest
    next => exact unchanged
  | released loop answer =>
    refine .inr ⟨rfl, ?_⟩
    simp only [step]
    split
    next rest released => exact unwatched_release c loop rest
    next => exact unchanged
  | abandon loop =>
    refine .inr ⟨rfl, ?_⟩
    simp only [step]
    split
    next place found =>
      split
      next working => exact unwatched_abandon c loop place
      next => exact unchanged
    next => exact unchanged
  | start index =>
    refine .inr ⟨rfl, ?_⟩
    simp only [step]
    repeat' split
    all_goals exact ⟨rfl, rfl, rfl, by simp⟩
  | finish index outcome =>
    refine .inr ⟨rfl, ?_⟩
    simp only [step]
    split
    next task found =>
      split
      next handling => exact unwatched_finish c index task outcome
      next => exact unchanged
    next => exact unchanged
  | followed index answer =>
    refine .inr ⟨rfl, ?_⟩
    simp only [step]
    split
    next task found =>
      split
      next outcome following => exact unwatched_free c index task outcome
      next => exact unchanged
    next => exact unchanged
  | shutDown deadline => exact .inl ⟨_, _, _, .first rfl⟩
  | look watch =>
    cases found : c.watches[watch]? with
    | none => exact .inr ⟨rfl, by simpa only [step, found] using unchanged⟩
    | some place =>
      cases place with
      | watching deadline next => exact .inl ⟨_, _, _, .again found⟩
      | ended ending => exact .inr ⟨rfl, by simpa only [step, found] using unchanged⟩
  | wait milliseconds => exact .inr ⟨rfl, rfl, rfl, rfl, by simp [step]⟩

/-! ## What a look does -/

/-- What a step comes to in which a shutdown looks around.  A shutdown that begins tells the
consumer to stop first. -/
structure Looked (c : Consumer) (watch deadline next : Nat) (input : Input) : Prop where
  gate : (c.step input).1.gate = c.gate
  now : (c.step input).1.now = c.now
  stopping : (c.step input).1.stopping = (c.stopping || input.deadline?.isSome)
  givingUp : (c.step input).1.givingUp = (c.givingUp || (c.verdict deadline next).any Ending.late)
  length_eq : (c.step input).1.watches.length = c.watches.length + input.deadline?.toList.length
  watches_self : ∃ later, (c.step input).1.watches[watch]? =
    some ((c.verdict deadline next).elim (.watching deadline later) .ended)
  watches_of_ne : ∀ other, other ≠ watch → (c.step input).1.watches[other]? = c.watches[other]?
  ended_iff : ∀ other ending, .watchEnded other ending ∈ (c.step input).2 ↔
    other = watch ∧ c.verdict deadline next = some ending

theorem looked_again (found : c.watches[watch]? = some (.watching deadline next)) :
    Looked c watch deadline next (.look watch) := by
  obtain ⟨later, same⟩ := look_eq_verdict found
  have stepped : c.step (.look watch) = c.look watch deadline next := by simp only [step, found]
  have present : watch < c.watches.length := (List.getElem?_eq_some_iff.mp found).1
  rw [same] at stepped
  constructor
  case gate => rw [stepped]
  case now => rw [stepped]
  case stopping => rw [stepped]; exact (Bool.or_false _).symm
  case givingUp => rw [stepped]
  case length_eq => rw [stepped]; exact List.length_set
  case watches_self => exact ⟨later, by rw [stepped]; exact List.getElem?_set_self present⟩
  case watches_of_ne =>
    exact fun other different => by rw [stepped]; exact List.getElem?_set_ne different.symm
  case ended_iff =>
    intro other ending
    rw [stepped]
    cases c.verdict deadline next with
    | none => simp
    | some found => cases found <;> simp [Ending.signs, eq_comm]

theorem Looks.looked (looks : Looks c watch deadline next input) :
    Looked c watch deadline next input := by
  cases looks with
  | again found => exact looked_again found
  | first new =>
    subst new
    let begun : Consumer :=
      { c with stopping := true, watches := c.watches ++ [.watching deadline c.now] }
    have found : begun.watches[c.watches.length]? = some (.watching deadline c.now) :=
      List.getElem?_concat_length
    have looked : Looked begun c.watches.length deadline c.now (.look c.watches.length) :=
      looked_again found
    have stepped : c.step (.shutDown deadline) =
        ((begun.step (.look c.watches.length)).1,
          .stopped :: (begun.step (.look c.watches.length)).2) := by
      simp only [step, found]
      rfl
    constructor
    case gate => rw [stepped]; exact looked.gate
    case now => rw [stepped]; exact looked.now
    case stopping => rw [stepped]; exact looked.stopping.trans (Bool.or_true _).symm
    case givingUp => rw [stepped]; exact looked.givingUp
    case length_eq => rw [stepped]; exact looked.length_eq.trans List.length_append
    case watches_self => rw [stepped]; exact looked.watches_self
    case watches_of_ne =>
      intro other different
      rw [stepped]
      exact (looked.watches_of_ne other different).trans (getElem?_concat_of_ne different.symm)
    case ended_iff =>
      intro other ending
      rw [stepped]
      refine Iff.trans ?_ (looked.ended_iff other ending)
      exact List.mem_cons.trans (or_iff_right (by simp))

theorem Looked.inFlight_eq (looked : Looked c watch deadline next input) :
    (c.step input).1.inFlight = c.inFlight := congrArg Gate.taken looked.gate

/-- A shutdown that ends in a step looks around in it. -/
theorem exists_looks (ended : .watchEnded watch ending ∈ (c.step input).2) :
    ∃ deadline next, Looks c watch deadline next input ∧ c.verdict deadline next = some ending := by
  rcases step_watched c input with ⟨other, deadline, next, looks⟩ | ⟨-, unwatched⟩
  · obtain ⟨rfl, found⟩ := (looks.looked.ended_iff watch ending).mp ended
    exact ⟨deadline, next, looks, found⟩
  · exact absurd ended (unwatched.quiet watch ending)

/-! ## The deadlines of shutdowns -/

/-- The deadlines of the shutdowns that inputs begin, in order. -/
def deadlines (inputs : List Input) : List Nat := inputs.filterMap Input.deadline?

theorem deadlines_concat (inputs : List Input) (input : Input) :
    deadlines (inputs ++ [input]) = deadlines inputs ++ input.deadline?.toList := by
  cases fresh : input.deadline? <;> simp [deadlines, fresh]

/-- Whether a shutdown is where one with this deadline can be at a time. -/
def Watch.Keeps (deadline now : Nat) : Watch → Prop
  | .watching own _ => own = deadline
  | .ended (.overdue _) => deadline ≤ now
  | .ended _ => True

/-- The shutdowns have these deadlines, and one that ran out of time has reached its own. -/
structure Dated (dates : List Nat) (c : Consumer) : Prop where
  length_eq : c.watches.length = dates.length
  keeps : ∀ (watch deadline : Nat) (place : Watch), dates[watch]? = some deadline →
    c.watches[watch]? = some place → place.Keeps deadline c.now

theorem dated_ofSettings (settings : ConsumerSettings) : Dated [] (ofSettings settings) :=
  ⟨rfl, fun _ _ _ given => by cases given⟩

variable {dates : List Nat}

theorem Watch.Keeps.mono {now later : Nat} {place : Watch} (keeps : place.Keeps deadline now)
    (passed : now ≤ later) : place.Keeps deadline later := by
  cases place with
  | watching => exact keeps
  | ended ending =>
    cases ending with
    | overdue n => exact Nat.le_trans keeps passed
    | quiet => trivial
    | idle => trivial

/-- The deadline of a shutdown that looks around is the one with which it was begun. -/
theorem Dated.of_looks (dated : Dated dates c) (looks : Looks c watch deadline next input) :
    (dates ++ input.deadline?.toList)[watch]? = some deadline := by
  cases looks with
  | first new =>
    subst new
    rw [dated.length_eq]
    exact List.getElem?_concat_length
  | again found =>
    have present : watch < dates.length := dated.length_eq ▸ (List.getElem?_eq_some_iff.mp found).1
    have given := List.getElem?_eq_getElem present
    have same : deadline = dates[watch] := dated.keeps watch _ _ given found
    rw [Input.deadline?, Option.toList_none, List.append_nil, same]
    · exact given
    · exact fun _ new => by cases new

theorem Move.now_le {a b : Moment} (move : Move input a effects b) :
    a.consumer.now ≤ b.consumer.now := by
  cases move with
  | loop move => cases move <;> exact Nat.le_refl _
  | task move => cases move <;> exact Nat.le_refl _
  | watch move => cases move <;> exact Nat.le_refl _
  | pass => exact Nat.le_add_right _ _

theorem now_le_step (c : Consumer) (input : Input) : c.now ≤ (c.step input).1.now :=
  (step_moves c input).induction (P := fun a _ => c.now ≤ a.consumer.now) []
    (fun move earlier => Nat.le_trans earlier move.now_le) (Nat.le_refl _)

theorem Dated.step (dated : Dated dates c) (input : Input) :
    Dated (dates ++ input.deadline?.toList) (c.step input).1 := by
  rcases step_watched c input with ⟨watch, deadline, next, looks⟩ | ⟨old, unwatched⟩
  · have looked := looks.looked
    refine ⟨by rw [looked.length_eq, dated.length_eq, List.length_append],
      fun other own place given there => ?_⟩
    by_cases same : other = watch
    · subst same
      cases (dated.of_looks looks).symm.trans given
      obtain ⟨later, known⟩ := looked.watches_self
      cases there.symm.trans known
      cases found : c.verdict deadline next with
      | none => exact rfl
      | some ending =>
        cases ending with
        | overdue n => exact looked.now ▸ (late_of_verdict found).1
        | quiet => trivial
        | idle => trivial
    · rw [looked.watches_of_ne other same] at there
      have present : other < dates.length :=
        dated.length_eq ▸ (List.getElem?_eq_some_iff.mp there).1
      rw [List.getElem?_append_left present] at given
      exact (dated.keeps other own place given there).mono (now_le_step c input)
  · rw [old, Option.toList_none, List.append_nil]
    refine ⟨unwatched.watches ▸ dated.length_eq, fun watch deadline place given found => ?_⟩
    exact (dated.keeps watch deadline place given (unwatched.watches ▸ found)).mono
      (now_le_step c input)

theorem Dated.run (dated : Dated dates c) (inputs : List Input) :
    Dated (dates ++ deadlines inputs) (c.run inputs).1 := by
  induction inputs generalizing c dates with
  | nil => simpa [deadlines, Consumer.run] using dated
  | cons input inputs ih =>
    have dates_cons : deadlines (input :: inputs) = input.deadline?.toList ++ deadlines inputs := by
      cases fresh : input.deadline? <;> simp [deadlines, fresh]
    rw [dates_cons, ← List.append_assoc]
    exact ih (dated.step input)

/-! ## What the flags tell -/

theorem step_stopping (c : Consumer) (input : Input) :
    (c.step input).1.stopping = (c.stopping || input.deadline?.isSome) := by
  rcases step_watched c input with ⟨watch, deadline, next, looks⟩ | ⟨old, unwatched⟩
  · exact looks.looked.stopping
  · rw [unwatched.stopping, old, Option.isSome_none, Bool.or_false]

/-- A consumer is stopping once a shutdown has begun. -/
theorem run_stopping_iff (c : Consumer) (inputs : List Input) :
    (c.run inputs).1.stopping = true ↔
      c.stopping = true ∨ ∃ deadline, .shutDown deadline ∈ inputs := by
  induction inputs generalizing c with
  | nil => simp [run]
  | cons input inputs ih =>
    simp only [run, ih, step_stopping, Bool.or_eq_true, List.mem_cons, or_assoc]
    refine or_congr_right ?_
    cases input with
    | shutDown deadline => exact iff_of_true (.inl rfl) ⟨deadline, .inl rfl⟩
    | _ => simp [Input.deadline?]

/-- The effects tell which shutdowns have ended and how, and `givingUp` whether one of them ran out
of time. -/
structure Remembered (c : Consumer) (effects : List Effect) : Prop where
  ended_iff : ∀ watch ending, .watchEnded watch ending ∈ effects ↔
    c.watches[watch]? = some (.ended ending)
  givingUp_iff : c.givingUp = true ↔
    ∃ (watch n : Nat), c.watches[watch]? = some (.ended (.overdue n))

theorem remembered_ofSettings (settings : ConsumerSettings) :
    Remembered (ofSettings settings) [] where
  ended_iff watch ending := by simp [ofSettings]
  givingUp_iff := by simp [ofSettings]

/-- A shutdown that looks around has not ended. -/
theorem Looks.not_ended (looks : Looks c watch deadline next input) (ending : Ending) :
    c.watches[watch]? ≠ some (.ended ending) := by
  cases looks with
  | first new => simp [← new]
  | again found => simp [found]

theorem Looked.ended_self (looked : Looked c watch deadline next input) (ending : Ending) :
    (c.step input).1.watches[watch]? = some (.ended ending) ↔
      c.verdict deadline next = some ending := by
  obtain ⟨later, known⟩ := looked.watches_self
  rw [known]
  cases c.verdict deadline next <;> simp

theorem Remembered.step (remembered : Remembered c before) (input : Input) :
    Remembered (c.step input).1 (before ++ (c.step input).2) := by
  rcases step_watched c input with ⟨watch, deadline, next, looks⟩ | ⟨old, unwatched⟩
  · have looked := looks.looked
    refine ⟨fun other ending => ?_, ?_⟩
    · rw [List.mem_append, remembered.ended_iff, looked.ended_iff]
      by_cases same : other = watch
      · subst same
        simp [looks.not_ended, looked.ended_self]
      · simp [same, looked.watches_of_ne]
    · rw [looked.givingUp, Bool.or_eq_true, remembered.givingUp_iff]
      constructor
      · rintro (⟨other, n, ended⟩ | late)
        · have different : other ≠ watch := by
            rintro rfl
            exact looks.not_ended _ ended
          exact ⟨other, n, (looked.watches_of_ne other different).trans ended⟩
        · cases found : c.verdict deadline next with
          | none => simp [found] at late
          | some ending =>
            cases ending with
            | overdue n => exact ⟨watch, n, (looked.ended_self _).mpr found⟩
            | quiet => simp [found, Ending.late] at late
            | idle => simp [found, Ending.late] at late
      · rintro ⟨other, n, ended⟩
        by_cases same : other = watch
        · subst same
          exact .inr (by rw [(looked.ended_self _).mp ended]; rfl)
        · exact .inl ⟨other, n, (looked.watches_of_ne other same).symm.trans ended⟩
  · refine ⟨fun watch ending => ?_, ?_⟩
    · rw [List.mem_append, or_iff_left (unwatched.quiet watch ending), unwatched.watches,
        remembered.ended_iff]
    · rw [unwatched.givingUp, unwatched.watches, remembered.givingUp_iff]

theorem Remembered.run (remembered : Remembered c before) (inputs : List Input) :
    Remembered (c.run inputs).1 (before ++ (c.run inputs).2) := by
  induction inputs generalizing c before with
  | nil => simpa [Consumer.run] using remembered
  | cons input inputs ih =>
    simp only [Consumer.run]
    rw [← List.append_assoc]
    exact ih (remembered.step input)

/-! ## How shutdowns end -/

/-- A shutdown that ran out of time had reached its deadline. -/
theorem Dated.reached (dated : Dated dates c) (remembered : Remembered c before) {n : Nat}
    (ended : .watchEnded watch (.overdue n) ∈ before) :
    ∃ deadline, dates[watch]? = some deadline ∧ deadline ≤ c.now := by
  have found := (remembered.ended_iff watch (.overdue n)).mp ended
  have present : watch < dates.length := dated.length_eq ▸ (List.getElem?_eq_some_iff.mp found).1
  have given := List.getElem?_eq_getElem present
  exact ⟨_, given, dated.keeps watch _ _ given found⟩

/-- What can be said of the step in which a shutdown ends. -/
theorem Dated.ended_in_step (dated : Dated dates c)
    (ended : .watchEnded watch ending ∈ (c.step input).2) :
    ∃ deadline, (dates ++ input.deadline?.toList)[watch]? = some deadline ∧
      (ending.result = .ok .closed → (c.step input).1.inFlight = 0) ∧
      ∀ n, ending.result = .error (.deadlineExceeded n) →
        deadline ≤ (c.step input).1.now ∧ n = (c.step input).1.inFlight ∧ 1 ≤ n := by
  obtain ⟨deadline, next, looks, found⟩ := exists_looks ended
  refine ⟨deadline, dated.of_looks looks, fun well => ?_, fun n badly => ?_⟩
  · exact looks.looked.inFlight_eq.trans (inFlight_of_verdict found well)
  · cases ending with
    | overdue own =>
      cases badly
      rw [looks.looked.now, looks.looked.inFlight_eq]
      exact late_of_verdict found
    | quiet => cases badly
    | idle => cases badly

/-- A shutdown that has run out of time stays so, and with it `givingUp`. -/
theorem Remembered.givingUp_run (remembered : Remembered c before) (late : c.givingUp = true)
    (later : List Input) : (c.run later).1.givingUp = true := by
  have afterwards := remembered.run later
  obtain ⟨watch, n, found⟩ := remembered.givingUp_iff.mp late
  have ended := (remembered.ended_iff watch (.overdue n)).mpr found
  exact afterwards.givingUp_iff.mpr
    ⟨watch, n, (afterwards.ended_iff watch _).mp (List.mem_append_left _ ended)⟩

/-! ## The discipline of shutdowns -/

/-- After every run the consumer is stopping exactly if a shutdown has begun, and handlers are told
to give up exactly if a shutdown has returned at its deadline with slots held; neither is ever taken
back.  The lifetime with which a handler is called is that of the handlers, so it is over exactly
then, and never before a deadline has been reached.  A shutdown that returns in good order does so
in a step in which no slot is held.  One that runs out of time has reached the deadline with which
it was begun, and is told the number of slots that are held in that step.  A shutdown that looks
around at its deadline or later returns then, also when it is time for it to look for more. -/
theorem shutdown_discipline (settings : ConsumerSettings) (inputs : List Input) :
    let c := ((ofSettings settings).run inputs).1
    let effects := ((ofSettings settings).run inputs).2
    (c.stopping = true ↔ ∃ deadline, .shutDown deadline ∈ inputs) ∧
      (c.givingUp = true ↔ ∃ watch n, .watchEnded watch (.overdue n) ∈ effects) ∧
      (∀ watch n, .watchEnded watch (.overdue n) ∈ effects →
        ∃ deadline, (deadlines inputs)[watch]? = some deadline ∧ deadline ≤ c.now) ∧
      (c.givingUp = true → c.stopping = true) ∧
      (∀ later, (c.stopping = true → (c.run later).1.stopping = true) ∧
        (c.givingUp = true → (c.run later).1.givingUp = true)) ∧
      (∀ task ∈ c.tasks, task.lifetime = .handlers) ∧
      (∀ index given, .started index given ∈ effects →
        (∃ task, c.tasks[index]? = some task ∧ given = task.assignment) ∧
          given.lifetime = .handlers ∧
          (c.cancelled given.lifetime = true ↔
            ∃ watch n, .watchEnded watch (.overdue n) ∈ effects) ∧
          (c.cancelled given.lifetime = true →
            ∃ (watch deadline : Nat),
              (deadlines inputs)[watch]? = some deadline ∧ deadline ≤ c.now) ∧
          ∀ later, c.cancelled given.lifetime = true →
            (c.run later).1.cancelled given.lifetime = true) ∧
      (∀ input watch ending, .watchEnded watch ending ∈ (c.step input).2 →
        ∃ deadline, (deadlines (inputs ++ [input]))[watch]? = some deadline ∧
          (ending.result = .ok .closed → (c.step input).1.inFlight = 0) ∧
          ∀ n, ending.result = .error (.deadlineExceeded n) →
            deadline ≤ (c.step input).1.now ∧ n = (c.step input).1.inFlight ∧ 1 ≤ n) ∧
      ∀ input watch deadline next, Looks c watch deadline next input → deadline ≤ c.now →
        (deadlines (inputs ++ [input]))[watch]? = some deadline ∧
          ∀ other ending, .watchEnded other ending ∈ (c.step input).2 ↔
            other = watch ∧ ending = if c.inFlight = 0 then .idle else .overdue c.inFlight := by
  intro c effects
  have dated : Dated (deadlines inputs) c := (dated_ofSettings settings).run inputs
  have remembered : Remembered c effects := (remembered_ofSettings settings).run inputs
  have stopping : c.stopping = true ↔ ∃ deadline, .shutDown deadline ∈ inputs :=
    (run_stopping_iff _ inputs).trans (or_iff_right Bool.false_ne_true)
  have givingUp : c.givingUp = true ↔ ∃ watch n, .watchEnded watch (.overdue n) ∈ effects := by
    simp only [remembered.givingUp_iff, remembered.ended_iff]
  have told : Told c :=
    run_induction (P := fun a _ => Told a.consumer) (fun move => move.told)
      (fun begun => absurd rfl begun) inputs
  have recorded : Recorded settings ⟨c, none⟩ effects := run_recorded settings inputs
  refine ⟨stopping, givingUp, fun watch n => dated.reached remembered, ?_, fun later => ⟨?_, ?_⟩,
    recorded.lent, ?_, ?_, ?_⟩
  · intro late
    obtain ⟨watch, n, found⟩ := remembered.givingUp_iff.mp late
    exact told (List.ne_nil_of_mem (List.mem_of_getElem? found))
  · exact fun stopped => (run_stopping_iff c later).mpr (.inl stopped)
  · exact fun late => remembered.givingUp_run late later
  · intro index given begun
    obtain ⟨task, found, same, lent⟩ := recorded.assignment_eq begun
    rw [lent]
    refine ⟨⟨task, found, same⟩, rfl, givingUp, fun late => ?_, fun later late => ?_⟩
    · obtain ⟨watch, n, ended⟩ := givingUp.mp late
      exact ⟨watch, dated.reached remembered ended⟩
    · exact remembered.givingUp_run late later
  · intro input watch ending ended
    rw [deadlines_concat]
    exact dated.ended_in_step ended
  · intro input watch deadline next looks late
    rw [deadlines_concat]
    refine ⟨dated.of_looks looks, fun other ending => ?_⟩
    rw [looks.looked.ended_iff, verdict_of_late late, Option.some_inj, eq_comm (a := ending)]

/-- A handler goes on beyond the deadline of a shutdown. -/
def overrun : List Input :=
  [.serve, .answer 0 (.ok [received 'a']), .start 0, .shutDown 1000, .wait 1000, .look 0]

/-- The handler can see that it is to give up after the last look, and not before it. -/
theorem shutdown_discipline_overrun :
    let given : Assignment := ⟨(received 'a').toMessage, .handlers⟩
    let before := ((ofSettings oneSlot).run (overrun.take 5))
    let after := ((ofSettings oneSlot).run overrun)
    (.started 0 given ∈ before.2 ∧ before.1.stopping = true ∧
        ¬ before.1.cancelled given.lifetime = true) ∧
      .watchEnded 0 (.overdue 1) ∈ after.2 ∧ after.1.cancelled given.lifetime = true ∧
        ∃ (watch deadline : Nat),
          (deadlines overrun)[watch]? = some deadline ∧ deadline ≤ after.1.now := by
  intro given before after
  have begun : .started 0 given ∈ before.2 := List.mem_of_getElem? (i := 4) rfl
  have still : .started 0 given ∈ after.2 := List.mem_of_getElem? (i := 4) rfl
  have overdue : .watchEnded 0 (.overdue 1) ∈ after.2 := List.mem_of_getElem? (i := 7) rfl
  obtain ⟨stopping, -, -, -, -, -, early, -⟩ := shutdown_discipline oneSlot (overrun.take 5)
  obtain ⟨-, -, -, -, -, -, late, -⟩ := shutdown_discipline oneSlot overrun
  obtain ⟨-, -, seen, -⟩ := early 0 given begun
  obtain ⟨-, -, seenAfter, reached, -⟩ := late 0 given still
  have told : after.1.cancelled given.lifetime = true := seenAfter.mpr ⟨0, 1, overdue⟩
  refine ⟨⟨begun, stopping.mpr ⟨1000, List.mem_of_getElem? (i := 3) rfl⟩, fun toldEarly => ?_⟩,
    overdue, told, reached told⟩
  obtain ⟨watch, n, ended⟩ := seen.mp toldEarly
  have effects : before.2 = [.called (.loop 0) (.receive (ofSettings oneSlot).request),
      .answered 0 (.ok [received 'a']), .dispatched 0 0 (received 'a'),
      .called (.loop 0) (.receive (ofSettings oneSlot).request), .started 0 given, .stopped] := rfl
  have absent : .watchEnded watch (.overdue n) ∉ before.2 := by simp [effects]
  exact absent ended

end MessageQueue.Consumer
