import MessageQueue.Proofs.Consumer.Shutdowns

/-!
# What a shutdown is told by the flag

Before its deadline a shutdown learns from the flag `polling` whether a loop is at work.  One flag
stands for all loops: one that begins sets it, and one that returns clears it (`step_polling`).  So
the flag is set exactly if no loop has returned since the last one began (`run_polling_iff`).

This need not tell whether a loop is at work, and two kinds of steps make it wrong
(`Truthful.step_iff`).

* A loop returns beside another one that is at work.  The flag is cleared, and a shutdown that finds
  no slot held ends quietly while messages are still received.
* The only loop at work is dropped.  The flag stays set, and a shutdown waits for its deadline
  although nothing is going on.
-/

namespace MessageQueue.Consumer

variable {c d : Consumer} {a b : Moment} {input : Input} {effects : List Effect}
variable {loop watch deadline next : Nat}

/-! ## When the flag is set -/

/-- Whether a loop returns. -/
def Effect.returns : Effect → Bool
  | .returned _ _ => true
  | _ => false

/-- Whether a loop begins. -/
def Input.begins : Input → Bool
  | .serve => true
  | _ => false

/-- A loop returns among these effects. -/
def Returns (effects : List Effect) : Prop := ∃ loop result, .returned loop result ∈ effects

theorem any_returns_iff : effects.any Effect.returns = true ↔ Returns effects := by
  rw [List.any_eq_true]
  constructor
  · rintro ⟨e, member, returns⟩
    cases e with
    | returned loop result => exact ⟨loop, result, member⟩
    | _ => cases returns
  · rintro ⟨loop, result, member⟩
    exact ⟨_, member, rfl⟩

theorem returns_append {earlier later : List Effect} :
    Returns (earlier ++ later) ↔ Returns earlier ∨ Returns later := by
  simp only [← any_returns_iff, List.any_append, Bool.or_eq_true]

theorem Admissions.any_returns (admissions : Admissions effects) :
    effects.any Effect.returns = false := by
  refine List.any_eq_false.mpr fun e member => ?_
  obtain ⟨admitted, rfl⟩ := admissions e member
  exact Bool.false_ne_true

theorem Move.polling_eq (move : Move input a effects b) (old : input.begins = false) :
    b.consumer.polling = (a.consumer.polling && !effects.any Effect.returns) := by
  cases move with
  | loop move =>
    cases move with
    | begin => cases old
    | leave | quitLine =>
      rw [(admissions_departure _ _).any_returns]
      exact (Bool.and_true _).symm
    | fail | drain => exact (Bool.and_false _).symm
    | _ => exact (Bool.and_true _).symm
  | @task c _ _ _ move =>
    have quiet := (admissions_admission c.gate).any_returns
    cases move with
    | start | call => exact (Bool.and_true _).symm
    | stop | free => simp [Effect.returns, quiet, staged]
  | watch move => cases move <;> exact (Bool.and_true _).symm
  | pass => exact (Bool.and_true _).symm

/-- A loop that begins sets the flag, and one that returns clears it. -/
theorem step_polling (c : Consumer) (input : Input) :
    (c.step input).1.polling =
      ((c.polling || input.begins) && !(c.step input).2.any Effect.returns) := by
  -- the move with which a loop begins is followed by others, so this step is computed as a whole
  cases old : input.begins with
  | true =>
    cases input with
    | serve =>
      cases stopping : c.stopping <;>
        simp [step, serve, nextBatch, stopping, drain, finishLoop, moved, Effect.returns]
    | _ => cases old
  | false =>
    have kept := (step_moves c input).induction
      (P := fun a effects => a.consumer.polling = (c.polling && !effects.any Effect.returns)) []
      (fun move same => ?_) (Bool.and_true _).symm
    · simpa using kept
    · rw [move.polling_eq old, same, List.any_append, Bool.not_or, Bool.and_assoc]

theorem step_polling_iff (c : Consumer) (input : Input) :
    (c.step input).1.polling = true ↔
      (c.polling = true ∨ input.begins = true) ∧ ¬ Returns (c.step input).2 := by
  simp only [step_polling, ← any_returns_iff, Bool.and_eq_true, Bool.or_eq_true, Bool.not_eq_true',
    Bool.not_eq_true]

/-- The flag is set exactly if no loop has returned since the last one began. -/
theorem run_polling_iff (c : Consumer) (inputs : List Input) :
    (c.run inputs).1.polling = true ↔
      c.polling = true ∧ ¬ Returns (c.run inputs).2 ∨
        ∃ earlier later, inputs = earlier ++ .serve :: later ∧
          ¬ Returns ((c.run earlier).1.run (.serve :: later)).2 := by
  induction inputs generalizing c with
  | nil => simp [run, Returns]
  | cons input inputs ih =>
    simp only [run, ih, step_polling_iff]
    constructor
    · rintro (⟨⟨set, quiet⟩, silent⟩ | ⟨earlier, later, rfl, silent⟩)
      · have neither : ¬ Returns ((c.step input).2 ++ ((c.step input).1.run inputs).2) := by
          rw [returns_append]
          exact not_or.mpr ⟨quiet, silent⟩
        refine set.imp (fun set => ⟨set, neither⟩) fun begins => ?_
        cases input with
        | serve => exact ⟨[], inputs, rfl, neither⟩
        | _ => cases begins
      · exact .inr ⟨input :: earlier, later, rfl, silent⟩
    · rintro (⟨set, silent⟩ | ⟨earlier, later, split, silent⟩)
      · rw [returns_append, not_or] at silent
        exact .inl ⟨⟨.inl set, silent.1⟩, silent.2⟩
      · cases earlier with
        | nil =>
          cases split
          rw [run, returns_append, not_or] at silent
          exact .inl ⟨⟨.inr rfl, silent.1⟩, silent.2⟩
        | cons first earlier =>
          cases split
          exact .inr ⟨earlier, later, rfl, silent⟩

/-! ## When the flag tells the truth -/

/-- The flag says whether a loop is at work. -/
def Truthful (c : Consumer) : Prop := c.polling = true ↔ ¬ Resting c

/-- A step that the flag follows: a loop that returns leaves no loop at work, and a loop that is
dropped leaves one. -/
structure Followed (c : Consumer) (input : Input) : Prop where
  returned : Returns (c.step input).2 → Resting (c.step input).1
  dropped : (∃ loop, input = .abandon loop) → ¬ Resting c → ¬ Resting (c.step input).1

theorem resting_ofSettings (settings : ConsumerSettings) : Resting (ofSettings settings) :=
  fun _ member => absurd member List.not_mem_nil

theorem not_resting {place : Place} (member : place ∈ c.loops) (working : place.working = true) :
    ¬ Resting c :=
  fun resting => Bool.false_ne_true ((resting place member).symm.trans working)

theorem truthful_of_eq (truthful : Truthful c) (loops : d.loops = c.loops)
    (polling : d.polling = c.polling) :
    Truthful d := by
  rw [Truthful, Resting, polling, loops]
  exact truthful

/-- The flag was set, and then it was the turn of a loop. -/
theorem Turned.truthful_iff {place : Place} (turned : Turned loop c d place)
    (present : loop < c.loops.length)
    (flag : c.polling = true) : Truthful d ↔ (d.polling = false → Resting d) := by
  have polling : d.polling = place.working := by rw [turned.polling, flag, Bool.true_and]
  rw [Truthful, polling]
  cases working : place.working with
  | true =>
    have member : place ∈ d.loops := by
      rw [turned.loops]
      exact List.mem_set present place
    simp [not_resting member working]
  | false => simp

theorem followed_iff (other : ∀ loop, input ≠ .abandon loop) :
    Followed c input ↔ (Returns (c.step input).2 → Resting (c.step input).1) := by
  refine ⟨fun followed => followed.returned, fun returned => ⟨returned, ?_⟩⟩
  rintro ⟨loop, same⟩
  exact absurd same (other loop)

/-- A loop that is dropped does not return. -/
theorem not_returns_abandon (c : Consumer) (loop : Nat) : ¬ Returns (c.step (.abandon loop)).2 := by
  rw [← any_returns_iff, Bool.not_eq_true]
  simp only [step]
  split
  next place found =>
    split
    next working =>
      unfold abandon
      split
      next => exact (admissions_departure _ _).any_returns
      next => rfl
    next => rfl
  next => rfl

/-- A loop that is not at work cannot be dropped. -/
theorem step_abandon_of_idle (idle : ∀ place, c.loops[loop]? = some place → place.working = false) :
    c.step (.abandon loop) = (c, []) := by
  simp only [step]
  split
  next place found => rw [if_neg (by simp [idle place found])]
  next => rfl

/-- A loop that is dropped leaves the flag alone. -/
theorem Truthful.abandon_iff (truthful : Truthful c) (loop : Nat) :
    Truthful (c.step (.abandon loop)).1 ↔ Followed c (.abandon loop) := by
  have flag := step_polling c (.abandon loop)
  have quiet := not_returns_abandon c loop
  by_cases resting : Resting c
  · have same := step_abandon_of_idle fun place found =>
      resting place (List.mem_of_getElem? (i := loop) found)
    exact iff_of_true (by rw [same]; exact truthful)
      ⟨fun returns => absurd returns quiet, fun _ busy => absurd resting busy⟩
  · rw [Bool.eq_false_iff.mpr (mt any_returns_iff.mp quiet), truthful.mpr resting] at flag
    rw [Truthful, flag]
    exact ⟨fun told => ⟨fun returns => absurd returns quiet, fun _ _ => told.mp rfl⟩,
      fun followed => iff_of_true rfl (followed.dropped ⟨loop, rfl⟩ resting)⟩

/-- A flag that tells the truth goes on doing so in the steps that it follows, and in no others. -/
theorem Truthful.step_iff (truthful : Truthful c) (input : Input) :
    Truthful (c.step input).1 ↔ Followed c input := by
  by_cases drops : ∃ loop, input = .abandon loop
  · obtain ⟨loop, rfl⟩ := drops
    exact truthful.abandon_iff loop
  · have other (loop : Nat) : input ≠ .abandon loop := fun same => drops ⟨loop, same⟩
    have flag := step_polling c input
    -- a flag that is set when the step begins is cleared in it exactly if a loop returns
    have returns_iff (set : (c.polling || input.begins) = true) :
        (c.step input).1.polling = false ↔ Returns (c.step input).2 := by
      rw [flag, set, Bool.true_and, Bool.not_eq_false', any_returns_iff]
    rw [followed_iff other]
    cases step_outline c input with
    | begin turned => rw [turned.truthful_iff (by simp) rfl, returns_iff (Bool.or_true _)]
    | turn found working turned =>
      have set := truthful.mpr (not_resting (List.mem_of_getElem? found) working)
      rw [turned.truthful_iff (lt_length_of_getElem? found) set,
        returns_iff (by rw [set, Bool.true_or])]
    | drop => exact absurd rfl (other _)
    | aside loops polling =>
      refine iff_of_true (truthful_of_eq truthful loops polling) fun returns => ?_
      rw [any_returns_iff.mpr returns, polling, Bool.not_true, Bool.and_false] at flag
      rw [Resting, loops]
      exact Classical.byContradiction fun busy =>
        Bool.false_ne_true (flag.symm.trans (truthful.mpr busy))

theorem truthful_ofSettings (settings : ConsumerSettings) : Truthful (ofSettings settings) :=
  iff_of_false Bool.false_ne_true (not_not_intro (resting_ofSettings settings))

/-- The flag tells the truth all along exactly if it follows every step. -/
theorem Truthful.run_iff (truthful : Truthful c) (inputs : List Input) :
    (∀ earlier, earlier <+: inputs → Truthful (c.run earlier).1) ↔
      ∀ earlier input, earlier ++ [input] <+: inputs → Followed (c.run earlier).1 input := by
  induction inputs generalizing c with
  | nil => simpa [run] using truthful
  | cons input inputs ih =>
    have begun {earlier : List Input} (part : earlier <+: inputs) :
        input :: earlier <+: input :: inputs :=
      List.cons_prefix_cons.mpr ⟨rfl, part⟩
    have first : [input] <+: input :: inputs := begun List.nil_prefix
    constructor
    · intro told earlier last part
      have next : Truthful (c.step input).1 := told [input] first
      cases earlier with
      | nil =>
        obtain ⟨rfl, -⟩ := List.cons_prefix_cons.mp part
        exact (truthful.step_iff last).mp next
      | cons other earlier =>
        obtain ⟨rfl, rest⟩ := List.cons_prefix_cons.mp part
        exact (ih next).mp (fun earlier part => told (other :: earlier) (begun part)) earlier
          last rest
    · intro followed earlier part
      cases earlier with
      | nil => exact truthful
      | cons other earlier =>
        obtain ⟨rfl, rest⟩ := List.cons_prefix_cons.mp part
        have next : Truthful (c.step other).1 :=
          (truthful.step_iff other).mpr (followed [] other first)
        exact (ih next).mpr (fun earlier last part => followed (other :: earlier) last (begun part))
          earlier rest

/-- In a run in good order the flag tells the truth. -/
theorem Tracked.truthful (tracked : Tracked c) : Truthful c := by
  refine ⟨fun set resting => ?_, fun busy => ?_⟩
  · have noneWorking : c.loops.countP Place.working = 0 :=
      List.countP_eq_zero.mpr fun place member => Bool.eq_false_iff.mp (resting place member)
    rw [Tracked, set, noneWorking] at tracked
    cases tracked
  · cases still : c.polling with
    | true => rfl
    | false => exact absurd (tracked.resting still) busy

/-! ## What a shutdown concludes -/

/-- A shutdown ends well in a step. -/
def EndsWell (watch : Nat) (effects : List Effect) : Prop :=
  ∃ ending, .watchEnded watch ending ∈ effects ∧ ending.result = .ok .closed

/-- What a shutdown asks when it is time for it to look. -/
theorem endsWell_iff (looks : Looks c watch deadline next input) (early : c.now < deadline)
    (tick : next ≤ c.now) :
    EndsWell watch (c.step input).2 ↔ c.inFlight = 0 ∧ c.polling = false := by
  simp only [EndsWell, looks.looked.ended_iff, verdict_of_early early]
  by_cases quiet : c.inFlight = 0 ∧ c.polling = false
  · simp [tick, quiet, Ending.result]
  · simp [tick, quiet]

/-- With no loop at work and every handler finished, no slot is held. -/
theorem idle_of_finished (balanced : Balanced c) (attended : Attended ⟨c, none⟩)
    (resting : Resting c) (finished : ∀ t ∈ c.tasks, t.unfinished = false) : c.inFlight = 0 := by
  have allFinished : c.tasks.countP Task.unfinished = 0 :=
    List.countP_eq_zero.mpr fun t member => Bool.eq_false_iff.mp (finished t member)
  simp only [Balanced, Gate.spare, allFinished, attended.granted_eq_nil resting,
    List.length_nil] at balanced
  simp only [inFlight, Gate.taken]
  omega

/-- No loop is at work, and every handler has finished. -/
def Quiet (c : Consumer) : Prop := Resting c ∧ ∀ t ∈ c.tasks, t.unfinished = false

/-- What a shutdown asks is whether nothing is going on, unless no slot is held and the flag is
wrong. -/
theorem asks_quiet_iff (balanced : Balanced c) (attended : Attended ⟨c, none⟩) :
    ((c.inFlight = 0 ∧ c.polling = false) ↔ Quiet c) ↔ (c.inFlight = 0 → Truthful c) := by
  by_cases idle : c.inFlight = 0
  · have finished := finished_of_idle balanced idle
    simp only [idle, true_and, true_imp_iff, Quiet, Truthful]
    rw [and_iff_left finished]
    cases c.polling with
    | true => simp
    | false => simp
  · have busy : ¬ Quiet c := fun quiet => idle (idle_of_finished balanced attended quiet.1 quiet.2)
    simp [idle, busy]

/-! ## The truth of a look -/

/-- After every run the flag is set exactly if no loop has returned since the last one began.  It
has told the truth all along exactly if in no step a loop returned beside another one at work and in
none the only loop at work was dropped; so it has if loops follow one another and each runs until it
returns.

A shutdown for which it is time to look before its deadline ends well exactly if no slot is held and
the flag is not set.  This is whether no loop is at work and every handler has finished, except when
no slot is held while the flag does not tell the truth. -/
theorem looks_truthful (settings : ConsumerSettings) (inputs : List Input) :
    let c := ((ofSettings settings).run inputs).1
    (c.polling = true ↔ ∃ earlier later, inputs = earlier ++ .serve :: later ∧
        ¬ Returns (((ofSettings settings).run earlier).1.run (.serve :: later)).2) ∧
      ((∀ earlier, earlier <+: inputs → Truthful ((ofSettings settings).run earlier).1) ↔
        ∀ earlier input, earlier ++ [input] <+: inputs →
          Followed ((ofSettings settings).run earlier).1 input) ∧
      (Orderly (ofSettings settings) inputs → Truthful c) ∧
      ∀ watch deadline next input,
        Looks c watch deadline next input → c.now < deadline → next ≤ c.now →
        (EndsWell watch (c.step input).2 ↔ c.inFlight = 0 ∧ c.polling = false) ∧
          ((EndsWell watch (c.step input).2 ↔ Quiet c) ↔ (c.inFlight = 0 → Truthful c)) := by
  intro c
  have flag : c.polling = true ↔ _ := run_polling_iff (ofSettings settings) inputs
  refine ⟨flag.trans (or_iff_right fun set => Bool.false_ne_true set.1),
    (truthful_ofSettings settings).run_iff inputs,
    fun orderly => ((sound_ofSettings settings).run orderly).tracked.truthful,
    fun watch deadline next input looks early tick => ?_⟩
  have asked := endsWell_iff looks early tick
  refine ⟨asked, ?_⟩
  rw [asked]
  exact asks_quiet_iff (run_balanced settings inputs) (run_attended settings inputs)

/-- A shutdown ends quietly beside a loop that receives, since another one has returned.  One that
finds nothing going on looks again after its interval, since a loop was dropped. -/
theorem flag_misleads :
    let beside :=
      ((ofSettings oneSlot).run [.serve, .serve, .answer 1 (.error (.connectionFailed ""))]).1
    let dropped := ((ofSettings oneSlot).run [.serve, .abandon 0]).1
    (¬ Truthful beside ∧ beside.loops[0]? = some .receiving ∧
      EndsWell 0 (beside.step (.shutDown 1000)).2) ∧
      ¬ Truthful dropped ∧ Quiet dropped ∧
        (dropped.step (.shutDown 1000)).1.watches = [.watching 1000 500] := by
  intro beside dropped
  have receives : .receiving ∈ beside.loops := List.mem_cons_self
  have busy : ¬ Resting beside := not_resting receives rfl
  have resting : Resting dropped := List.forall_mem_singleton.mpr rfl
  refine ⟨⟨fun told => Bool.false_ne_true (told.mpr busy), rfl, .quiet, ?_, rfl⟩,
    fun told => told.mp rfl resting, ⟨resting, fun _ member => absurd member List.not_mem_nil⟩,
    by decide⟩
  exact List.mem_cons_of_mem _ List.mem_cons_self

end MessageQueue.Consumer
