import MessageQueue.Proofs.Consumer.Parting
import MessageQueue.Proofs.Consumer.Polling

/-!
# Phases

The phase is what is shown of the life of a consumer.  It is set by loops that return, and by
nothing else (`Move.shown`): one that returns in good order drains and is closed, and one that fails
is closed.  The results that have been returned are those of the loops (`run_results`), so a
consumer is closed from the first return on, and before that it is running.

No loop that begins sets the phase back.  In a run whose loops follow one another this is of no
account after a return in good order, because then the consumer is stopping and a loop that begins
returns at once (`Steady.step`).  After a failure a loop that begins is at work in a consumer that
is closed, and if it returns in good order the phase goes back to draining.
-/

namespace MessageQueue.Consumer

variable {c d : Consumer} {a b : Moment} {input : Input} {effects before : List Effect}
variable {settings : ConsumerSettings} {loop : Nat} {place next : Place}

/-! ## Results -/

/-- The result with which a loop returns. -/
def Effect.result? : Effect → Option (Except ConsumerError Stopped)
  | .returned _ result => some result
  | _ => none

/-- The result with which a loop has returned. -/
def Place.result? : Place → Option (Except ConsumerError Stopped)
  | .returned result => some result
  | _ => none

theorem result?_of_working (working : place.working = true) : place.result? = none := by
  cases place with
  | returned => cases working
  | _ => rfl

theorem Admissions.filterMap_eq_nil {α : Type} {f : Effect → Option α}
    (admissions : Admissions effects)
    (silent : ∀ loop, f (.admitted loop) = none) : effects.filterMap f = [] := by
  refine List.filterMap_eq_nil_iff.mpr fun e member => ?_
  obtain ⟨admitted, rfl⟩ := admissions e member
  exact silent admitted

theorem Admissions.results (admissions : Admissions effects) :
    effects.filterMap Effect.result? = [] :=
  admissions.filterMap_eq_nil fun _ => rfl

/-- A loop that had not returned is in another place. -/
theorem results_set {places : List Place} (found : places[loop]? = some place)
    (fresh : place.result? = none) :
    ((places.set loop next).filterMap Place.result?).Perm
      (places.filterMap Place.result? ++ next.result?.toList) := by
  obtain ⟨present, rfl⟩ := List.getElem?_eq_some_iff.mp found
  have split : places = places.take loop ++ places[loop] :: places.drop (loop + 1) := by
    rw [← List.drop_eq_getElem_cons present, List.take_append_drop]
  have before : places.filterMap Place.result? =
      (places.take loop).filterMap Place.result? ++
        (places.drop (loop + 1)).filterMap Place.result? := by
    refine (congrArg (List.filterMap Place.result?) split).trans ?_
    rw [List.filterMap_append, List.filterMap_cons, fresh]
  rw [before, List.set_eq_take_append_cons_drop, if_pos present, List.filterMap_append,
    List.filterMap_cons]
  cases next.result? with
  | none => simp
  | some result => exact List.perm_middle.trans (List.perm_append_singleton _ _).symm

/-- The loop whose turn it is has not returned. -/
def Unreturned (a : Moment) : Prop :=
  ∀ loop errand, a.turn = some (loop, errand) →
    ∃ place, a.consumer.loops[loop]? = some place ∧ place.result? = none

theorem unreturned_none (c : Consumer) : Unreturned ⟨c, none⟩ := fun _ _ turn => by cases turn

theorem unreturned_some {errand : Errand} (found : c.loops[loop]? = some place)
    (fresh : place.result? = none) :
    Unreturned ⟨c, some (loop, errand)⟩ := by
  intro other duty same
  cases same
  exact ⟨place, found, fresh⟩

/-- The results that have been returned are those of the loops, and the loop whose turn it is has
none. -/
structure Accounted (a : Moment) (effects : List Effect) : Prop where
  results : (effects.filterMap Effect.result?).Perm (a.consumer.loops.filterMap Place.result?)
  fresh : Unreturned a

/-- A loop that had not returned comes to another place. -/
theorem Accounted.set (accounted : Accounted a before)
    (found : a.consumer.loops[loop]? = some place)
    (fresh : place.result? = none) (loops : d.loops = a.consumer.loops.set loop next)
    (shown : effects.filterMap Effect.result? = next.result?.toList) :
    Accounted ⟨d, none⟩ (before ++ effects) := by
  refine ⟨?_, unreturned_none d⟩
  rw [List.filterMap_append, shown, loops]
  exact (accounted.results.append_right _).trans (results_set found fresh).symm

/-- Nobody returns, and no loop comes to another place. -/
theorem Accounted.same (accounted : Accounted a before)
    (loops : b.consumer.loops = a.consumer.loops)
    (shown : effects.filterMap Effect.result? = []) (fresh : Unreturned b) :
    Accounted b (before ++ effects) := by
  refine ⟨?_, fresh⟩
  rw [List.filterMap_append, shown, List.append_nil, loops]
  exact accounted.results

theorem LoopMove.accounted (move : LoopMove loop input a effects b)
    (accounted : Accounted a before) :
    Accounted b (before ++ effects) := by
  cases move with
  | begin new =>
    subst new
    refine ⟨?_, unreturned_some List.getElem?_concat_length rfl⟩
    have nothing : [Place.receiving].filterMap Place.result? = [] := rfl
    rw [List.append_nil, List.filterMap_append, nothing, List.append_nil]
    exact accounted.results
  | take asked => exact accounted.same rfl rfl (unreturned_some asked rfl)
  | fail asked => exact accounted.set asked rfl rfl rfl
  | enter waited => exact accounted.same rfl rfl (unreturned_some waited rfl)
  | give | turn =>
    obtain ⟨place, found, fresh⟩ := accounted.fresh _ _ rfl
    exact accounted.same rfl rfl (unreturned_some found fresh)
  | ask | wait | release | drain =>
    obtain ⟨place, found, fresh⟩ := accounted.fresh _ _ rfl
    exact accounted.set found fresh rfl rfl
  | leave waited =>
    exact accounted.same rfl (admissions_departure _ _).results (unreturned_some waited rfl)
  | goOn released => exact accounted.same rfl rfl (unreturned_some released rfl)
  | quitLine waited => exact accounted.set waited rfl rfl (admissions_departure _ _).results
  | quit found working => exact accounted.set found (result?_of_working working) rfl rfl

theorem Move.accounted (move : Move input a effects b) (accounted : Accounted a before) :
    Accounted b (before ++ effects) := by
  cases move with
  | loop move => exact move.accounted accounted
  | @task c _ _ _ move =>
    have quiet := (admissions_admission c.gate).results
    refine accounted.same move.loops_eq ?_ (unreturned_none _)
    cases move with
    | start | call => rfl
    | stop | free => exact quiet
  | watch move =>
    refine accounted.same move.loops_eq ?_ (unreturned_none _)
    cases move <;> rfl
  | pass => exact accounted.same rfl rfl (unreturned_none _)

/-- The results that have been returned in a run are those of the loops. -/
theorem run_results (settings : ConsumerSettings) (inputs : List Input) :
    (((ofSettings settings).run inputs).2.filterMap Effect.result?).Perm
      (((ofSettings settings).run inputs).1.loops.filterMap Place.result?) :=
  (run_induction (P := fun a effects => Accounted a effects) (fun move => move.accounted)
    ⟨.refl _, unreturned_none _⟩ inputs).results

/-! ## Phases -/

/-- The phase that is shown. -/
def Effect.phase? : Effect → Option Phase
  | .entered phase => some phase
  | _ => none

/-- The phases that are shown one after another. -/
def shownPhases (effects : List Effect) : List Phase := effects.filterMap Effect.phase?

/-- The phases that a loop shows when it returns. -/
def phasesOf : Except ConsumerError Stopped → List Phase
  | .ok _ => [.draining, .closed]
  | .error _ => [.closed]

theorem Admissions.phases (admissions : Admissions effects) : shownPhases effects = [] :=
  admissions.filterMap_eq_nil fun _ => rfl

/-- A move shows the phases of the loop that returns in it, if one does, and the last of them
stays. -/
theorem Move.shown (move : Move input a effects b) :
    shownPhases effects = (effects.filterMap Effect.result?).flatMap phasesOf ∧
      b.consumer.phase = (shownPhases effects).getLast?.getD a.consumer.phase := by
  cases move with
  | loop move =>
    cases move with
    | leave | quitLine =>
      rw [(admissions_departure _ _).phases, (admissions_departure _ _).results]
      exact ⟨rfl, rfl⟩
    | _ => exact ⟨rfl, rfl⟩
  | @task c _ _ _ move =>
    have phases := (admissions_admission c.gate).phases
    have results := (admissions_admission c.gate).results
    cases move with
    | start | call => exact ⟨rfl, rfl⟩
    | stop | free =>
      exact ⟨phases.trans (congrArg (List.flatMap phasesOf) results).symm,
        (congrArg (fun shown => shown.getLast?.getD c.phase) phases).symm⟩
  | watch move => cases move <;> exact ⟨rfl, rfl⟩
  | pass => exact ⟨rfl, rfl⟩

/-- A run shows the phases of the loops that return in it, and the last of them stays. -/
theorem run_shown (c : Consumer) (inputs : List Input) :
    shownPhases (c.run inputs).2 = ((c.run inputs).2.filterMap Effect.result?).flatMap phasesOf ∧
      (c.run inputs).1.phase = (shownPhases (c.run inputs).2).getLast?.getD c.phase := by
  have start : shownPhases [] = ([].filterMap Effect.result?).flatMap phasesOf ∧
      c.phase = (shownPhases []).getLast?.getD c.phase := ⟨rfl, rfl⟩
  refine run_induction_from (c := c) (P := fun a effects =>
    shownPhases effects = (effects.filterMap Effect.result?).flatMap phasesOf ∧
      a.consumer.phase = (shownPhases effects).getLast?.getD c.phase) (fun move held => ?_)
        start inputs
  obtain ⟨shown, last⟩ := move.shown
  refine ⟨?_, ?_⟩
  · rw [shownPhases, List.filterMap_append, List.filterMap_append, List.flatMap_append, ← held.1,
      ← shown]
    rfl
  · rw [shownPhases, List.filterMap_append, List.getLast?_append, last, held.2]
    exact (Option.getD_or ..).symm

/-- The last phase that a loop shows is that it is closed. -/
theorem getLast?_phasesOf {results : List (Except ConsumerError Stopped)}
    (returned : results ≠ []) :
    (results.flatMap phasesOf).getLast? = some .closed := by
  obtain ⟨earlier, last, rfl⟩ := (List.eq_nil_or_concat results).resolve_left returned
  rw [List.concat_eq_append, List.flatMap_append, List.getLast?_append]
  cases last <;> rfl

theorem results_eq_nil_iff {places : List Place} :
    places.filterMap Place.result? = [] ↔ ∀ result, .returned result ∉ places := by
  rw [List.filterMap_eq_nil_iff]
  constructor
  · intro unreturned result member
    cases unreturned _ member
  · intro unreturned place member
    cases place with
    | returned result => exact absurd member (unreturned result)
    | _ => rfl

/-- A consumer is closed once a loop has returned, and before that it is running. -/
theorem run_phase (settings : ConsumerSettings) (inputs : List Input) :
    let c := ((ofSettings settings).run inputs).1
    (∀ result, .returned result ∉ c.loops) ∧ c.phase = .running ∨
      (∃ result, .returned result ∈ c.loops) ∧ c.phase = .closed := by
  intro c
  obtain ⟨shown, last⟩ := run_shown (ofSettings settings) inputs
  have results := run_results settings inputs
  by_cases unreturned : ∀ result, .returned result ∉ c.loops
  · rw [results_eq_nil_iff.mpr unreturned] at results
    rw [shown, List.perm_nil.mp results] at last
    exact .inl ⟨unreturned, last⟩
  · have returned : ((ofSettings settings).run inputs).2.filterMap Effect.result? ≠ [] := by
      intro nil
      rw [nil] at results
      exact unreturned (results_eq_nil_iff.mp (List.nil_perm.mp results))
    rw [shown, getLast?_phasesOf returned] at last
    exact .inr ⟨Classical.not_forall_not.mp unreturned, last⟩

/-! ## Loops that follow one another -/

theorem serve_loops (c : Consumer) :
    (c.step .serve).1.loops =
      c.loops ++ [if c.stopping then .returned (.ok .closed) else .receiving] := by
  cases stopping : c.stopping <;> simp [step, serve, nextBatch, stopping, drain, finishLoop, moved]

/-- Only a loop that is dropped is abandoned. -/
theorem Move.abandoned (move : Move input a effects b) (other : ∀ loop, input ≠ .abandon loop)
    (kept : .abandoned ∉ a.consumer.loops) : .abandoned ∉ b.consumer.loops := by
  cases move with
  | loop move =>
    cases move with
    | begin => simpa using kept
    | take | enter | give | turn | leave | goOn => exact kept
    | fail | ask | wait | release | drain =>
      exact fun member => kept ((List.mem_or_eq_of_mem_set member).resolve_right (by simp))
    | quitLine | quit => exact absurd rfl (other _)
  | task move => rwa [move.loops_eq]
  | watch move => rwa [move.loops_eq]
  | pass => exact kept

/-- What holds between the steps of a run in good order: no loop is dropped, and after a return in
good order no loop is at work. -/
structure Steady (c : Consumer) (effects : List Effect) : Prop where
  tracked : Tracked c
  lasting : Lasting ⟨c, none⟩ effects
  kept : .abandoned ∉ c.loops
  spent : .returned (.ok .closed) ∈ c.loops → Resting c

theorem steady_ofSettings (settings : ConsumerSettings) : Steady (ofSettings settings) [] where
  tracked := rfl
  lasting := lasting_ofSettings settings
  kept := List.not_mem_nil
  spent _ := resting_ofSettings settings

theorem Steady.stopping (steady : Steady c before) (closed : .returned (.ok .closed) ∈ c.loops) :
    c.stopping = true := by
  obtain ⟨loop, found⟩ := List.mem_iff_getElem?.mp closed
  exact steady.lasting.stopping found

/-- A return in good order leaves no loop at work. -/
theorem Steady.step_spent (steady : Steady c before) (orderly : input.Orderly c)
    (closed : .returned (.ok .closed) ∈ (c.step input).1.loops) : Resting (c.step input).1 := by
  have tracked : Tracked (c.step input).1 := steady.tracked.step orderly
  cases step_outline c input with
  | begin =>
    rw [serve_loops] at closed
    rw [Resting, serve_loops]
    cases stopping : c.stopping with
    | true => exact List.forall_mem_append.mpr ⟨orderly, List.forall_mem_singleton.mpr rfl⟩
    | false =>
      -- the new loop receives, so one of those before it returned in good order, which needs a
      -- shutdown
      have earlier : .returned (.ok .closed) ∈ c.loops := by simpa [stopping] using closed
      exact absurd (steady.stopping earlier) (Bool.eq_false_iff.mp stopping)
  | @turn _ _ _ place next found working turned =>
    have fresh : .returned (.ok .closed) ∉ c.loops := fun member => by
      rw [steady.spent member _ (List.mem_of_getElem? found)] at working
      cases working
    -- the loop whose turn it was is the one that returned, and it cleared the flag
    rw [turned.loops] at closed
    have same := (List.mem_or_eq_of_mem_set closed).resolve_left fresh
    refine tracked.resting ?_
    rw [turned.polling, ← same]
    exact Bool.and_false _
  | drop found working => exact absurd (orderly _ found) (by simp [working])
  | aside loops =>
    rw [Resting, loops]
    rw [loops] at closed
    exact steady.spent closed

theorem Steady.step (steady : Steady c before) (orderly : input.Orderly c) :
    Steady (c.step input).1 (before ++ (c.step input).2) where
  tracked := steady.tracked.step orderly
  lasting := (step_moves c input).induction before (fun move => move.lasting) steady.lasting
  kept := by
    by_cases drops : ∃ loop, input = .abandon loop
    · obtain ⟨loop, rfl⟩ := drops
      rw [step_abandon_of_idle orderly]
      exact steady.kept
    · have other (loop : Nat) : input ≠ .abandon loop := fun same => drops ⟨loop, same⟩
      exact (step_moves c input).induction (P := fun a _ => .abandoned ∉ a.consumer.loops) []
        (fun move => move.abandoned other) steady.kept
  spent := steady.step_spent orderly

theorem Steady.run {inputs : List Input} (steady : Steady c before) (orderly : Orderly c inputs) :
    Steady (c.run inputs).1 (before ++ (c.run inputs).2) := by
  induction inputs generalizing c before with
  | nil => simpa [Consumer.run] using steady
  | cons input inputs ih =>
    simp only [Consumer.run]
    rw [← List.append_assoc]
    exact ih (steady.step orderly.1) orderly.2

/-- At rest every loop has returned. -/
theorem Steady.returned (steady : Steady c before) (resting : Resting c)
    (member : place ∈ c.loops) :
    ∃ result, place = .returned result := by
  have idle := resting place member
  cases place with
  | returned result => exact ⟨result, rfl⟩
  | abandoned => exact absurd member steady.kept
  | _ => cases idle

/-! ## While a loop runs -/

variable {olds : List Place}

/-- As long as no other loop begins, only the last loop moves. -/
theorem step_alone (alone : c.loops = olds ++ [place]) (idle : ∀ old ∈ olds, old.working = false)
    (orderly : input.Orderly c) (other : input ≠ .serve) :
    ∃ next, (c.step input).1.loops = olds ++ [next] := by
  cases step_outline c input with
  | begin => exact absurd rfl other
  | @turn _ _ loop _ next found working turned =>
    have bound := lt_length_of_getElem? found
    rw [alone] at found bound
    rw [List.length_append, List.length_singleton] at bound
    by_cases old : loop < olds.length
    · rw [List.getElem?_append_left old] at found
      rw [idle _ (List.mem_of_getElem? found)] at working
      cases working
    · have last : loop = olds.length := by omega
      refine ⟨next, ?_⟩
      rw [turned.loops, alone, last, List.set_append_right _ _ (Nat.le_refl _), Nat.sub_self]
      rfl
  | drop found working => exact absurd (orderly _ found) (by simp [working])
  | aside loops => exact ⟨place, loops.trans alone⟩

theorem run_alone {inputs : List Input} (alone : c.loops = olds ++ [place])
    (idle : ∀ old ∈ olds, old.working = false) (orderly : Orderly c inputs)
    (others : .serve ∉ inputs) :
    ∃ next, (c.run inputs).1.loops = olds ++ [next] := by
  induction inputs generalizing c place with
  | nil => exact ⟨place, alone⟩
  | cons input inputs ih =>
    obtain ⟨other, others⟩ := List.ne_and_not_mem_of_not_mem_cons others
    obtain ⟨next, alone⟩ := step_alone alone idle orderly.1 (Ne.symm other)
    exact ih alone orderly.2 others

/-- How far a phase is along the way. -/
def Phase.rank : Phase → Nat
  | .running => 0
  | .draining => 1
  | .closed => 2

/-- Phases that never go back. -/
def Forward (phases : List Phase) : Prop := phases.Pairwise fun p q => p.rank ≤ q.rank

/-- A loop that returns in good order goes back if the consumer was closed before; one that fails
does not. -/
theorem forward_iff (place : Place) {phase : Phase} (settled : phase = .running ∨ phase = .closed) :
    Forward (phase :: place.result?.toList.flatMap phasesOf) ↔
      phase = .running ∨ place ≠ .returned (.ok .closed) := by
  rcases settled with rfl | rfl
  · refine iff_of_true ?_ (.inl rfl)
    cases place with
    | returned result => cases result <;> simp [Forward, Place.result?, phasesOf, Phase.rank]
    | _ => simp [Forward, Place.result?]
  · rw [or_iff_right (by simp)]
    cases place with
    | returned result =>
      cases result with
      | ok stopped => simp [Forward, Place.result?, phasesOf, Phase.rank]
      | error e => simp [Forward, Place.result?, phasesOf]
    | _ => simp [Forward, Place.result?]

theorem orderly_append {earlier later : List Input} :
    Orderly c (earlier ++ later) ↔ Orderly c earlier ∧ Orderly (c.run earlier).1 later := by
  induction earlier generalizing c with
  | nil => exact (iff_of_eq (true_and _)).symm
  | cons input earlier ih => rw [List.cons_append, Orderly, ih, Orderly, and_assoc, run]

/-- What is shown while a loop runs that began when no other one was at work. -/
theorem shown_while_alone {earlier later : List Input}
    (orderly : Orderly (ofSettings settings) (earlier ++ .serve :: later))
    (others : .serve ∉ later) :
    let served := ((ofSettings settings).run earlier).1
    ∃ place, (served.run (.serve :: later)).1.loops = served.loops ++ [place] ∧
      shownPhases (served.run (.serve :: later)).2 = place.result?.toList.flatMap phasesOf := by
  intro served
  obtain ⟨-, rested, going⟩ := orderly_append.mp orderly
  obtain ⟨place, alone⟩ := run_alone (serve_loops served) rested going others
  refine ⟨place, alone, ?_⟩
  have whole := run_results settings (earlier ++ .serve :: later)
  have results : (((ofSettings settings).run earlier).2.filterMap Effect.result? ++
      (served.run (.serve :: later)).2.filterMap Effect.result?).Perm
        ((served.loops ++ [place]).filterMap Place.result?) := by
    rw [← alone, ← List.filterMap_append]
    rwa [run_append] at whole
  rw [List.filterMap_append] at results
  -- what the earlier loops returned was returned earlier
  have own :=
    (List.perm_append_left_iff _).mp
      (results.trans ((run_results settings earlier).symm.append_right _))
  have same : (served.run (.serve :: later)).2.filterMap Effect.result? = place.result?.toList := by
    rw [List.filterMap_cons, List.filterMap_nil] at own
    cases returned : place.result? with
    | none => exact List.perm_nil.mp (by simpa [returned] using own)
    | some result => exact List.perm_singleton.mp (by simpa [returned] using own)
  exact (run_shown served (.serve :: later)).1.trans (congrArg (List.flatMap phasesOf) same)

/-- When a loop begins, the consumer is running exactly if it is the first one. -/
theorem running_iff {inputs : List Input} (orderly : Orderly (ofSettings settings) inputs)
    (resting : Resting ((ofSettings settings).run inputs).1) :
    ((ofSettings settings).run inputs).1.phase = .running ↔
      ((ofSettings settings).run inputs).1.loops = [] := by
  have steady := (steady_ofSettings settings).run orderly
  rcases run_phase settings inputs with ⟨unreturned, running⟩ | ⟨⟨result, member⟩, closed⟩
  · refine iff_of_true running (List.eq_nil_iff_forall_not_mem.mpr fun place member => ?_)
    obtain ⟨result, rfl⟩ := steady.returned resting member
    exact unreturned result member
  · exact iff_of_false (by simp [closed]) (List.ne_nil_of_mem member)

/-! ## The phases of a run in good order -/

/-- A consumer whose loops follow one another and run until they return shows phases of which the
last one stays.  It is closed once a loop has returned, and before that it is running.

While a loop is at work it is running exactly if no loop has failed.  Between loops it is closed.
From the beginning of a loop to that of the next one it shows the phases of this loop alone, after
the phase that it had before.  They never go back exactly if the loop is the first one or does not
return in good order. -/
theorem phases_followed (settings : ConsumerSettings) (inputs : List Input)
    (orderly : Orderly (ofSettings settings) inputs) :
    let c := ((ofSettings settings).run inputs).1
    c.phase = (shownPhases ((ofSettings settings).run inputs).2).getLast?.getD .running ∧
      ((∀ result, .returned result ∉ c.loops) ∧ c.phase = .running ∨
        (∃ result, .returned result ∈ c.loops) ∧ c.phase = .closed) ∧
      (¬ Resting c → (c.phase = .running ↔ ∀ e, .returned (.error e) ∉ c.loops)) ∧
      (Resting c → c.loops ≠ [] → c.phase = .closed) ∧
      ∀ earlier later, inputs = earlier ++ .serve :: later → .serve ∉ later →
        let served := ((ofSettings settings).run earlier).1
        let shown := shownPhases (served.run (.serve :: later)).2
        ∃ place, c.loops = served.loops ++ [place] ∧ shown = place.result?.toList.flatMap phasesOf ∧
          (Forward (served.phase :: shown) ↔
            served.loops = [] ∨ place ≠ .returned (.ok .closed)) := by
  intro c
  have steady : Steady c _ := (steady_ofSettings settings).run orderly
  have phase := run_phase settings inputs
  refine ⟨(run_shown (ofSettings settings) inputs).2, phase,
    fun busy => ?_, fun resting begun => ?_, ?_⟩
  · rcases phase with ⟨unreturned, running⟩ | ⟨⟨result, member⟩, closed⟩
    · exact iff_of_true running fun e => unreturned (.error e)
    · refine iff_of_false (fun running => by cases closed.symm.trans running) fun unfailed => ?_
      cases result with
      | ok stopped => exact busy (steady.spent member)
      | error e => exact unfailed e member
  · refine (phase.resolve_left fun running => begun ?_).2
    exact (running_iff orderly resting).mp running.2
  · rintro earlier later rfl others served shown
    obtain ⟨before, rested, -⟩ := orderly_append.mp orderly
    obtain ⟨place, alone, same⟩ := shown_while_alone orderly others
    have settled : served.phase = .running ∨ served.phase = .closed :=
      (run_phase settings earlier).imp And.right And.right
    refine ⟨place, ?_, same, ?_⟩
    · rw [← alone]
      exact congrArg (fun result => result.1.loops)
        (run_append (ofSettings settings) earlier (.serve :: later))
    · exact (same ▸ forward_iff place settled).trans (or_congr_left (running_iff before rested))

/-- A loop fails, and another one begins. -/
def servedAgain : List Input := [.serve, .answer 0 (.error (.connectionFailed "")), .serve]

theorem orderly_servedAgain : Orderly (ofSettings oneSlot) servedAgain :=
  ⟨resting_ofSettings oneSlot, trivial, List.forall_mem_singleton.mpr rfl, trivial⟩

theorem phases_followed_again :
    let c := ((ofSettings oneSlot).run servedAgain).1
    Orderly (ofSettings oneSlot) servedAgain ∧ c.phase ≠ .running := by
  intro c
  obtain ⟨-, -, working, -⟩ := phases_followed oneSlot servedAgain orderly_servedAgain
  have receives : .receiving ∈ c.loops := List.mem_of_getElem? (i := 1) rfl
  refine ⟨orderly_servedAgain, fun running => ?_⟩
  exact (working (not_resting receives rfl)).mp running _ List.mem_cons_self

/-- After a failure a loop that begins receives in a consumer that is closed.  A loop that begins
after a shutdown shows that the consumer drains, which was closed before. -/
theorem phase_misleads :
    let again := (ofSettings oneSlot).run servedAgain
    let stopped := (ofSettings oneSlot).run [.shutDown 1000, .serve]
    (Orderly (ofSettings oneSlot) servedAgain ∧ again.1.loops[1]? = some .receiving ∧
        again.1.phase = .closed) ∧
      Orderly (ofSettings oneSlot) [.shutDown 1000, .serve, .serve] ∧
      ¬ Forward (stopped.1.phase :: shownPhases (stopped.1.step .serve).2) := by
  intro again stopped
  refine ⟨⟨orderly_servedAgain, rfl, rfl⟩, ⟨trivial, ?_, ?_, trivial⟩, ?_⟩
  · exact resting_ofSettings oneSlot
  · exact List.forall_mem_singleton.mpr rfl
  · have shown : stopped.1.phase :: shownPhases (stopped.1.step .serve).2 =
        [.closed, .draining, .closed] := rfl
    rw [shown]
    simp [Forward, Phase.rank]

end MessageQueue.Consumer
