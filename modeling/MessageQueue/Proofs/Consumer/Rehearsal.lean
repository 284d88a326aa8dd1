import MessageQueue.Consumer.Rehearsal
import MessageQueue.Proofs.Consumer.History
import MessageQueue.Proofs.Consumer.Slots

/-!
# Rehearsals are runs

A rehearsal decides what the world does and when.  What the consumer does in turn is left to its
steps: whatever the script leads to, from an alarm to the next act, leaves the consumer and the
journal alone (`Beside`).  Two things do not.  An input that is taken is a step, and a jump of the
time is a step in which time passes (`entries_take`, `consumer_advanced`).  So a rehearsal is the
run of its consumer on the inputs that it has taken (`run_eq`), and what holds of all runs holds of
all rehearsals.

An example of this is the peak.  It is counted from the journal alone, and is never more than the
slots of the consumer (`peak_le`).
-/

namespace MessageQueue.Rehearsal

open Consumer

variable {r s t : Rehearsal}

/-! ## What leaves the consumer alone -/

/-- The consumer and the journal are the same. -/
structure Beside (r s : Rehearsal) : Prop where
  consumer : s.consumer = r.consumer
  journal : s.journal = r.journal

theorem Beside.trans (first : Beside r s) (second : Beside s t) : Beside r t :=
  ⟨second.consumer.trans first.consumer, second.journal.trans first.journal⟩

theorem beside_foldl {α : Type} {change : Rehearsal → α → Rehearsal}
    (each : ∀ r x, Beside r (change r x))
    (r : Rehearsal) (xs : List α) : Beside r (xs.foldl change r) := by
  induction xs generalizing r with
  | nil => exact ⟨rfl, rfl⟩
  | cons x xs ih => exact (each r x).trans (ih (change r x))

theorem beside_after (r : Rehearsal) (delay : Nat) (input : Input) :
    Beside r (r.after delay input) := by
  unfold after
  split <;> exact ⟨rfl, rfl⟩

theorem beside_watched (r : Rehearsal) (watch : Nat) : Beside r (r.watched watch) := by
  unfold watched
  split <;> exact ⟨rfl, rfl⟩

theorem beside_followed (r : Rehearsal) (effect : Effect) : Beside r (r.followed effect) := by
  unfold followed
  split
  next =>
    split
    next => exact beside_after ..
    next d rest _ =>
      have shortened : Beside r { r with script := { r.script with deliveries := rest } } :=
        ⟨rfl, rfl⟩
      exact shortened.trans (beside_after ..)
  next => exact beside_after ..
  next => exact beside_after ..
  next => exact ⟨rfl, rfl⟩
  next => exact ⟨rfl, rfl⟩
  next =>
    dsimp only
    split
    next => exact beside_after ..
    next =>
      split
      next => exact beside_after ..
      next => exact ⟨rfl, rfl⟩
  next => exact ⟨rfl, rfl⟩
  next => exact ⟨rfl, rfl⟩
  next => exact ⟨rfl, rfl⟩

theorem beside_act (r : Rehearsal) (act : Act) : Beside r (r.act act) := by
  cases act <;> exact ⟨rfl, rfl⟩

theorem beside_performed (r : Rehearsal) : Beside r r.performed := by
  have shortened (acts : List (Nat × Act)) : Beside r { r with script := { r.script with acts } } :=
    ⟨rfl, rfl⟩
  exact (shortened _).trans (beside_foldl beside_act _ _)

/-! ## What does not -/

/-- What happens in a step, with the time and whether handlers are told to give up by then. -/
def entriesIn (c : Consumer) (input : Input) : List Entry :=
  (c.step input).2.map fun effect => ⟨(c.step input).1.now, effect, (c.step input).1.givingUp⟩

/-- An input that is taken is a step of the consumer, and its effects are entered in the journal. -/
theorem entries_take (r : Rehearsal) (input : Input) :
    (r.take input).consumer = (r.consumer.step (r.actual input)).1 ∧
      (r.take input).history = r.history ++ entriesIn r.consumer (r.actual input) := by
  let entered : Rehearsal :=
    { r with
      consumer := (r.consumer.step (r.actual input)).1
      journal := (entriesIn r.consumer (r.actual input)).reverse ++ r.journal }
  have followed : Beside entered ((r.consumer.step (r.actual input)).2.foldl followed entered) :=
    beside_foldl beside_followed _ _
  have taken : Beside entered (r.take input) := by
    unfold take
    dsimp only
    split
    next watch _ => exact followed.trans (beside_watched _ watch)
    next => exact followed
  refine ⟨taken.consumer, ?_⟩
  rw [history, taken.journal, List.reverse_append, List.reverse_reverse, history]

/-- A jump of the time is a step without effects. -/
theorem consumer_advanced (r : Rehearsal) (time : Nat) :
    (r.advanced time).consumer = (r.consumer.step (.wait (time - r.consumer.now))).1 ∧
      (r.advanced time).history = r.history := by
  have performed := beside_performed
    { r with
      consumer := (r.consumer.step (.wait (time - r.consumer.now))).1
      ready := r.ready ++ (r.alarms.takeWhile (·.1 ≤ time)).map (·.2)
      alarms := r.alarms.dropWhile (·.1 ≤ time) }
  exact ⟨performed.consumer, congrArg List.reverse performed.journal⟩

/-- When everybody waits the rehearsal is over or the time jumps. -/
theorem exists_advanced (jumped : r.jump = some s) : ∃ time, s = r.advanced time := by
  unfold jump at jumped
  split at jumped
  next time _ _ _ =>
    split at jumped
    next =>
      cases jumped
      exact ⟨time, rfl⟩
    next =>
      split at jumped
      next => cases jumped
      next =>
        cases jumped
        exact ⟨r.nextAct, rfl⟩
  next =>
    split at jumped
    next => cases jumped
    next =>
      cases jumped
      exact ⟨r.nextAct, rfl⟩

/-! ## A rehearsal is a run -/

/-- What happens in a run, with the times. -/
def entries (c : Consumer) : List Input → List Entry
  | [] => []
  | input :: inputs => entriesIn c input ++ entries (c.step input).1 inputs

theorem effects_entries (c : Consumer) (inputs : List Input) :
    (entries c inputs).map Entry.effect = (c.run inputs).2 := by
  induction inputs generalizing c with
  | nil => rfl
  | cons input inputs ih =>
    have effects : (entriesIn c input).map Entry.effect = (c.step input).2 := by
      simp [entriesIn, Function.comp_def]
    simp only [entries, Consumer.run, List.map_append, effects, ih]

/-- The inputs that a rehearsal takes, and the times that it lets pass between them. -/
def taken : Nat → Rehearsal → List Input
  | 0, _ => []
  | steps + 1, r =>
    match r.ready with
    | input :: rest =>
      let due : Rehearsal := { r with ready := rest }
      due.actual input :: taken steps (due.take input)
    | [] =>
      match r.jump with
      | some next => .wait (next.consumer.now - r.consumer.now) :: taken steps next
      | none => []

theorem wait_advanced (r : Rehearsal) (time : Nat) :
    .wait ((r.advanced time).consumer.now - r.consumer.now) =
      Input.wait (time - r.consumer.now) := by
  rw [(consumer_advanced r time).1]
  exact congrArg Input.wait (Nat.add_sub_cancel_left ..)

/-- A rehearsal comes to what the run of its consumer on the inputs taken comes to, and its journal
tells of the effects of this run. -/
theorem run_eq (steps : Nat) (r : Rehearsal) :
    (run steps r).consumer = (r.consumer.run (taken steps r)).1 ∧
      (run steps r).history = r.history ++ entries r.consumer (taken steps r) := by
  induction steps generalizing r with
  | zero => exact ⟨rfl, (List.append_nil _).symm⟩
  | succ steps ih =>
    cases ready : r.ready with
    | cons input rest =>
      obtain ⟨consumer, history⟩ := ih (take { r with ready := rest } input)
      obtain ⟨step, entered⟩ := entries_take { r with ready := rest } input
      simp only [run, taken, ready, Consumer.run, entries]
      rw [consumer, history, entered, step, List.append_assoc]
      exact ⟨rfl, rfl⟩
    | nil =>
      cases jumped : r.jump with
      | some next =>
        obtain ⟨time, rfl⟩ := exists_advanced jumped
        obtain ⟨consumer, history⟩ := ih (r.advanced time)
        obtain ⟨step, kept⟩ := consumer_advanced r time
        simp only [run, taken, ready, jumped, Consumer.run, entries, wait_advanced]
        rw [consumer, history, kept, step]
        exact ⟨rfl, rfl⟩
      | none =>
        simp only [run, taken, ready, jumped, Consumer.run, entries, List.append_nil, and_self]

/-- From the beginning on a rehearsal is a run of a new consumer, and its journal tells of all
effects. -/
theorem run_ofScript (settings : ConsumerSettings) (script : Script) (steps : Nat) :
    let inputs := taken steps (ofScript settings script)
    let r := run steps (ofScript settings script)
    r.consumer = ((ofSettings settings).run inputs).1 ∧
      r.history = entries (ofSettings settings) inputs ∧
      r.history.map Entry.effect = ((ofSettings settings).run inputs).2 := by
  intro inputs r
  obtain ⟨consumer, history⟩ := run_eq steps (ofScript settings script)
  exact ⟨consumer, history, (congrArg _ history).trans (effects_entries _ _)⟩

/-! ## The peak -/

section Peak

variable {c : Consumer} {a b : Moment} {input : Input} {effects : List Effect}

/-- A handler that changes its stage is counted by its new stage and no longer by its old one. -/
theorem running_staged {index : Nat} {task : Task} (found : c.tasks[index]? = some task)
    (stage : Stage) :
    (c.staged index task stage).running + (if task.stage = .handling then 1 else 0) =
      c.running + if stage = .handling then 1 else 0 := by
  obtain ⟨present, rfl⟩ := List.getElem?_eq_some_iff.mp found
  have counted (handling : c.tasks[index].stage = .handling) : 0 < c.running :=
    List.countP_pos_iff.mpr ⟨_, List.getElem_mem present, decide_eq_true handling⟩
  simp only [running, staged, List.countP_set present, decide_eq_true_eq] at counted ⊢
  split
  next handling =>
    have := counted handling
    omega
  next => omega

theorem mostAtOnce_of_admissions (admissions : Admissions effects) (now most : Nat)
    (rest : List Effect) :
    mostAtOnce now most (effects ++ rest) = mostAtOnce now most rest := by
  induction effects with
  | nil => rfl
  | cons e effects ih =>
    obtain ⟨⟨loop, rfl⟩, others⟩ := List.forall_mem_cons.mp admissions
    exact ih others

theorem mostAtOnce_taskMove {d : Consumer} {index : Nat} (move : TaskMove index input c effects d)
    (most : Nat) :
    ∃ m, m ≤ max most d.running ∧
      ∀ rest, mostAtOnce c.running most (effects ++ rest) = mostAtOnce d.running m rest := by
  have granted := mostAtOnce_of_admissions (admissions_admission c.gate)
  cases move with
  | start found fresh =>
    have more := running_staged found .handling
    simp only [fresh, reduceCtorEq, if_false, if_true, Nat.add_zero] at more
    exact ⟨max most (c.running + 1), Nat.le_of_eq (by rw [more]), fun rest => by rw [more]; rfl⟩
  | @call _ _ outcome _ found handling =>
    have fewer := running_staged found (.following outcome)
    simp only [handling, reduceCtorEq, if_false, if_true, Nat.add_zero] at fewer
    exact ⟨most, Nat.le_max_left .., fun rest => by rw [← fewer]; rfl⟩
  | @stop _ _ outcome found handling =>
    have fewer := running_staged (c := { c with gate := c.gate.giveBack }) found (.finished outcome)
    simp only [handling, reduceCtorEq, if_false, if_true, Nat.add_zero] at fewer
    refine ⟨most, Nat.le_max_left .., fun rest => ?_⟩
    have same : c.running = Consumer.running { c with gate := c.gate.giveBack } := rfl
    rw [same, ← fewer]
    exact granted ..
  | @free _ _ outcome _ found following =>
    have kept := running_staged (c := { c with gate := c.gate.giveBack }) found (.finished outcome)
    simp only [following, reduceCtorEq, if_false, Nat.add_zero] at kept
    refine ⟨most, Nat.le_max_left .., fun rest => ?_⟩
    rw [kept]
    exact granted ..

/-- What is counted along a move are the handlers at work. -/
theorem mostAtOnce_move (move : Move input a effects b) (most : Nat) :
    ∃ m, m ≤ max most b.consumer.running ∧
      ∀ rest, mostAtOnce a.consumer.running most (effects ++ rest) =
        mostAtOnce b.consumer.running m rest := by
  cases move with
  | loop move =>
    have same : b.consumer.running = a.consumer.running := by
      rcases move.dispatches with ⟨m, -, tasks⟩ | ⟨tasks, -⟩ <;> simp [running, tasks]
    refine ⟨most, Nat.le_max_left .., fun rest => ?_⟩
    rw [same]
    cases move with
    | leave | quitLine => exact mostAtOnce_of_admissions (admissions_departure _ _) ..
    | _ => rfl
  | task move => exact mostAtOnce_taskMove move most
  | @watch c d _ _ move =>
    have same : d.running = c.running := by rw [running, move.tasks_eq, running]
    refine ⟨most, Nat.le_max_left .., fun rest => ?_⟩
    rw [same]
    cases move <;> rfl
  | pass => exact ⟨most, Nat.le_max_left .., fun rest => rfl⟩

/-- The effects so far tell of no more handlers at once than there are slots. -/
structure Peaked (slots : Nat) (a : Moment) (before : List Effect) : Prop where
  balanced : Balanced a.consumer
  capacity : a.consumer.gate.capacity = slots
  counted : ∃ m, m ≤ slots ∧
    ∀ rest, mostAtOnce 0 0 (before ++ rest) = mostAtOnce a.consumer.running m rest

theorem Peaked.move {slots : Nat} {before : List Effect} (peaked : Peaked slots a before)
    (move : Move input a effects b) : Peaked slots b (before ++ effects) := by
  obtain ⟨m, low, counted⟩ := peaked.counted
  obtain ⟨most, limit, same⟩ := mostAtOnce_move move m
  have balanced : b.consumer.gate.spare + b.consumer.tasks.countP Task.unfinished =
      b.consumer.gate.capacity := move.balanced peaked.balanced
  have capacity := move.capacity_eq.trans peaked.capacity
  have running := running_le_unfinished b.consumer
  refine ⟨balanced, capacity, most, by omega, fun rest => ?_⟩
  rw [List.append_assoc, counted, same]

/-- Never more handlers are at work at once in a rehearsal than there are slots. -/
theorem peak_le (settings : ConsumerSettings) (script : Script) (steps : Nat) :
    (run steps (ofScript settings script)).peak ≤ slots settings.maxConcurrency := by
  obtain ⟨-, -, effects⟩ := run_ofScript settings script steps
  have peaked : Peaked (slots settings.maxConcurrency) _ _ :=
    run_induction (P := fun a effects => Peaked (slots settings.maxConcurrency) a effects)
      (fun move peaked => peaked.move move)
      ⟨balanced_ofSettings settings, rfl, 0, Nat.zero_le _, fun rest => rfl⟩
      (taken steps (ofScript settings script))
  obtain ⟨m, low, counted⟩ := peaked.counted
  have all := counted []
  rw [List.append_nil] at all
  rw [peak, effects, all]
  exact low

end Peak

end MessageQueue.Rehearsal
