import MessageQueue.Proofs.Consumer.FollowUp

/-!
# What becomes of a batch

A loop goes from round to round: it asks for a batch and gives its messages to handlers, from the
front.  In the last round, and only there, it may make the messages that are left visible again, in
the same order.  `Ledger` says what the effects of a loop are by what the loop is at.  Every move
keeps the ledger, so when a loop returns each message of each of its batches is found in one of two
places: it was given to a handler of its own, or it was made visible again.

The batches are those that the queue has sent.  What a loop is told is defined on the inputs
(`heard`), and a loop takes notice of all of it in order (`noticed_run`).

No message is made visible again before a shutdown has begun.  `Cautious` is the invariant for this.
-/

namespace MessageQueue.Consumer

/-! ## Rounds -/

/-- What became of a batch. -/
structure Round where
  /-- The messages that were given to handlers, with the numbers of these. -/
  given : List (Nat × ReceivedMessage)
  /-- The messages that were made visible again. -/
  released : List ReceivedMessage
  /-- The messages that are left. -/
  pending : List ReceivedMessage

/-- The batch, in its order. -/
def Round.batch (r : Round) : List ReceivedMessage :=
  r.given.map Prod.snd ++ r.released ++ r.pending

/-- Every message was given to a handler. -/
def Round.Served (r : Round) : Prop := r.released = [] ∧ r.pending = []

/-- What a loop asks for. -/
def batchRequest (settings : ConsumerSettings) : QueueCall :=
  .receive (.allAttributes settings.queueUrl settings.maxMessages settings.waitSeconds)

/-- A message is made visible again. -/
def releaseCall (settings : ConsumerSettings) (m : ReceivedMessage) : QueueCall :=
  .changeVisibility settings.queueUrl m.receiptHandle 0

/-- What a loop does in a round. -/
def Round.effects (settings : ConsumerSettings) (loop : Nat) (r : Round) : List Effect :=
  [.called (.loop loop) (batchRequest settings), .answered loop (.ok r.batch)] ++
    r.given.map (fun p => .dispatched loop p.1 p.2) ++
    r.released.map (fun m => .called (.loop loop) (releaseCall settings m))

/-- What a loop does in rounds one after another. -/
def account (settings : ConsumerSettings) (loop : Nat) (rounds : List Round) : List Effect :=
  rounds.flatMap (Round.effects settings loop)

theorem account_concat (settings : ConsumerSettings) (loop : Nat) (past : List Round) (r : Round) :
    account settings loop (past ++ [r]) =
      account settings loop past ++ r.effects settings loop := by
  simp [account]

/-- A round begins with all messages of its batch left. -/
theorem account_begun (settings : ConsumerSettings) (loop : Nat) (past : List Round)
    (batch : List ReceivedMessage) :
    account settings loop (past ++ [⟨[], [], batch⟩]) =
      account settings loop past ++
        [.called (.loop loop) (batchRequest settings), .answered loop (.ok batch)] := by
  simp [account_concat, Round.effects, Round.batch]

/-- All rounds but the last are over, and these messages are left in the last. -/
inductive Progress : List Round → List ReceivedMessage → Prop where
  | between {past : List Round} (served : ∀ r ∈ past, r.Served) : Progress past []
  | amid {past : List Round} {r : Round} {rest : List ReceivedMessage}
      (served : ∀ r ∈ past, r.Served)
      (left : r.pending = rest) : Progress (past ++ [r]) rest

/-- No message was made visible again. -/
def Unreleased (rounds : List Round) : Prop := ∀ r ∈ rounds, r.released = []

theorem unreleased_concat {past : List Round} {r : Round} (served : ∀ r ∈ past, r.Served)
    (kept : r.released = []) : Unreleased (past ++ [r]) :=
  List.forall_mem_append.mpr
    ⟨fun r member => (served r member).1, List.forall_mem_singleton.mpr kept⟩

namespace Progress

variable {rounds : List Round} {m : ReceivedMessage} {rest : List ReceivedMessage}

theorem pending_eq_nil (progress : Progress rounds []) : ∀ r ∈ rounds, r.pending = [] := by
  cases progress with
  | between served => exact fun r member => (served r member).2
  | amid served left =>
    exact List.forall_mem_append.mpr
      ⟨fun r member => (served r member).2, List.forall_mem_singleton.mpr left⟩

theorem dropLast_released (progress : Progress rounds rest) : Unreleased rounds.dropLast := by
  cases progress with
  | between served => exact fun r member => (served r (List.dropLast_subset _ member)).1
  | amid served =>
    rw [List.dropLast_concat]
    exact fun r member => (served r member).1

/-- When no message is left and none was made visible again, all rounds are over. -/
theorem served (progress : Progress rounds []) (kept : Unreleased rounds) :
    ∀ r ∈ rounds, r.Served :=
  fun r member => ⟨kept r member, progress.pending_eq_nil r member⟩

/-- The first message that is left is given to a handler. -/
theorem give (settings : ConsumerSettings) (loop index : Nat)
    (progress : Progress rounds (m :: rest)) (kept : Unreleased rounds) :
    ∃ more, Progress more rest ∧ Unreleased more ∧
      account settings loop more = account settings loop rounds ++ [.dispatched loop index m] := by
  cases progress with
  | @amid past r _ served left =>
    have unreleased : r.released = [] :=
      kept r (List.mem_append_right past (List.mem_singleton_self r))
    refine ⟨past ++ [⟨r.given ++ [(index, m)], [], rest⟩], .amid served rfl,
      unreleased_concat served rfl, ?_⟩
    simp [account_concat, Round.effects, Round.batch, unreleased, left]

/-- The first message that is left is made visible again. -/
theorem release (settings : ConsumerSettings) (loop : Nat)
    (progress : Progress rounds (m :: rest)) :
    ∃ more, Progress more rest ∧
      account settings loop more =
        account settings loop rounds ++ [.called (.loop loop) (releaseCall settings m)] := by
  cases progress with
  | @amid past r _ served left =>
    refine ⟨past ++ [⟨r.given, r.released ++ [m], rest⟩], .amid served rfl, ?_⟩
    simp [account_concat, Round.effects, Round.batch, left]

end Progress

/-! ## The ledger of a loop -/

/-- The effects of a loop, by what it is at.  Of a loop that was dropped nothing is said. -/
inductive Ledger (settings : ConsumerSettings) (loop : Nat) :
    Option Standing → List Effect → Prop where
  | unborn : Ledger settings loop none []
  | giving {rounds : List Round} {rest : List ReceivedMessage} (progress : Progress rounds rest)
      (kept : Unreleased rounds) :
    Ledger settings loop (some (.runs (.give rest))) (account settings loop rounds)
  | clearing {rounds : List Round} {rest : List ReceivedMessage} (progress : Progress rounds rest) :
    Ledger settings loop (some (.runs (.clear rest))) (account settings loop rounds)
  | asking {rounds : List Round} (served : ∀ r ∈ rounds, r.Served) :
    Ledger settings loop (some (.keeps .receiving))
      (account settings loop rounds ++ [.called (.loop loop) (batchRequest settings)])
  | waiting {rounds : List Round} {m : ReceivedMessage} {rest : List ReceivedMessage}
      (progress : Progress rounds (m :: rest)) (kept : Unreleased rounds) :
    Ledger settings loop (some (.keeps (.waiting m rest))) (account settings loop rounds)
  | releasing {rounds : List Round} {rest : List ReceivedMessage}
      (progress : Progress rounds rest) :
    Ledger settings loop (some (.keeps (.releasing rest))) (account settings loop rounds)
  | closed {rounds : List Round} (progress : Progress rounds []) :
    Ledger settings loop (some (.keeps (.returned (.ok .closed))))
      (account settings loop rounds ++ [.returned loop (.ok .closed)])
  | failed {rounds : List Round} {e : QueueError} (served : ∀ r ∈ rounds, r.Served) :
    Ledger settings loop (some (.keeps (.returned (.error (.receive e)))))
      (account settings loop rounds ++ [.called (.loop loop) (batchRequest settings),
        .answered loop (.error e), .returned loop (.error (.receive e))])
  | abandoned {history : List Effect} : Ledger settings loop (some (.keeps .abandoned)) history

variable {c d : Consumer} {a b : Moment} {input : Input} {effects before history : List Effect}
variable {settings : ConsumerSettings} {loop : Nat}

theorem standing_of_getElem? {place : Place} (found : c.loops[loop]? = some place) :
    Moment.standing ⟨c, none⟩ loop = some (.keeps place) := by
  rw [standing_none, found]
  rfl

theorem batchRequest_eq (kept : c.settings = settings) :
    .receive c.request = batchRequest settings := by
  rw [← kept]
  rfl

theorem releaseCall_eq (kept : c.settings = settings) (m : ReceivedMessage) :
    .changeVisibility c.settings.queueUrl m.receiptHandle 0 = releaseCall settings m := by
  rw [← kept]
  rfl

/-- The loop whose move it is goes on in its ledger. -/
theorem LoopMove.ledger (move : LoopMove loop input a effects b)
    (kept : a.consumer.settings = settings)
    (ledger : Ledger settings loop (a.standing loop) history) :
    Ledger settings loop (b.standing loop) (history ++ loopHistory loop effects) := by
  cases move with
  | begin new =>
    rw [standing_none, List.getElem?_eq_none (Nat.le_of_eq new)] at ledger
    cases ledger
    rw [standing_self]
    have progress : Progress [] [] := .between (by simp)
    exact .giving progress (by simp [Unreleased])
  | @take _ batch asked =>
    rw [standing_of_getElem? asked] at ledger
    cases ledger with
    | @asking rounds served =>
      have progress : Progress (rounds ++ [⟨[], [], batch⟩]) batch := .amid served rfl
      have unreleased : Unreleased (rounds ++ [⟨[], [], batch⟩]) := unreleased_concat served rfl
      have ledger : Ledger settings loop (some (.runs (.give batch))) _ :=
        .giving progress unreleased
      rw [standing_self]
      simpa [loopHistory_cons, Effect.loop?, account_begun] using ledger
  | @fail c e asked =>
    rw [standing_of_getElem? asked] at ledger
    cases ledger with
    | asking served =>
      have ledger : Ledger settings loop (some (.keeps (.returned (.error (.receive e))))) _ :=
        .failed served
      rw [standing_moved { c with phase := .closed, polling := false }
        (lt_length_of_getElem? asked)]
      simpa [loopHistory_cons, Effect.loop?] using ledger
  | @enter c _ _ _ waited =>
    rw [standing_of_getElem? waited] at ledger
    cases ledger with
    | waiting progress unreleased =>
      obtain ⟨more, progress, unreleased, told⟩ :=
        progress.give settings loop c.tasks.length unreleased
      rw [standing_self]
      simpa [loopHistory_cons, Effect.loop?, ← told] using Ledger.giving progress unreleased
  | @give c =>
    rw [standing_self] at ledger ⊢
    cases ledger with
    | giving progress unreleased =>
      obtain ⟨more, progress, unreleased, told⟩ :=
        progress.give settings loop c.tasks.length unreleased
      simpa [loopHistory_cons, Effect.loop?, ← told] using Ledger.giving progress unreleased
  | ask present =>
    rw [standing_self] at ledger
    rw [standing_moved _ present, batchRequest_eq kept]
    cases ledger with
    | giving progress unreleased =>
      simpa [loopHistory_cons, Effect.loop?] using Ledger.asking (progress.served unreleased)
  | @wait c _ _ _ present =>
    rw [standing_self] at ledger
    rw [standing_moved { c with gate := c.gate.join loop } present]
    cases ledger with
    | giving progress unreleased => simpa using Ledger.waiting progress unreleased
  | turn =>
    rw [standing_self] at ledger ⊢
    cases ledger with
    | giving progress => simpa using Ledger.clearing progress
  | leave waited =>
    rw [standing_of_getElem? waited] at ledger
    rw [standing_self, (admissions_departure _ _).loopHistory_eq]
    cases ledger with
    | waiting progress => simpa using Ledger.clearing progress
  | goOn released =>
    rw [standing_of_getElem? released] at ledger
    rw [standing_self]
    cases ledger with
    | releasing progress => simpa using Ledger.clearing progress
  | release present =>
    rw [standing_self] at ledger
    rw [standing_moved _ present, releaseCall_eq kept]
    cases ledger with
    | clearing progress =>
      obtain ⟨more, progress, told⟩ := progress.release settings loop
      simpa [loopHistory_cons, Effect.loop?, ← told] using Ledger.releasing progress
  | @drain c _ present =>
    rw [standing_self] at ledger
    rw [standing_moved { c with phase := .closed, polling := false } present]
    cases ledger with
    | clearing progress => simpa [loopHistory_cons, Effect.loop?] using Ledger.closed progress
  | @quitLine c _ _ waited =>
    rw [standing_moved { c with gate := c.gate.leave loop } (lt_length_of_getElem? waited)]
    exact .abandoned
  | quit found =>
    rw [standing_moved _ (lt_length_of_getElem? found)]
    exact .abandoned

/-- The effects keep the ledgers of all loops. -/
structure Booked (settings : ConsumerSettings) (a : Moment) (effects : List Effect) : Prop where
  kept : a.consumer.settings = settings
  ledgers : ∀ loop, Ledger settings loop (a.standing loop) (loopHistory loop effects)

theorem Move.booked (move : Move input a effects b) (booked : Booked settings a before) :
    Booked settings b (before ++ effects) := by
  refine ⟨move.settings_eq.trans booked.kept, fun loop => ?_⟩
  have ledger := booked.ledgers loop
  rw [loopHistory_append]
  cases move with
  | @loop _ _ busy _ move =>
    by_cases own : busy = loop
    · subst own
      exact move.ledger booked.kept ledger
    · rw [move.loopHistory_eq_nil own, List.append_nil, move.standing_eq_of_ne own]
      exact ledger
  | task move =>
    rw [move.loopHistory_eq_nil, List.append_nil, standing_none, move.loops_eq]
    exact ledger
  | watch move =>
    rw [move.loopHistory_eq_nil, List.append_nil, standing_none, move.loops_eq]
    exact ledger
  | pass =>
    rw [loopHistory_nil, List.append_nil]
    exact ledger

theorem run_booked (settings : ConsumerSettings) (inputs : List Input) :
    Booked settings ⟨((ofSettings settings).run inputs).1, none⟩
      ((ofSettings settings).run inputs).2 :=
  run_induction (P := fun a effects => Booked settings a effects) (fun move => move.booked)
    ⟨rfl, fun _ => .unborn⟩ inputs

/-! ## Nothing is made visible again before a shutdown -/

/-- Whether a loop makes a message visible again. -/
def Effect.releases : Effect → Bool
  | .called (.loop _) (.changeVisibility _ _ _) => true
  | _ => false

/-- Messages are made visible again only after a shutdown has begun. -/
def Warned (effects : List Effect) : Prop :=
  ∀ earlier e later, effects = earlier ++ e :: later → e.releases → .stopped ∈ earlier

theorem Warned.append (warned : Warned before)
    (allowed : .stopped ∈ before ∨ ∀ e ∈ effects, e.releases = false) :
    Warned (before ++ effects) := by
  intro earlier e later split releases
  have stopped (new : e ∈ effects) : .stopped ∈ before :=
    allowed.resolve_right fun quiet => by simp [quiet e new] at releases
  rcases List.append_eq_append_iff.mp split with ⟨between, rfl, told⟩ | ⟨between, rfl, told⟩
  · exact List.mem_append_left between (stopped (by simp [told]))
  · cases between with
    | nil =>
      rw [List.append_nil] at stopped
      rw [List.nil_append] at told
      exact stopped (told ▸ List.mem_cons_self)
    | cons first between =>
      obtain ⟨rfl, -⟩ := List.cons_eq_cons.mp told
      exact warned earlier e between rfl releases

/-- A loop is about to make messages visible again, or is doing so. -/
def Clearing : Option Standing → Prop
  | some (.runs (.clear _)) | some (.keeps (.releasing _)) => True
  | _ => False

/-- A consumer is stopping once a shutdown has begun, and only then does it make messages visible
again. -/
structure Cautious (a : Moment) (effects : List Effect) : Prop where
  told : a.consumer.stopping = true → .stopped ∈ effects
  clearing : ∀ loop, Clearing (a.standing loop) → a.consumer.stopping = true
  warned : Warned effects

theorem Admissions.quiet (admissions : Admissions effects) : ∀ e ∈ effects, e.releases = false := by
  intro e member
  obtain ⟨admitted, rfl⟩ := admissions e member
  rfl

/-- A move that makes a message visible again is one of a loop whose errand this is. -/
theorem Move.releases (move : Move input a effects b) :
    (∃ loop, Clearing (a.standing loop)) ∨ ∀ e ∈ effects, e.releases = false := by
  cases move with
  | @loop _ _ loop _ move =>
    cases move with
    | leave | quitLine => exact .inr (admissions_departure _ _).quiet
    | release =>
      refine .inl ⟨loop, ?_⟩
      rw [standing_self]
      trivial
    | _ => exact .inr (by simp [Effect.releases])
  | @task c _ _ _ move =>
    have quiet := (admissions_admission c.gate).quiet
    cases move with
    | start | call => exact .inr (by simp [Effect.releases])
    | stop | free => exact .inr (by simpa [Effect.releases] using quiet)
  | watch move => cases move <;> exact .inr (by simp [Effect.releases])
  | pass => exact .inr (by simp)

/-- A consumer that stops says so, and it never takes this back. -/
theorem Move.stopping (move : Move input a effects b) :
    b.consumer.stopping = a.consumer.stopping ∨
      b.consumer.stopping = true ∧ .stopped ∈ effects := by
  cases move with
  | loop move => cases move <;> exact .inl rfl
  | task move => cases move <;> exact .inl rfl
  | watch move =>
    cases move with
    | stop => exact .inr ⟨rfl, List.mem_singleton_self _⟩
    | _ => exact .inl rfl
  | pass => exact .inl rfl

/-- A loop that makes messages visible again was told to stop, or did so before its move. -/
theorem LoopMove.clearing (move : LoopMove loop input a effects b)
    (known : Clearing (a.standing loop) → a.consumer.stopping = true)
    (clearing : Clearing (b.standing loop)) :
    b.consumer.stopping = true := by
  cases move with
  | turn _ stopping => exact stopping
  | leave _ stopping => exact stopping
  | goOn released =>
    rw [standing_of_getElem? released] at known
    exact known trivial
  | release =>
    rw [standing_self] at known
    exact known trivial
  | begin | take | enter | give =>
    rw [standing_self] at clearing
    cases clearing
  | @fail c _ asked =>
    rw [standing_moved { c with phase := .closed, polling := false } (lt_length_of_getElem? asked)]
      at clearing
    cases clearing
  | ask present =>
    rw [standing_moved _ present] at clearing
    cases clearing
  | @wait c _ _ _ present =>
    rw [standing_moved { c with gate := c.gate.join loop } present] at clearing
    cases clearing
  | @drain c _ present =>
    rw [standing_moved { c with phase := .closed, polling := false } present] at clearing
    cases clearing
  | @quitLine c _ _ waited =>
    rw [standing_moved { c with gate := c.gate.leave loop } (lt_length_of_getElem? waited)]
      at clearing
    cases clearing
  | quit found =>
    rw [standing_moved _ (lt_length_of_getElem? found)] at clearing
    cases clearing

theorem Move.cautious (move : Move input a effects b) (cautious : Cautious a before) :
    Cautious b (before ++ effects) where
  told stopping := by
    rcases move.stopping with same | ⟨-, stopped⟩
    · exact List.mem_append_left _ (cautious.told (same.symm.trans stopping))
    · exact List.mem_append_right _ stopped
  clearing loop clearing := by
    have kept (same : b.standing loop = a.standing loop) : b.consumer.stopping = true := by
      rcases move.stopping with unchanged | ⟨stopping, -⟩
      · rw [unchanged]
        exact cautious.clearing loop (same ▸ clearing)
      · exact stopping
    cases move with
    | @loop _ _ busy _ move =>
      by_cases own : busy = loop
      · subst own
        exact move.clearing (cautious.clearing busy) clearing
      · exact kept (move.standing_eq_of_ne own)
    | task move => exact kept (by rw [standing_none, move.loops_eq, standing_none])
    | watch move => exact kept (by rw [standing_none, move.loops_eq, standing_none])
    | pass => exact kept rfl
  warned := by
    refine cautious.warned.append (move.releases.imp_left ?_)
    rintro ⟨loop, clearing⟩
    exact cautious.told (cautious.clearing loop clearing)

theorem cautious_ofSettings (settings : ConsumerSettings) :
    Cautious ⟨ofSettings settings, none⟩ [] where
  told stopping := by cases stopping
  clearing loop clearing := by cases clearing
  warned earlier e later split := by simp at split

/-- Only the input that begins a shutdown makes a consumer say that it stops. -/
theorem Move.exists_shutDown (move : Move input a effects b) (stopped : .stopped ∈ effects) :
    ∃ deadline, input = .shutDown deadline := by
  cases move with
  | loop move =>
    cases move with
    | leave | quitLine =>
      obtain ⟨admitted, same⟩ := admissions_departure _ _ _ stopped
      cases same
    | _ => simp at stopped
  | @task c _ _ _ move =>
    have granted : .stopped ∉ admission c.gate := by
      intro member
      obtain ⟨admitted, same⟩ := admissions_admission c.gate _ member
      cases same
    cases move with
    | start | call => simp at stopped
    | stop | free => simp [granted] at stopped
  | watch move =>
    cases move with
    | @stop _ deadline => exact ⟨deadline, rfl⟩
    | _ => simp at stopped
  | pass => simp at stopped

theorem exists_shutDown_of_stopped {inputs : List Input} (stopped : .stopped ∈ (c.run inputs).2) :
    ∃ deadline, .shutDown deadline ∈ inputs := by
  induction inputs generalizing c with
  | nil => cases stopped
  | cons input inputs ih =>
    simp only [run, List.mem_append] at stopped
    rcases stopped with now | later
    · obtain ⟨_, _, _, move, member⟩ := (step_moves c input).exists_move now
      obtain ⟨deadline, rfl⟩ := move.exists_shutDown member
      exact ⟨deadline, List.mem_cons_self⟩
    · obtain ⟨deadline, asked⟩ := ih later
      exact ⟨deadline, List.mem_cons_of_mem _ asked⟩

/-- Before an input begins a shutdown nothing is made visible again. -/
theorem Cautious.releases_eq_false {inputs : List Input} (cautious : Cautious a (c.run inputs).2)
    (unasked : ∀ deadline, .shutDown deadline ∉ inputs) :
    ∀ e ∈ (c.run inputs).2, e.releases = false := by
  intro e member
  refine Bool.eq_false_iff.mpr fun releases => ?_
  obtain ⟨earlier, later, split⟩ := List.append_of_mem member
  have stopped : .stopped ∈ (c.run inputs).2 :=
    split ▸ List.mem_append_left _ (cautious.warned earlier e later split releases)
  obtain ⟨deadline, asked⟩ := exists_shutDown_of_stopped stopped
  exact unasked deadline asked

theorem run_cautious (settings : ConsumerSettings) (inputs : List Input) :
    Cautious ⟨((ofSettings settings).run inputs).1, none⟩ ((ofSettings settings).run inputs).2 :=
  run_induction (P := fun a effects => Cautious a effects) (fun move => move.cautious)
    (cautious_ofSettings settings) inputs

/-! ## What a loop is told -/

/-- The answers that an input gives to a loop which has asked for a batch. -/
def heardIn (c : Consumer) (loop : Nat) : Input → List (Except QueueError (List ReceivedMessage))
  | .answer told batch =>
    match c.loops[told]? with
    | some .receiving => if told = loop then [batch] else []
    | _ => []
  | _ => []

/-- The answers that a loop is given to its calls for a batch, in order. -/
def heard (loop : Nat) : Consumer → List Input → List (Except QueueError (List ReceivedMessage))
  | _, [] => []
  | c, input :: inputs => c.heardIn loop input ++ heard loop (c.step input).1 inputs

/-- The answer of which a loop takes notice. -/
def Effect.answerTo? (loop : Nat) : Effect → Option (Except QueueError (List ReceivedMessage))
  | .answered told batch => if told = loop then some batch else none
  | _ => none

/-- The answers of which a loop takes notice, in order. -/
def noticed (loop : Nat) (effects : List Effect) :
    List (Except QueueError (List ReceivedMessage)) :=
  effects.filterMap (Effect.answerTo? loop)

@[simp] theorem noticed_append (loop : Nat) (earlier later : List Effect) :
    noticed loop (earlier ++ later) = noticed loop earlier ++ noticed loop later :=
  List.filterMap_append

theorem noticed_cons_answered (loop told : Nat) (batch : Except QueueError (List ReceivedMessage))
    (effects : List Effect) :
    noticed loop (.answered told batch :: effects) =
      (if told = loop then [batch] else []) ++ noticed loop effects := by
  by_cases own : told = loop <;> simp [noticed, Effect.answerTo?, own]

theorem Admissions.noticed_eq (admissions : Admissions effects) (loop : Nat) :
    noticed loop effects = [] := by
  refine List.filterMap_eq_nil_iff.mpr fun e member => ?_
  obtain ⟨admitted, rfl⟩ := admissions e member
  rfl

/-- Only the input that is an answer makes a loop take notice of one. -/
theorem Move.noticed_eq_nil (move : Move input a effects b)
    (other : ∀ told batch, input ≠ .answer told batch) :
    noticed loop effects = [] := by
  cases move with
  | loop move =>
    cases move with
    | take => exact absurd rfl (other _ _)
    | fail => exact absurd rfl (other _ _)
    | leave | quitLine => exact (admissions_departure _ _).noticed_eq loop
    | _ => rfl
  | task move =>
    cases move with
    | start | call => rfl
    | stop | free => exact (admissions_admission _).noticed_eq loop
  | watch move => cases move <;> rfl
  | pass => rfl

theorem Moves.noticed_eq_nil (moves : Moves input a effects b)
    (other : ∀ told batch, input ≠ .answer told batch) :
    noticed loop effects = [] := by
  induction moves with
  | none => rfl
  | cons move _ ih => rw [noticed_append, move.noticed_eq_nil other, ih, List.append_nil]

/-- A loop takes notice of the answer that it is given, and of no other. -/
theorem noticed_takeBatch (told : Nat) (present : told < c.loops.length)
    (batch : Except QueueError (List ReceivedMessage)) :
    noticed loop (c.takeBatch told batch).2 = if told = loop then [batch] else [] := by
  cases batch with
  | ok messages =>
    -- What follows the answer does not depend on the input, so it may be taken for another one.
    have rest : noticed loop (c.feed told messages).2 = [] :=
      (feed_moves .serve c told present messages).noticed_eq_nil (by simp)
    exact (noticed_cons_answered ..).trans (by rw [rest, List.append_nil])
  | error e => exact (noticed_cons_answered ..).trans (List.append_nil _)

theorem noticed_step (c : Consumer) (input : Input) :
    noticed loop (c.step input).2 = c.heardIn loop input := by
  cases input with
  | answer told batch =>
    by_cases asked : c.loops[told]? = some .receiving
    · simp only [step, heardIn, asked]
      exact noticed_takeBatch told (lt_length_of_getElem? asked) batch
    · have unmoved : c.step (.answer told batch) = (c, []) := by
        rw [step]
        split
        next receives => exact absurd receives asked
        next => rfl
      have unheard : c.heardIn loop (.answer told batch) = [] := by
        rw [heardIn]
        split
        next receives => exact absurd receives asked
        next => rfl
      rw [unmoved, unheard]
      rfl
  | _ => exact (step_moves c _).noticed_eq_nil (by simp)

/-- In a run a loop takes notice of all answers that it is given. -/
theorem noticed_run (c : Consumer) (inputs : List Input) :
    noticed loop (c.run inputs).2 = heard loop c inputs := by
  induction inputs generalizing c with
  | nil => rfl
  | cons input inputs ih => simp only [run, heard, noticed_append, noticed_step, ih]

theorem noticed_loopHistory (effects : List Effect) :
    noticed loop (loopHistory loop effects) = noticed loop effects := by
  rw [noticed, loopHistory, List.filterMap_filter]
  refine congrArg (List.filterMap · effects) (funext fun e => ?_)
  cases e with
  | called => exact ite_self none
  | _ => simp [Effect.answerTo?, Effect.loop?]

theorem noticed_account (settings : ConsumerSettings) (loop : Nat) (rounds : List Round) :
    noticed loop (account settings loop rounds) = rounds.map fun r => .ok r.batch := by
  induction rounds with
  | nil => rfl
  | cons r rounds ih =>
    have own : noticed loop (r.effects settings loop) = [.ok r.batch] := by
      simp [Round.effects, noticed, Effect.answerTo?, List.filterMap_cons]
    have split : account settings loop (r :: rounds) =
        r.effects settings loop ++ account settings loop rounds :=
      List.flatMap_cons
    rw [split, noticed_append, own, ih, List.map_cons, List.singleton_append]

/-! ## Messages are given to handlers once -/

/-- The handler to which a message is given. -/
def Effect.hired? : Effect → Option Nat
  | .dispatched _ index _ => some index
  | _ => none

theorem countP_taskHistory (index : Nat) (effects : List Effect) :
    (taskHistory index effects).countP (fun e => e.hired? = some index) =
      effects.countP fun e => e.hired? = some index := by
  rw [taskHistory, List.countP_filter]
  refine List.countP_congr fun e _ => ?_
  cases e <;> simp [Effect.hired?, Effect.task?]

theorem countP_history (index : Nat) (t : Task) :
    (t.history settings index).countP (fun e => e.hired? = some index) = 1 := by
  cases stage : t.stage <;> simp [Task.history, stage, Task.work, Effect.hired?]

/-- A handler is given one message at most. -/
theorem Recorded.countP_le_one (recorded : Recorded settings a effects) (index : Nat) :
    effects.countP (fun e => e.hired? = some index) ≤ 1 := by
  rw [← countP_taskHistory, recorded.told]
  cases a.consumer.tasks[index]? with
  | none => simp
  | some t => exact Nat.le_of_eq (countP_history index t)

theorem eq_of_mem_history {t : Task} {loop index other : Nat} {m : ReceivedMessage}
    (given : .dispatched loop other m ∈ t.history settings index) :
    t.loop = loop ∧ t.message = m := by
  cases stage : t.stage <;> simp_all [Task.history, Task.work]

/-- A handler works on the message that it was given. -/
theorem Recorded.task_of_dispatched (recorded : Recorded settings a effects) {loop index : Nat}
    {m : ReceivedMessage} (given : .dispatched loop index m ∈ effects) :
    ∃ stage, a.consumer.tasks[index]? = some ⟨loop, m, .handlers, stage⟩ := by
  have member : .dispatched loop index m ∈ taskHistory index effects := by
    simp [taskHistory, given, Effect.task?]
  rw [recorded.told] at member
  cases found : a.consumer.tasks[index]? with
  | none => simp [found] at member
  | some t =>
    rw [found] at member
    obtain ⟨rfl, rfl⟩ := eq_of_mem_history member
    have lent : t.lifetime = .handlers := recorded.lent t (List.mem_of_getElem? found)
    exact ⟨t.stage, by rw [← lent]⟩

/-- The numbers of the handlers to which messages were given. -/
def handlers (rounds : List Round) : List Nat := rounds.flatMap fun r => r.given.map Prod.fst

theorem hired_account (settings : ConsumerSettings) (loop : Nat) (rounds : List Round) :
    (account settings loop rounds).filterMap Effect.hired? = handlers rounds := by
  induction rounds with
  | nil => rfl
  | cons r rounds ih =>
    have hired : (r.effects settings loop).filterMap Effect.hired? = r.given.map Prod.fst := by
      simp [Round.effects, List.filterMap_cons, List.filterMap_map, Function.comp_def,
        Effect.hired?]
    simp only [account, handlers, List.flatMap_cons, List.filterMap_append] at ih ⊢
    rw [ih, hired]

/-- A loop never gives two messages to one handler. -/
theorem Recorded.handlers_nodup (recorded : Recorded settings a effects) {rounds : List Round}
    {ending : List Effect}
    (told : loopHistory loop effects = account settings loop rounds ++ ending) :
    (handlers rounds).Nodup := by
  rw [List.nodup_iff_count]
  intro index
  calc (handlers rounds).count index
      = (account settings loop rounds).countP (fun e => e.hired? = some index) := by
        rw [← hired_account settings loop, List.count_filterMap]
        exact List.countP_congr fun e _ => by simp
    _ ≤ (loopHistory loop effects).countP (fun e => e.hired? = some index) := by
        rw [told, List.countP_append]
        exact Nat.le_add_right _ _
    _ ≤ effects.countP (fun e => e.hired? = some index) := List.filter_sublist.countP_le
    _ ≤ 1 := recorded.countP_le_one index

/-- A message that a loop gave to a handler is the one that the handler works on. -/
theorem Recorded.task_of_given (recorded : Recorded settings a effects) {rounds : List Round}
    {ending : List Effect}
    (told : loopHistory loop effects = account settings loop rounds ++ ending)
    {r : Round} (past : r ∈ rounds) {index : Nat} {m : ReceivedMessage}
    (given : (index, m) ∈ r.given) :
    ∃ stage, a.consumer.tasks[index]? = some ⟨loop, m, .handlers, stage⟩ := by
  have inRound : .dispatched loop index m ∈ r.effects settings loop := by
    simp [Round.effects, given]
  have inHistory : .dispatched loop index m ∈ loopHistory loop effects := by
    rw [told]
    exact List.mem_append_left _ (List.mem_flatMap.mpr ⟨r, past, inRound⟩)
  exact recorded.task_of_dispatched (List.mem_filter.mp inHistory).1

/-! ## Every message is accounted for -/

/-- What a loop has done when it returns: rounds, after which no message is left.  The batches are
those with which the queue has answered the loop, one a round, and a failure to receive comes after
all of them.  The messages of a batch were given to handlers, each to its own, and only in the last
round some at the end were made visible again.  This needs a shutdown: nothing is made visible again
before an input begins one.  After a failure to receive nothing was.  No later batch is asked for
while messages of a batch are left, and whether making a message visible again succeeds makes no
difference to a run. -/
theorem messages_accounted (settings : ConsumerSettings) (inputs : List Input) {loop : Nat}
    {result : Except ConsumerError Stopped}
    (ended : ((ofSettings settings).run inputs).1.loops[loop]? = some (.returned result)) :
    let c := ((ofSettings settings).run inputs).1
    let effects := ((ofSettings settings).run inputs).2
    let told := heard loop (ofSettings settings) inputs
    ∃ rounds ending, loopHistory loop effects = account settings loop rounds ++ ending ∧
      (∀ r ∈ rounds, r.pending = []) ∧ Unreleased rounds.dropLast ∧ (handlers rounds).Nodup ∧
      (∀ r ∈ rounds, ∀ index m, (index, m) ∈ r.given →
        ∃ stage, c.tasks[index]? = some ⟨loop, m, .handlers, stage⟩) ∧
      (result = .ok .closed ∧ told = rounds.map (fun r => .ok r.batch) ∧
          ending = [.returned loop (.ok .closed)] ∨
        ∃ e, result = .error (.receive e) ∧ told = rounds.map (fun r => .ok r.batch) ++ [.error e] ∧
          Unreleased rounds ∧
          ending = [.called (.loop loop) (batchRequest settings), .answered loop (.error e),
            .returned loop (.error (.receive e))]) ∧
      Warned effects ∧
      (∀ earlier, earlier <+: inputs → (∀ deadline, .shutDown deadline ∉ earlier) →
        ∀ e ∈ ((ofSettings settings).run earlier).2, e.releases = false) ∧
      (ofSettings settings).run (inputs.map Input.untroubled) =
        (ofSettings settings).run inputs := by
  intro c effects told
  have recorded : Recorded settings ⟨c, none⟩ effects := run_recorded settings inputs
  have ledger : Ledger settings loop (Moment.standing ⟨c, none⟩ loop) (loopHistory loop effects) :=
    (run_booked settings inputs).ledgers loop
  rw [standing_of_getElem? ended] at ledger
  generalize same : loopHistory loop effects = history at ledger ⊢
  have told_eq : told = noticed loop history := by
    rw [← same, noticed_loopHistory]
    exact (noticed_run _ inputs).symm
  have warned := (run_cautious settings inputs).warned
  have quiet : ∀ earlier, earlier <+: inputs → (∀ deadline, .shutDown deadline ∉ earlier) →
      ∀ e ∈ ((ofSettings settings).run earlier).2, e.releases = false :=
    fun earlier _ unasked => (run_cautious settings earlier).releases_eq_false unasked
  have untroubled := run_untroubled (ofSettings settings) inputs
  cases ledger with
  | @closed rounds progress =>
    refine ⟨rounds, _, rfl, progress.pending_eq_nil, progress.dropLast_released,
      recorded.handlers_nodup same, ?_, .inl ⟨rfl, ?_, rfl⟩, warned, quiet, untroubled⟩
    · exact fun r past index m given => recorded.task_of_given same past given
    · rw [told_eq, noticed_append, noticed_account]
      exact List.append_nil _
  | @failed rounds e served =>
    have kept : Unreleased rounds := fun r past => (served r past).1
    refine ⟨rounds, _, rfl, fun r past => (served r past).2, ?_, recorded.handlers_nodup same, ?_,
      .inr ⟨e, rfl, ?_, kept, rfl⟩, warned, quiet, untroubled⟩
    · exact fun r past => kept r (List.dropLast_subset _ past)
    · exact fun r past index m given => recorded.task_of_given same past given
    · rw [told_eq, noticed_append, noticed_account]
      simp [noticed, List.filterMap_cons, Effect.answerTo?]

/-- A loop has a slot for the first of three messages when the consumer is shut down, and one of the
two calls to make the others visible again fails. -/
def shutDownAtGate : List Input :=
  [.serve, .answer 0 (.ok (['a', 'b', 'c'].map received)), .start 0, .shutDown 1000, .resume 0,
    .released 0 (.error (.connectionFailed "")), .released 0 (.ok ())]

theorem messages_accounted_at_gate :
    let effects := ((ofSettings oneSlot).run shutDownAtGate).2
    ((ofSettings oneSlot).run shutDownAtGate).1.loops[0]? = some (.returned (.ok .closed)) ∧
      ∃ r : Round, loopHistory 0 effects = r.effects oneSlot 0 ++ [.returned 0 (.ok .closed)] ∧
        r.pending = [] ∧ r.batch = ['a', 'b', 'c'].map received := by
  intro effects
  have ended : ((ofSettings oneSlot).run shutDownAtGate).1.loops[0]? =
      some (.returned (.ok .closed)) := rfl
  obtain ⟨rounds, ending, same, left, -, -, -, found, -⟩ :=
    messages_accounted oneSlot shutDownAtGate ended
  rcases found with ⟨-, told, rfl⟩ | ⟨e, failed, -⟩
  · -- The queue has answered once, so there is one round.
    have batches : rounds.map (fun r => Except.ok (ε := QueueError) r.batch) =
        [.ok (['a', 'b', 'c'].map received)] := told.symm.trans rfl
    obtain ⟨r, rfl, batch⟩ := List.map_eq_singleton_iff.mp batches
    refine ⟨ended, r, ?_, left r (List.mem_singleton_self r), Except.ok.inj batch⟩
    rw [same, account, List.flatMap_singleton]
  · cases failed

end MessageQueue.Consumer
