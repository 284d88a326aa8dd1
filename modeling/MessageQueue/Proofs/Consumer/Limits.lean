import MessageQueue.Proofs.Consumer.Batches
import MessageQueue.Proofs.Consumer.Connection
import MessageQueue.Proofs.Settings.Precedence

/-!
# What is asked for stays within limits

A queue refuses a request for too many messages, too long a wait for them, and too long a time for
which one is hidden.  A gate cannot be made for too many slots.  Limits are kept in two ways.  The
number of slots and the request for a batch are clamped, so they keep to theirs whatever the
settings are.  The time after a failure is passed on as it stands, so it takes settings that were
checked.

Under checked settings the clamps change nothing (`ReceiveRequest.allAttributes_of_valid`), and a
request waits for less time than the client does (`Client.timeout_of_connect`).  `run_asks` says
which calls a run makes, and `requests_within_limits` puts this together.
-/

namespace MessageQueue

/-! ## What is clamped -/

/-- A request for a batch keeps to what a queue grants. -/
theorem ReceiveRequest.allAttributes_within (queueUrl : QueueUrl)
    (maxMessages waitSeconds : UInt32) :
    let r := allAttributes queueUrl maxMessages waitSeconds
    1 ≤ r.maxMessages.toNat ∧ r.maxMessages.toNat ≤ 10 ∧ r.waitSeconds.toNat ≤ 20 := by
  have one : (1 : UInt32).toNat = 1 := rfl
  have batch : maxBatch.toNat = 10 := rfl
  have wait : maxWaitSeconds.toNat = 20 := rfl
  simp only [allAttributes, UInt32.lt_iff_toNat_lt, one, batch, wait]
  refine ⟨?least, ?greatest, ?longest⟩
  case least =>
    split_ifs with zero many
    · decide
    · decide
    · exact Nat.not_lt.mp zero
  case greatest =>
    split_ifs with zero many
    · decide
    · decide
    · exact Nat.not_lt.mp many
  case longest =>
    split_ifs with long
    · decide
    · exact Nat.not_lt.mp long

/-- A gate of so many slots; more than there is a count for cannot be made. -/
def Gate.ofCapacity? (n : Nat) : Option Gate :=
  if n ≤ MessageQueue.maxConcurrency.toNat then some (.ofCapacity n) else none

/-! ## What is checked -/

/-- Settings are in order if each number is within its limit. -/
theorem ConsumerSettings.fault?_eq_none_iff (s : ConsumerSettings) : s.fault? = none ↔
    s.maxConcurrency.toNat ≤ MessageQueue.maxConcurrency.toNat ∧
      (1 ≤ s.maxMessages.toNat ∧ s.maxMessages.toNat ≤ 10) ∧
      s.waitSeconds.toNat ≤ 20 ∧ s.retryTimeoutSeconds.toNat ≤ 43200 := by
  have zero : s.maxMessages = 0 ↔ s.maxMessages.toNat = 0 := UInt32.toNat_inj.symm
  have batch : maxBatch.toNat = 10 := rfl
  have wait : maxWaitSeconds.toNat = 20 := rfl
  have visibility : maxVisibilitySeconds.toNat = 43200 := rfl
  simp only [fault?, UInt32.lt_iff_toNat_lt, UInt64.lt_iff_toNat_lt, zero, batch, wait, visibility]
  split_ifs
  case neg => simp only [true_iff]; omega
  all_goals simp only [false_iff]; omega

/-- Under settings that are in order a request for a batch is the one that they describe. -/
theorem ReceiveRequest.allAttributes_of_valid {s : ConsumerSettings} (valid : s.fault? = none) :
    allAttributes s.queueUrl s.maxMessages s.waitSeconds =
      ⟨s.queueUrl, s.maxMessages, s.waitSeconds, ["All"]⟩ := by
  obtain ⟨-, ⟨positive, few⟩, short, -⟩ := s.fault?_eq_none_iff.mp valid
  have least : ¬ s.maxMessages < 1 :=
    fun zero => absurd (UInt32.lt_iff_toNat_lt.mp zero) (Nat.not_lt.mpr positive)
  have greatest : ¬ maxBatch < s.maxMessages :=
    fun many => absurd (UInt32.lt_iff_toNat_lt.mp many) (Nat.not_lt.mpr few)
  have longest : ¬ maxWaitSeconds < s.waitSeconds := fun long =>
    absurd (UInt32.lt_iff_toNat_lt.mp long) (Nat.not_lt.mpr short)
  rw [allAttributes, if_neg least, if_neg greatest, if_neg longest]

/-- A client that is connected waits for an answer as long as it was told, which is longer than any
request waits. -/
theorem Client.timeout_of_connect {s : ConnectionSettings} {c : Client}
    (connected : connect s = .ok c) :
    c.timeoutSeconds = s.requestTimeoutSeconds ∧ 20 < c.timeoutSeconds.toNat := by
  obtain ⟨sound, endpoint, -, rfl⟩ := eq_of_connect connected
  have valid : s.validate = .ok () := by rw [ConnectionSettings.validate, sound]
  exact ⟨rfl, (ConnectionSettings.validate_eq_ok.mp valid).2.2⟩

namespace Consumer

variable {c d : Consumer} {a b : Moment} {input : Input} {effects : List Effect}
variable {settings : ConsumerSettings} {connection : ConnectionSettings}

theorem connect_inv {client : Client} (connected : connect connection settings = .ok (client, c)) :
    settings.fault? = none ∧ c = ofSettings settings ∧
      ∃ own, Client.connect connection = .ok own ∧
        client = own.withPolicy settings.credentialRetry.policy.policy := by
  unfold connect at connected
  split at connected
  next => cases connected
  next valid =>
    split at connected
    next => cases connected
    next own made =>
      cases connected
      exact ⟨valid, rfl, own, made, rfl⟩

/-! ## The calls of a run -/

/-- The calls that are made under the settings, by whom. -/
inductive Asks (settings : ConsumerSettings) : Caller → QueueCall → Prop where
  | batch {loop : Nat} : Asks settings (.loop loop) (batchRequest settings)
  | release {loop : Nat} {m : ReceivedMessage} : Asks settings (.loop loop) (releaseCall settings m)
  | duty {index : Nat} {m : ReceivedMessage} {outcome : Outcome} {call : QueueCall}
      (due : call ∈ outcome.duties settings m) : Asks settings (.task index) call

/-- Every call among these effects is made under the settings. -/
def Asking (settings : ConsumerSettings) (effects : List Effect) : Prop :=
  ∀ caller call, .called caller call ∈ effects → Asks settings caller call

theorem Asking.append {earlier later : List Effect} (first : Asking settings earlier)
    (second : Asking settings later) :
    Asking settings (earlier ++ later) :=
  fun caller call member =>
    (List.mem_append.mp member).elim (first caller call) (second caller call)

theorem Admissions.asking (admissions : Admissions effects) : Asking settings effects := by
  intro caller call member
  obtain ⟨loop, same⟩ := admissions _ member
  cases same

theorem Move.asking (move : Move input a effects b) (kept : a.consumer.settings = settings) :
    Asking settings effects := by
  cases move with
  | loop move =>
    cases move with
    | leave | quitLine => exact (admissions_departure _ _).asking
    | ask =>
      rw [batchRequest_eq kept]
      intro caller call member
      cases List.mem_singleton.mp member
      exact .batch
    | release =>
      rw [releaseCall_eq kept]
      intro caller call member
      cases List.mem_singleton.mp member
      exact .release
    | _ => simp [Asking]
  | @task c _ _ _ move =>
    cases move with
    | start => simp [Asking]
    | call _ _ due =>
      have duties := duties_of_followUp_some due
      rw [kept] at duties
      intro caller call member
      simp only [List.mem_cons, reduceCtorEq, List.not_mem_nil, or_false, false_or,
        Effect.called.injEq] at member
      obtain ⟨rfl, rfl⟩ := member
      exact .duty (duties ▸ List.mem_singleton_self _)
    | stop | free =>
      have admitted : Asking settings (admission c.gate) := (admissions_admission _).asking
      intro caller call member
      exact admitted caller call (by simpa using member)
  | watch move => cases move <;> simp [Asking]
  | pass => simp [Asking]

/-- Every call of a run is made under the settings. -/
theorem run_asks (settings : ConsumerSettings) (inputs : List Input) :
    Asking settings ((ofSettings settings).run inputs).2 := by
  have start : Asking settings [] := by simp [Asking]
  have reached : ((ofSettings settings).run inputs).1.settings = settings ∧
      Asking settings ((ofSettings settings).run inputs).2 := by
    refine run_induction
      (P := fun a effects => a.consumer.settings = settings ∧ Asking settings effects) ?_
      ⟨rfl, start⟩ inputs
    intro input a b effects before move ⟨kept, asking⟩
    exact ⟨move.settings_eq.trans kept, asking.append (move.asking kept)⟩
  exact reached.2

/-- A call for a batch is the one that the settings describe, brought within the limits. -/
theorem Asks.of_receive {caller : Caller} {request : ReceiveRequest}
    (asks : Asks settings caller (.receive request)) :
    request = .allAttributes settings.queueUrl settings.maxMessages settings.waitSeconds := by
  cases asks with
  | batch => rfl
  | @duty _ _ outcome _ due => cases outcome <;> simp [Outcome.duties] at due

/-- A loop makes messages visible at once. -/
theorem Asks.of_release {loop : Nat} {queueUrl : QueueUrl} {receipt : ReceiptHandle}
    {seconds : UInt32}
    (asks : Asks settings (.loop loop) (.changeVisibility queueUrl receipt seconds)) :
    seconds = 0 := by
  cases asks with
  | release => rfl

/-- A handler hides its message for the time that is set. -/
theorem Asks.of_retry {index : Nat} {queueUrl : QueueUrl} {receipt : ReceiptHandle}
    {seconds : UInt32}
    (asks : Asks settings (.task index) (.changeVisibility queueUrl receipt seconds)) :
    seconds = settings.retryTimeoutSeconds := by
  cases asks with
  | @duty _ _ outcome _ due =>
    cases outcome with
    | failed =>
      cases List.mem_singleton.mp due
      rfl
    | done | panicked => simp [Outcome.duties] at due

/-! ## The limits -/

/-- A consumer has a gate for as many slots as it is given, whatever its settings are, and in every
run its requests ask for one message to ten and wait for at most twenty seconds.  Under settings
with which it is connected a request asks for what the settings say and waits for less time than the
client, a message is made visible at once or hidden for the time that is set, which is at most
twelve hours, and there are as many slots as the settings say, or one. -/
theorem requests_within_limits :
    (∀ settings : ConsumerSettings,
      Gate.ofCapacity? (slots settings.maxConcurrency) = some (ofSettings settings).gate ∧
      ∀ (inputs : List Input) (caller : Caller) (request : ReceiveRequest),
        .called caller (.receive request) ∈ ((ofSettings settings).run inputs).2 →
          1 ≤ request.maxMessages.toNat ∧ request.maxMessages.toNat ≤ 10 ∧
            request.waitSeconds.toNat ≤ 20) ∧
    ∀ (connection : ConnectionSettings) (settings : ConsumerSettings) (client : Client)
      (consumer : Consumer), connect connection settings = .ok (client, consumer) →
        client.timeoutSeconds = connection.requestTimeoutSeconds ∧
        ∀ inputs : List Input,
          let effects := (consumer.run inputs).2
          (∀ caller request, .called caller (.receive request) ∈ effects →
            request = ⟨settings.queueUrl, settings.maxMessages, settings.waitSeconds, ["All"]⟩ ∧
              request.waitSeconds.toNat < client.timeoutSeconds.toNat) ∧
          (∀ loop queueUrl receipt seconds,
            .called (.loop loop) (.changeVisibility queueUrl receipt seconds) ∈ effects →
              seconds = 0) ∧
          (∀ index queueUrl receipt seconds,
            .called (.task index) (.changeVisibility queueUrl receipt seconds) ∈ effects →
              seconds = settings.retryTimeoutSeconds ∧ seconds.toNat ≤ 43200) ∧
          (consumer.run inputs).1.maxConcurrency = max 1 settings.maxConcurrency.toNat := by
  refine ⟨fun settings => ⟨?gate, ?clamped⟩, ?checked⟩
  case gate =>
    have few : slots settings.maxConcurrency ≤ MessageQueue.maxConcurrency.toNat := by
      have one : 1 ≤ MessageQueue.maxConcurrency.toNat := by decide
      rw [slots_eq]
      omega
    exact if_pos few
  case clamped =>
    intro inputs caller request member
    rw [(run_asks settings inputs caller _ member).of_receive]
    exact ReceiveRequest.allAttributes_within _ _ _
  case checked =>
    intro connection settings client consumer connected
    obtain ⟨valid, rfl, own, made, rfl⟩ := connect_inv connected
    obtain ⟨told, long⟩ := Client.timeout_of_connect made
    obtain ⟨counted, -, short, hidden⟩ := settings.fault?_eq_none_iff.mp valid
    refine ⟨told, fun inputs => ⟨?_, ?_, ?_, ?_⟩⟩
    · intro caller request member
      have described := (run_asks settings inputs caller _ member).of_receive
      rw [ReceiveRequest.allAttributes_of_valid valid] at described
      subst described
      exact ⟨rfl, Nat.lt_of_le_of_lt short long⟩
    · intro loop queueUrl receipt seconds member
      exact (run_asks settings inputs _ _ member).of_release
    · intro index queueUrl receipt seconds member
      obtain rfl := (run_asks settings inputs _ _ member).of_retry
      exact ⟨rfl, hidden⟩
    · have capacity := (run_capacity settings inputs).trans (slots_eq _)
      rwa [Nat.min_eq_left counted] at capacity

/-- A consumer with no slot of its own choice hides the message of a handler that failed for twelve
hours, and makes the message that waited at the gate visible at once. -/
theorem requests_within_limits_at_gate :
    let settings : ConsumerSettings :=
      { oneSlot with maxConcurrency := 0, maxMessages := 3, retryTimeoutSeconds := 43200 }
    let inputs : List Input :=
      [.serve, .answer 0 (.ok (['a', 'b'].map received)), .start 0, .finish 0 .failed,
        .shutDown 1000, .resume 0]
    let effects := ((ofSettings settings).run inputs).2
    ∃ client, connect {} settings = .ok (client, ofSettings settings) ∧
      (∃ request, .called (.loop 0) (.receive request) ∈ effects ∧
        request.maxMessages = 3 ∧ request.waitSeconds.toNat < client.timeoutSeconds.toNat) ∧
      (∃ receipt seconds,
        .called (.task 0) (.changeVisibility settings.queueUrl receipt seconds) ∈ effects ∧
        seconds = 43200 ∧ seconds.toNat ≤ 43200) ∧
      (∃ receipt seconds,
        .called (.loop 0) (.changeVisibility settings.queueUrl receipt seconds) ∈ effects ∧
        seconds = 0) ∧
      ((ofSettings settings).run inputs).1.maxConcurrency = 1 := by
  intro settings inputs effects
  have standard : Client.endpointOf {} = .ok Client.standardEndpoint := Client.endpointOf_unset rfl
  have connected : connect {} settings = .ok (_, ofSettings settings) :=
    connect_eq rfl (Client.connect_eq rfl standard)
  obtain ⟨-, limits⟩ := requests_within_limits.2 {} settings _ _ connected
  obtain ⟨asked, released, hidden, slots⟩ := limits inputs
  have request : .called (.loop 0) (batchRequest settings) ∈ effects := .head _
  have retry : .called (.task 0)
      (.changeVisibility settings.queueUrl (received 'a').receiptHandle 43200) ∈ effects :=
    List.mem_of_getElem? (i := 5) rfl
  have release : .called (.loop 0) (releaseCall settings (received 'b')) ∈ effects :=
    List.mem_of_getElem? (i := 7) rfl
  obtain ⟨same, early⟩ := asked _ _ request
  refine ⟨_, connected, ⟨_, request, by rw [same], early⟩, ⟨_, _, retry, hidden _ _ _ _ retry⟩,
    ⟨_, _, release, released _ _ _ _ release⟩, slots⟩

end Consumer
end MessageQueue
