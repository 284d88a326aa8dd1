import MessageQueue.Consumer.Basic
import MessageQueue.Proofs.Client.Signed

/-!
# The client of a consumer

There are two ways to say how long refused credentials are waited for.  A client of its own is told
the pause, and keeps it.  The client of a consumer is made under the settings of the consumer, in
which the pause is a number of whole seconds (`Consumer.connect_withCredentialRetry`).  All else is
the same, so the two clients have the same policy exactly if the pause has no part below a second
(`Consumer.retries_of_settings`).
-/

namespace MessageQueue

/-- A duration is a number of whole seconds exactly if nothing is left beyond them. -/
theorem Duration.ofSeconds_seconds_eq_iff (d : Duration) :
    Duration.ofSeconds d.seconds = d ↔ d.subsecond = 0 := by
  have parts := d.ofSeconds_seconds_add_subsecond
  constructor
  · intro whole
    rw [whole] at parts
    omega
  · intro whole
    rw [whole, Nat.add_zero] at parts
    exact congrArg Duration.mk parts

/-- After a refusal a client waits as long as it was told. -/
theorem Client.pause_withRetries (c : Client) (delay : Duration) (retries : UInt32)
    {failed : FailedAttempt}
    (refused : failed.isForbidden = true) :
    (c.withRetries delay retries).policy.pause failed = .exact delay := by
  simp only [Client.withRetries, Client.withPolicy, CredentialRetry.policy, refused]
  rfl

namespace Consumer

variable {connection : ConnectionSettings} {settings : ConsumerSettings} {client : Client}

theorem connect_eq (valid : settings.fault? = none)
    (connected : Client.connect connection = .ok client) :
    connect connection settings =
      .ok (client.withPolicy settings.credentialRetry.policy.policy, ofSettings settings) := by
  rw [connect, valid, connected]

/-- The client of a consumer retries as one that is told the whole seconds of the pause. -/
theorem connect_withCredentialRetry (valid : settings.fault? = none)
    (connected : Client.connect connection = .ok client) {delay : Duration}
    (held : delay.seconds < Nat.pow 2 64) (retries : UInt32) :
    connect connection (settings.withCredentialRetry delay retries) =
      .ok (client.withRetries (.ofSeconds delay.seconds) retries,
        ofSettings (settings.withCredentialRetry delay retries)) := by
  have whole : (UInt64.ofNat (min delay.seconds (Nat.pow 2 64 - 1))).toNat = delay.seconds := by
    rw [Nat.min_eq_left (Nat.le_sub_one_of_lt held)]
    exact UInt64.toNat_ofNat_of_lt' held
  have policy : (settings.withCredentialRetry delay retries).credentialRetry.policy =
      .withRetries (.ofSeconds delay.seconds) retries := by
    simp only [ConsumerSettings.withCredentialRetry, CredentialSettings.policy, whole]
  have made : connect connection (settings.withCredentialRetry delay retries) = _ :=
    connect_eq valid connected
  rw [made, policy]
  rfl

/-- The client of a consumer whose settings ask for a pause, and a client that is told this pause,
allow as many retries and find the same failures worth one.  They pause equally long after all
failures but refusals.  After a refusal the one pauses for the whole seconds only, so it does not
wait for what the pause has beyond them. -/
theorem retries_of_settings (valid : settings.fault? = none)
    (connected : Client.connect connection = .ok client)
    {delay : Duration} (held : delay.seconds < Nat.pow 2 64) (retries : UInt32) :
    ∃ own, connect connection (settings.withCredentialRetry delay retries) =
        .ok (own, ofSettings (settings.withCredentialRetry delay retries)) ∧
      let told := client.withRetries delay retries
      let whole := Duration.ofSeconds delay.seconds
      (own.policy.maxRetries = retries ∧ told.policy.maxRetries = retries) ∧
      (∀ failed, own.policy.shouldRetry failed = told.policy.shouldRetry failed) ∧
      (∀ failed, failed.isForbidden = false → own.policy.pause failed = told.policy.pause failed) ∧
      (∀ failed, failed.isForbidden = true →
        own.policy.pause failed = .exact whole ∧ told.policy.pause failed = .exact delay) ∧
      whole.nanoseconds + delay.subsecond = delay.nanoseconds ∧
      (own = told ↔ delay.subsecond = 0) := by
  refine ⟨_, connect_withCredentialRetry valid connected held retries, ⟨rfl, rfl⟩,
    fun _ => rfl, ?_, ?_, delay.ofSeconds_seconds_add_subsecond, ?_⟩
  · intro failed allowed
    simp only [Client.withRetries, Client.withPolicy, CredentialRetry.policy, allowed]
    rfl
  · intro failed refused
    exact ⟨client.pause_withRetries _ retries refused,
      client.pause_withRetries delay retries refused⟩
  · rw [← Duration.ofSeconds_seconds_eq_iff]
    constructor
    · intro same
      have pause := congrArg (fun c : Client => c.policy.pause ⟨0, some 403, none⟩) same
      exact Pause.exact.inj pause
    · exact fun whole => congrArg (client.withRetries · retries) whole

/-- A second and a half, and as many retries as there can be. -/
theorem retries_of_settings_of_broken_seconds :
    let settings : ConsumerSettings :=
      { queueUrl := ⟨"http://localhost:9324/queue/test", by decide +kernel⟩ }
    let delay : Duration := .ofMilliseconds 1500
    ∃ client own, Client.connect {} = .ok client ∧
      connect {} (settings.withCredentialRetry delay 4294967295) =
        .ok (own, ofSettings (settings.withCredentialRetry delay 4294967295)) ∧
      own.policy.maxRetries = 4294967295 ∧
      own.policy.pause ⟨7, some 403, none⟩ = .exact (.ofSeconds 1) ∧
      own ≠ client.withRetries delay 4294967295 := by
  intro settings delay
  let address : Url :=
    ⟨"https".toList, true, [], [], "sqs.us-west-2.amazonaws.com".toList, none, ['/'], none, none⟩
  have parsed : Url.parse (ConnectionSettings.address {}) = .ok address := by decide +kernel
  have read : Client.endpointOf {} = .ok address := by
    rw [Client.endpointOf, parsed]
    rfl
  have connected : Client.connect {} = _ := Client.connect_eq rfl read
  have valid : settings.fault? = none := rfl
  have held : delay.seconds < Nat.pow 2 64 := by decide
  obtain ⟨own, made, budget, -, -, refused, -, same⟩ :=
    retries_of_settings valid connected held 4294967295
  have whole : Duration.ofSeconds delay.seconds = .ofSeconds 1 := by decide
  rw [whole] at refused
  refine ⟨_, own, connected, made, budget.1, (refused ⟨7, some 403, none⟩ rfl).1, fun equal => ?_⟩
  exact absurd (same.mp equal) (by decide)

/-- Half a second is no whole second, so a consumer that is told to wait so long does not wait at
all. -/
theorem half_second_dropped :
    let settings : ConsumerSettings :=
      { queueUrl := ⟨"http://localhost:9324/queue/test", by decide +kernel⟩ }
    let delay : Duration := .ofMilliseconds 500
    let refusal : FailedAttempt := ⟨0, some 403, none⟩
    delay = ⟨500000000⟩ ∧ (settings.withCredentialRetry delay 3).fault? = none ∧
      ∀ connection client, Client.connect connection = .ok client →
        ∃ own consumer,
          connect connection (settings.withCredentialRetry delay 3) = .ok (own, consumer) ∧
          own.policy.pause refusal = .exact ⟨0⟩ ∧
          (client.withRetries delay 3).policy.pause refusal = .exact ⟨500000000⟩ := by
  intro settings delay refusal
  have valid : settings.fault? = none := rfl
  have held : delay.seconds < Nat.pow 2 64 := by decide
  have dropped : Duration.ofSeconds delay.seconds = ⟨0⟩ := by decide
  refine ⟨rfl, rfl, fun connection client connected => ?_⟩
  have made := connect_withCredentialRetry valid connected held 3
  rw [dropped] at made
  exact ⟨_, _, made, client.pause_withRetries ⟨0⟩ 3 rfl, client.pause_withRetries delay 3 rfl⟩

end Consumer
end MessageQueue
