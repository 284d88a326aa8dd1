import MessageQueue.Proofs.Client.Credentials

/-!
# Failures that may pass

Two judgements are made of a failed exchange.  The policy says whether it is worth a retry, by its
status and its code; and the error that is reported of it says whether it is transient, by its
status alone, since it no longer knows how the code was meant.  A failure whose code and status name
no particular cause is `general`.

For these the judgements agree, except on an answer that asks for fewer requests by its code alone
(`ExchangeFailure.shouldRetry_eq`).  So of a call that is settled by any other such failure one can
tell by the error whether retries were left: it is transient exactly if the failure was worth a
retry that was no longer allowed (`Client.transient_once_spent`).
-/

namespace MessageQueue

/-! ## Two judgements -/

namespace ExchangeFailure

/-- Neither the code nor the status of the failure is about a queue that does not exist, a receipt
or credentials. -/
def general : ExchangeFailure → Bool
  | response status code _ =>
    code ∉ missingQueueCodes && code ∉ badReceiptCodes && code ∉ badCredentialCodes &&
      status ≠ 401 && status ≠ 403
  | _ => true

/-- The queue asks for fewer requests by the code, with a status that stands for another refusal. -/
def throttledByCode : ExchangeFailure → Bool
  | response status code _ => code ∈ throttlingCodes && status ≠ 429 && status < 500
  | _ => false

variable {failure : ExchangeFailure} {status : UInt16} {code message : String}

/-- A general answer is reported with its status. -/
theorem toQueueError_of_general (general : (response status code message).general = true) :
    (response status code message).toQueueError = .providerError (some status) code message := by
  simp only [ExchangeFailure.general, Bool.and_eq_true, decide_eq_true_eq] at general
  obtain ⟨⟨⟨⟨queue, receipt⟩, credential⟩, unauthorized⟩, forbidden⟩ := general
  rw [toQueueError, if_neg queue, if_neg receipt, if_neg]
  exact fun refused => refused.elim credential fun status => status.elim unauthorized forbidden

/-- A general failure is worth a retry if its error is transient, or if it throttles by its code. -/
theorem shouldRetry_eq (general : failure.general = true) (attempt : UInt32) :
    Backoff.shouldRetry (failure.failedAttempt attempt) =
      (failure.toQueueError.isTransient || failure.throttledByCode) := by
  cases failure with
  | network message => rfl
  | malformed message => rfl
  | response status code message =>
    rw [toQueueError_of_general general]
    simp only [Backoff.shouldRetry, failedAttempt, FailedAttempt.isThrottled,
      QueueError.isTransient, throttledByCode]
    grind

/-- What throttles by its code is not reported as transient. -/
theorem isTransient_of_throttledByCode (general : failure.general = true)
    (throttled : failure.throttledByCode = true) :
    failure.toQueueError.isTransient = false := by
  cases failure with
  | network message => cases throttled
  | malformed message => cases throttled
  | response status code message =>
    rw [toQueueError_of_general general]
    simp only [throttledByCode, QueueError.isTransient] at throttled ⊢
    grind

/-- A general failure is no refusal of credentials. -/
theorem isForbidden_of_general (general : failure.general = true) (attempt : UInt32) :
    (failure.failedAttempt attempt).isForbidden = false := by
  cases failure with
  | network message => rfl
  | malformed message => rfl
  | response status code message =>
    simp only [ExchangeFailure.general, Bool.and_eq_true, decide_eq_true_eq] at general
    simpa [failedAttempt, FailedAttempt.isForbidden] using general.2

/-- Any other general failure is judged like its error, with or without retries for credentials. -/
theorem shouldRetry_eq_isTransient {b : Backoff} {delay : Duration} {policy : RetryPolicy}
    (either : policy ∈ [b.policy, (CredentialRetry.mk b.policy delay).policy])
    (general : failure.general = true)
    (unthrottled : failure.throttledByCode = false) (attempt : UInt32) :
    policy.shouldRetry (failure.failedAttempt attempt) = failure.toQueueError.isTransient := by
  have judged : b.policy.shouldRetry (failure.failedAttempt attempt) =
      (failure.toQueueError.isTransient || failure.throttledByCode) :=
    shouldRetry_eq general attempt
  rw [unthrottled, Bool.or_false] at judged
  rcases List.mem_pair.mp either with rfl | rfl
  · exact judged
  · simpa only [CredentialRetry.policy, isForbidden_of_general general, Bool.false_or] using judged

end ExchangeFailure

/-! ## Failures of a call -/

namespace RetryPolicy

variable {policy : RetryPolicy} {outcomes : Nat → Except ExchangeFailure String}
  {failure : ExchangeFailure} {k : Nat}

/-- A failure that is followed by another exchange is worth a retry. -/
theorem shouldRetry_of_not_settles (failed : outcomes k = .error failure)
    (more : ¬ policy.Settles outcomes k) :
    policy.shouldRetry (failure.failedAttempt (.ofNat k)) = true := by
  rw [Settles, failed, not_or] at more
  exact Bool.not_eq_false _ ▸ more.2

/-- The last failure is worth a retry only if none is left. -/
theorem spent_of_settles (failed : outcomes k = .error failure) (last : policy.Settles outcomes k)
    (worth : policy.shouldRetry (failure.failedAttempt (.ofNat k)) = true) :
    k = policy.maxRetries.toNat := by
  rw [Settles, failed] at last
  exact last.resolve_right fun refused => Bool.noConfusion (worth.symm.trans refused)

end RetryPolicy

namespace Client

/-- On a general failure the policy and the error that is reported agree, unless the answer
throttles by its code alone.  So in a call, with or without retries for credentials, each other
general failure that was repeated would have been reported as transient; and the one that is
reported is transient exactly if it was worth a retry and the retries are spent. -/
theorem transient_once_spent (b : Backoff) (delay : Duration) :
    (∀ failure : ExchangeFailure, failure.general = true → ∀ attempt,
      b.policy.shouldRetry (failure.failedAttempt attempt) = failure.toQueueError.isTransient ↔
        failure.throttledByCode = false) ∧
    ∀ policy ∈ [b.policy, (CredentialRetry.mk b.policy delay).policy],
    ∀ (c : Client) (net : Network) action form,
      ∃ k, IsLeast {i | policy.Settles net.outcome i} k ∧
        (((c.withPolicy policy).call net.transport action form).run []).1 =
          (net.outcome k).mapError ExchangeFailure.toQueueError ∧
        ∀ i ≤ k, ∀ failure, net.outcome i = .error failure → failure.general = true →
          failure.throttledByCode = false →
          (i < k → failure.toQueueError.isTransient = true) ∧
          (i = k → (failure.toQueueError.isTransient = true ↔
            k = b.maxRetries.toNat ∧
              policy.shouldRetry (failure.failedAttempt (.ofNat k)) = true)) := by
  refine ⟨fun failure general attempt => ?_, fun policy either c net action form => ?_⟩
  · have judged : b.policy.shouldRetry (failure.failedAttempt attempt) = _ :=
      ExchangeFailure.shouldRetry_eq general attempt
    rw [judged]
    cases throttled : failure.throttledByCode with
    | false => simp
    | true => simp [ExchangeFailure.isTransient_of_throttledByCode general throttled]
  · obtain ⟨k, least, result⟩ := c.call_run_of_policy policy net action form
    refine ⟨k, least, congrArg Prod.fst result,
      fun i within failure failed general unthrottled => ?_⟩
    have judged := ExchangeFailure.shouldRetry_eq_isTransient either general unthrottled
    have budget : policy.maxRetries = b.maxRetries := by
      rcases List.mem_pair.mp either with rfl | rfl <;> rfl
    constructor
    · intro early
      rw [← judged (.ofNat i)]
      exact RetryPolicy.shouldRetry_of_not_settles failed fun settles =>
        Nat.not_le.mpr early (least.2 settles)
    · rintro rfl
      rw [judged, ← budget]
      refine ⟨fun transient => ⟨?_, transient⟩, And.right⟩
      exact RetryPolicy.spent_of_settles failed least.1 ((judged _).trans transient)

/-- A call is answered again and again that there are too many requests, by a code with status 400.
All retries are made, and what is reported in the end is not transient. -/
theorem throttled_reported_lasting :
    let answer : HttpAnswer :=
      ⟨400, "<ErrorResponse><Error><Code>ThrottlingException</Code>" ++
        "<Message>slow down</Message></Error></ErrorResponse>"⟩
    let net : Network := ⟨fun _ => ⟨0⟩, fun _ => .ok answer⟩
    let failure : ExchangeFailure := .response 400 "ThrottlingException" "slow down"
    failure.general = true ∧ failure.toQueueError.isTransient = false ∧
      (∀ attempt, Backoff.shouldRetry (failure.failedAttempt attempt) = true) ∧
      ∀ (c : Client) action form,
        let call := (c.withPolicy Backoff.standard.policy).call net.transport action form
        (call.run []).1 = .error failure.toQueueError ∧ (requestsPosted call).length = 8 := by
  intro answer net failure
  have general : failure.general = true := by decide
  have throttled : failure.throttledByCode = true := by decide
  have worth (attempt : UInt32) : Backoff.shouldRetry (failure.failedAttempt attempt) = true := by
    rw [ExchangeFailure.shouldRetry_eq general, throttled, Bool.or_true]
  have outcome (i : Nat) : net.outcome i = .error failure := by
    have read : Client.outcome answer = .error failure := by decide +kernel
    exact read
  refine ⟨general, ExchangeFailure.isTransient_of_throttledByCode general throttled, worth,
    fun c action form => ?_⟩
  obtain ⟨k, least, result⟩ := c.call_run_of_policy Backoff.standard.policy net action form
  obtain ⟨k', least', posted⟩ :=
    (c.withPolicy Backoff.standard.policy).requestsPosted_call net action form
  obtain rfl : k = k' := least.unique least'
  have spent : k = 7 := RetryPolicy.spent_of_settles (outcome k) least.1 (worth (.ofNat k))
  refine ⟨?_, ?_⟩
  · rw [result, outcome]
    rfl
  · rw [posted, List.length_map, List.length_range, spent]

end Client
end MessageQueue
