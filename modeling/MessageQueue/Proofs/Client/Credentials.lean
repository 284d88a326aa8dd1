import MessageQueue.Proofs.Client.Exchanges

/-!
# Calls that wait for credentials

A policy that repeats refused requests is built around another policy.  Which exchange settles a
call and how long the client pauses after one that does not is decided exchange by exchange, so the
two policies are compared exchange by exchange.  After an answer with status 403 only the retries
that are left count (`settles_policy_of_forbidden`), and the pause is always the same
(`round_policy_of_forbidden`).  After anything else the policies agree, because the inner one is
told the same number of the attempt (`settles_policy_of_allowed`, `round_policy_of_allowed`).

So a call without a refusal is the same under both policies.  With refusals, each of them takes one
of the retries that the inner policy allows, and the other failures take theirs from the same number
(`Client.refusals_retried`).
-/

namespace MessageQueue

/-- Whether the answer to a request refuses the credentials. -/
def Network.forbidden (net : Network) (i : Nat) : Bool :=
  match net.answers i with
  | .ok answer => answer.status == 403
  | .error _ => false

namespace Network

variable {net : Network} {i : Nat}

/-- A policy is told of a refusal exactly if there is one. -/
theorem isForbidden_eq {failure : ExchangeFailure} (failed : net.outcome i = .error failure)
    (attempt : UInt32) :
    (failure.failedAttempt attempt).isForbidden = net.forbidden i := by
  rw [outcome] at failed
  rw [forbidden]
  cases answered : net.answers i with
  | error message =>
    rw [answered] at failed
    cases failed
    rfl
  | ok answer =>
    rw [answered] at failed
    simp only [Client.outcome] at failed
    split at failed
    next => cases failed
    next =>
      cases failed
      simp [Answer.failure, ExchangeFailure.failedAttempt, FailedAttempt.isForbidden, beq_eq_decide]

/-- A refusal is a failure. -/
theorem failed_of_forbidden (refused : net.forbidden i = true) :
    ∃ failure, net.outcome i = .error failure := by
  rw [forbidden] at refused
  cases answered : net.answers i with
  | error message =>
    rw [answered] at refused
    cases refused
  | ok answer =>
    simp only [answered, beq_iff_eq] at refused
    refine ⟨Answer.failure answer.status answer.body, ?_⟩
    rw [outcome, answered]
    simp [Client.outcome, refused]

end Network

/-! ## One exchange under both policies -/

namespace CredentialRetry

variable {c : CredentialRetry} {net : Network} {i : Nat}

/-- A refusal is the end of a call only when no retries are left. -/
theorem settles_policy_of_forbidden (refused : net.forbidden i = true) :
    c.policy.Settles net.outcome i ↔ i = c.inner.maxRetries.toNat := by
  obtain ⟨failure, failed⟩ := Network.failed_of_forbidden refused
  have worth : c.policy.shouldRetry (failure.failedAttempt (.ofNat i)) = true := by
    simp [policy, Network.isForbidden_eq failed, refused]
  rw [RetryPolicy.Settles, failed]
  simp only [worth, Bool.true_eq_false, or_false]
  rfl

/-- What is no refusal ends a call exactly if it does so under the inner policy. -/
theorem settles_policy_of_allowed (allowed : net.forbidden i = false) :
    c.policy.Settles net.outcome i ↔ c.inner.Settles net.outcome i := by
  rw [RetryPolicy.Settles, RetryPolicy.Settles]
  cases outcome : net.outcome i with
  | ok answer => exact Iff.rfl
  | error failure =>
    have same : c.policy.shouldRetry (failure.failedAttempt (.ofNat i)) =
        c.inner.shouldRetry (failure.failedAttempt (.ofNat i)) := by
      simp [policy, Network.isForbidden_eq outcome, allowed]
    simp only [same]
    rfl

variable (requests : Nat → HttpRequest)

/-- After a refusal the pause is always the same. -/
theorem round_policy_of_forbidden (refused : net.forbidden i = true) :
    c.policy.round net.outcome requests i = [.posted (requests i), .paused (.exact c.delay)] := by
  obtain ⟨failure, failed⟩ := Network.failed_of_forbidden refused
  have pause : c.policy.pause (failure.failedAttempt (.ofNat i)) = .exact c.delay := by
    simp [policy, Network.isForbidden_eq failed, refused]
  rw [RetryPolicy.round, failed]
  simp only [pause]

/-- After anything else the pause is that of the inner policy. -/
theorem round_policy_of_allowed (allowed : net.forbidden i = false) :
    c.policy.round net.outcome requests i = c.inner.round net.outcome requests i := by
  rw [RetryPolicy.round, RetryPolicy.round]
  cases outcome : net.outcome i with
  | ok answer => rfl
  | error failure =>
    have same : c.policy.pause (failure.failedAttempt (.ofNat i)) =
        c.inner.pause (failure.failedAttempt (.ofNat i)) := by
      simp [policy, Network.isForbidden_eq outcome, allowed]
    simp only [same]

end CredentialRetry

/-! ## Calls under both policies -/

namespace Client

/-- What is done in a call under a policy. -/
theorem call_run_of_policy (c : Client) (policy : RetryPolicy) (net : Network) (action : String)
    (form : Form) :
    ∃ k, IsLeast {i | policy.Settles net.outcome i} k ∧
      ((c.withPolicy policy).call net.transport action form).run [] =
        ((net.outcome k).mapError ExchangeFailure.toQueueError,
          (List.range k).flatMap
              (policy.round net.outcome fun i =>
                c.request (form.forAction action).text (net.clock i)) ++
            [.posted (c.request (form.forAction action).text (net.clock k))]) :=
  (c.withPolicy policy).call_run net action form

/-- A call that is never refused is the same call under the inner policy.  Otherwise a call ends
with the first exchange that is refused when no retries are left, or that is not refused and ends a
call under the inner policy.  A refusal before that is followed by the one pause and by a further
exchange, and any other failure by the pause of the inner policy for this failure and this
number. -/
theorem refusals_retried (c : Client) (inner : RetryPolicy) (delay : Duration) (net : Network)
    (action : String) (form : Form) :
    let requests := fun i => c.request (form.forAction action).text (net.clock i)
    let run :=
      ((c.withPolicy (CredentialRetry.mk inner delay).policy).call net.transport action form).run []
    ((∀ i, net.forbidden i = false) →
      run = ((c.withPolicy inner).call net.transport action form).run []) ∧
      ∃ k,
        IsLeast {i | if net.forbidden i then i = inner.maxRetries.toNat
          else inner.Settles net.outcome i} k ∧
        k ≤ inner.maxRetries.toNat ∧
        (∀ i ≤ k, net.forbidden i = true → i < inner.maxRetries.toNat → i < k) ∧
        run = ((net.outcome k).mapError ExchangeFailure.toQueueError,
          (List.range k).flatMap (fun i =>
              if net.forbidden i then [.posted (requests i), .paused (.exact delay)]
              else inner.round net.outcome requests i) ++
            [.posted (requests k)]) := by
  intro requests run
  obtain ⟨k, least, result⟩ :=
    c.call_run_of_policy (CredentialRetry.mk inner delay).policy net action form
  constructor
  · intro allowed
    obtain ⟨k', least', result'⟩ := c.call_run_of_policy inner net action form
    have ends : {i | (CredentialRetry.mk inner delay).policy.Settles net.outcome i} =
        {i | inner.Settles net.outcome i} :=
      Set.ext fun i => CredentialRetry.settles_policy_of_allowed (allowed i)
    obtain rfl : k = k' := least.unique (ends ▸ least')
    refine result.trans (Eq.trans ?_ result'.symm)
    congr 2
    exact List.flatMap_congr fun i _ => CredentialRetry.round_policy_of_allowed requests (allowed i)
  · have ends : {i | (CredentialRetry.mk inner delay).policy.Settles net.outcome i} =
        {i | if net.forbidden i then i = inner.maxRetries.toNat
          else inner.Settles net.outcome i} := by
      refine Set.ext fun i => ?_
      rw [Set.mem_ofPred_eq, Set.mem_ofPred_eq]
      cases refused : net.forbidden i with
      | false => exact CredentialRetry.settles_policy_of_allowed refused
      | true => exact CredentialRetry.settles_policy_of_forbidden refused
    have bounded : k ≤ inner.maxRetries.toNat :=
      least.2 (settles_maxRetries (CredentialRetry.mk inner delay).policy net.outcome)
    refine ⟨k, ends ▸ least, bounded, fun i within refused unspent => ?_, ?_⟩
    · -- The last exchange is not refused as long as retries are left.
      refine Nat.lt_of_le_of_ne within fun last => ?_
      subst last
      exact absurd ((CredentialRetry.settles_policy_of_forbidden refused).mp least.1)
        (Nat.ne_of_lt unspent)
    · refine result.trans ?_
      congr 2
      refine List.flatMap_congr fun i _ => ?_
      cases refused : net.forbidden i with
      | false => exact CredentialRetry.round_policy_of_allowed requests refused
      | true => exact CredentialRetry.round_policy_of_forbidden requests refused

end Client
end MessageQueue
