import MessageQueue.Client.Basic
import Mathlib.Data.List.Basic
import Mathlib.Order.Bounds.Basic

/-!
# The exchanges of a call

A network is given by what the clock shows and what is answered, each by the number of the request,
and keeps a record of what a client does.  Over such a network a call makes one exchange after
another until one of them settles it: one that succeeds, one that the policy does not find worth a
retry, or the one after which no retries are left.  `retrying_run` says what is in the record by
then.

The number that the policy is told with a failure is a word of 32 bits.  It counts the retries so
far, which are never more than the policy allows, so it does not run over.
-/

namespace MessageQueue

/-! ## Networks with a record -/

/-- What a client does. -/
inductive Deed where
  | posted (request : HttpRequest)
  /-- It waits before a retry. -/
  | paused (pause : Pause)

/-- Whether a request is posted. -/
def Deed.posts : Deed → Bool
  | .posted _ => true
  | .paused _ => false

/-- What comes back over a network, by the number of the request. -/
structure Network where
  clock : Nat → Timestamp
  answers : Nat → Except String HttpAnswer

namespace Network

variable (net : Network)

/-- What a client does over the network is kept in a record. -/
def transport : Transport (StateM (List Deed)) where
  now := fun record => (net.clock (record.countP Deed.posts), record)
  post r := fun record => (net.answers (record.countP Deed.posts), record ++ [.posted r])
  decided _ verdict := fun record => ((), record ++ verdict.toList.map .paused)

/-- What comes of the exchange with a number. -/
def outcome (i : Nat) : Except ExchangeFailure String :=
  match net.answers i with
  | .error message => .error (.network message)
  | .ok answer => Client.outcome answer

variable {net}

/-- Of a failure a policy is told the number of the attempt, and of an answer that reports an error
its status and the code that is read in it. -/
theorem failedAttempt_eq {i : Nat} {failure : ExchangeFailure}
    (failed : net.outcome i = .error failure) (attempt : UInt32) :
    match net.answers i with
    | .error message =>
      failure = .network message ∧ failure.failedAttempt attempt = ⟨attempt, none, none⟩
    | .ok answer =>
      ∃ code message,
        Answer.failure answer.status answer.body = .response answer.status code message ∧
        failure = .response answer.status code message ∧
        failure.failedAttempt attempt = ⟨attempt, some answer.status, some code⟩ := by
  rw [outcome] at failed
  split at failed
  next message answered =>
    cases failed
    exact ⟨rfl, rfl⟩
  next answer answered =>
    rw [Client.outcome] at failed
    split at failed
    next => cases failed
    next =>
      cases failed
      exact ⟨_, _, rfl, rfl, rfl⟩

end Network

/-! ## Which exchange is the last one -/

/-- An exchange after which there is no further one. -/
def RetryPolicy.Settles (policy : RetryPolicy) (outcomes : Nat → Except ExchangeFailure String)
    (i : Nat) : Prop :=
  match outcomes i with
  | .ok _ => True
  | .error failure =>
    i = policy.maxRetries.toNat ∨ policy.shouldRetry (failure.failedAttempt (.ofNat i)) = false

/-- What a client does in an exchange that is not the last one. -/
def RetryPolicy.round (policy : RetryPolicy) (outcomes : Nat → Except ExchangeFailure String)
    (requests : Nat → HttpRequest) (i : Nat) : List Deed :=
  .posted (requests i) ::
    match outcomes i with
    | .ok _ => []
    | .error failure => [.paused (policy.pause (failure.failedAttempt (.ofNat i)))]

/-! ## One exchange after another -/

/-- What is done later sees the record of what was done before. -/
theorem run_bind_eq {α β : Type} (first : StateM (List Deed) α) (next : α → StateM (List Deed) β)
    (record : List Deed) :
    (first >>= next).run record = (next (first.run record).1).run (first.run record).2 := rfl

namespace RetryPolicy

variable {policy : RetryPolicy} {outcomes : Nat → Except ExchangeFailure String}
  {requests : Nat → HttpRequest}
variable {exchange : StateM (List Deed) (Except ExchangeFailure String)} {net : Network}

section Outcome

variable {record after : List Deed} {failure : ExchangeFailure}

theorem run_of_ok {answer : String} (left : Nat) (attempt : UInt32)
    (made : exchange.run record = (.ok answer, after)) :
    (retrying policy net.transport.decided exchange left attempt).run record =
      (.ok answer, after) := by
  unfold retrying
  rw [run_bind_eq, made]
  rfl

theorem run_of_spent (attempt : UInt32)
    (made : exchange.run record = (.error failure, after)) :
    (retrying policy net.transport.decided exchange 0 attempt).run record =
      (.error failure.toQueueError, after) := by
  unfold retrying
  rw [run_bind_eq, made]
  rfl

theorem run_of_refused (left : Nat)
    (attempt : UInt32) (made : exchange.run record = (.error failure, after))
    (refused : policy.shouldRetry (failure.failedAttempt attempt) = false) :
    (retrying policy net.transport.decided exchange (left + 1) attempt).run record =
      (.error failure.toQueueError, after) := by
  have verdict : policy.verdict (failure.failedAttempt attempt) = none := by simp [verdict, refused]
  unfold retrying
  rw [run_bind_eq, made]
  simp only [verdict]
  rw [run_bind_eq]
  show (_, after ++ []) = (_, after)
  rw [List.append_nil]

theorem run_of_retried (left : Nat)
    (attempt : UInt32) (made : exchange.run record = (.error failure, after))
    (worth : policy.shouldRetry (failure.failedAttempt attempt) = true) :
    (retrying policy net.transport.decided exchange (left + 1) attempt).run record =
      (retrying policy net.transport.decided exchange left (attempt + 1)).run
        (after ++ [.paused (policy.pause (failure.failedAttempt attempt))]) := by
  have verdict : policy.verdict (failure.failedAttempt attempt) =
      some (policy.pause (failure.failedAttempt attempt)) := by simp [verdict, worth]
  conv => lhs; unfold retrying
  rw [run_bind_eq, made]
  simp only [verdict]
  rfl
end Outcome

section Budget

variable (made : ∀ record : List Deed, exchange.run record =
  (outcomes (record.countP Deed.posts), record ++ [.posted (requests (record.countP Deed.posts))]))
variable {left n : Nat} {record : List Deed}

include made in
/-- The last exchange ends the call. -/
theorem run_of_settles (budget : n + left = policy.maxRetries.toNat)
    (numbered : record.countP Deed.posts = n) (last : policy.Settles outcomes n) :
    (retrying policy net.transport.decided exchange left (.ofNat n)).run record =
      ((outcomes n).mapError ExchangeFailure.toQueueError, record ++ [.posted (requests n)]) := by
  have now := made record
  rw [numbered] at now
  unfold Settles at last
  cases outcome : outcomes n with
  | ok answer =>
    rw [outcome] at now
    exact run_of_ok left _ now
  | error failure =>
    rw [outcome] at now last
    cases left with
    | zero => exact run_of_spent _ now
    | succ left => exact run_of_refused left _ now (last.resolve_left (by omega))

variable (net) in
include made in
/-- An exchange that is not the last one is followed by a pause, and there is a retry left for the
next one. -/
theorem run_of_not_settles (budget : n + left = policy.maxRetries.toNat)
    (numbered : record.countP Deed.posts = n) (more : ¬ policy.Settles outcomes n) :
    ∃ fewer, n + 1 + fewer = policy.maxRetries.toNat ∧
      (record ++ policy.round outcomes requests n).countP Deed.posts = n + 1 ∧
      (retrying policy net.transport.decided exchange left (.ofNat n)).run record =
        (retrying policy net.transport.decided exchange fewer (.ofNat (n + 1))).run
          (record ++ policy.round outcomes requests n) := by
  have now := made record
  rw [numbered] at now
  unfold Settles at more
  cases outcome : outcomes n with
  | ok answer =>
    rw [outcome] at more
    exact absurd trivial more
  | error failure =>
    rw [outcome] at now more
    obtain ⟨unspent, worth⟩ := not_or.mp more
    cases left with
    | zero => exact absurd budget unspent
    | succ fewer =>
      refine ⟨fewer, by omega, ?_, ?_⟩
      · simp only [round, outcome, List.countP_append, numbered]
        rfl
      · rw [run_of_retried fewer _ now (Bool.not_eq_false _ ▸ worth), UInt32.ofNat_add]
        simp [round, outcome]

include made in
/-- A call makes exchanges up to the first one that settles it. -/
theorem retrying_run (budget : n + left = policy.maxRetries.toNat)
    (numbered : record.countP Deed.posts = n) :
    ∃ k, n ≤ k ∧ policy.Settles outcomes k ∧ (∀ i, n ≤ i → i < k → ¬ policy.Settles outcomes i) ∧
      (retrying policy net.transport.decided exchange left (.ofNat n)).run record =
        ((outcomes k).mapError ExchangeFailure.toQueueError,
          record ++ (List.range' n (k - n)).flatMap (policy.round outcomes requests) ++
            [.posted (requests k)]) := by
  induction left generalizing n record with
  | zero =>
    have last : policy.Settles outcomes n := by
      unfold Settles
      split
      next => trivial
      next => exact .inl budget
    refine ⟨n, Nat.le_refl n, last, fun i low high => absurd high (Nat.not_lt.mpr low), ?_⟩
    simpa using run_of_settles made budget numbered last
  | succ left ih =>
    by_cases last : policy.Settles outcomes n
    · refine ⟨n, Nat.le_refl n, last, fun i low high => absurd high (Nat.not_lt.mpr low), ?_⟩
      simpa using run_of_settles made budget numbered last
    · obtain ⟨fewer, spent, renumbered, next⟩ := run_of_not_settles net made budget numbered last
      obtain rfl : fewer = left := by omega
      obtain ⟨k, later, settles, first, result⟩ := ih spent renumbered
      refine ⟨k, Nat.le_of_succ_le later, settles, fun i low high => ?_, ?_⟩
      · rcases Nat.eq_or_lt_of_le low with rfl | above
        · exact last
        · exact first i above high
      · have span : k - n = k - (n + 1) + 1 := by omega
        rw [next, result, span, List.range'_succ, List.flatMap_cons, ← List.append_assoc record]

end Budget
end RetryPolicy

/-! ## The requests that are posted -/

/-- The request that is posted, if this is what a client does. -/
def Deed.request? : Deed → Option HttpRequest
  | .posted request => some request
  | .paused _ => none

/-- The requests that a client posts while it asks for something, the first one first. -/
def requestsPosted {α : Type} (asked : StateM (List Deed) α) : List HttpRequest :=
  (asked.run []).2.filterMap Deed.request?

theorem RetryPolicy.filterMap_round (policy : RetryPolicy)
    (outcomes : Nat → Except ExchangeFailure String) (requests : Nat → HttpRequest) (i : Nat) :
    (policy.round outcomes requests i).filterMap Deed.request? = [requests i] := by
  unfold round
  cases outcomes i <;> rfl

/-! ## The exchanges of a client -/

namespace Client

variable (c : Client) (net : Network)

theorem post_run (r : HttpRequest) (record : List Deed) :
    (net.transport.post r).run record =
      (net.answers (record.countP Deed.posts), record ++ [.posted r]) := rfl

theorem exchange_run (form : String) (record : List Deed) :
    (c.exchange net.transport form).run record =
      (net.outcome (record.countP Deed.posts),
        record ++ [.posted (c.request form (net.clock (record.countP Deed.posts)))]) := by
  unfold exchange
  rw [run_bind_eq, run_bind_eq]
  have now : net.transport.now.run record = (net.clock (record.countP Deed.posts), record) := rfl
  rw [now, post_run, Network.outcome]
  cases net.answers (record.countP Deed.posts) <;> rfl

/-- Every exchange of a call posts the same form.  The call ends with the first exchange that
settles it, and reports what came of this one; before it there is one pause after each exchange. -/
theorem call_run (action : String) (form : Form) :
    ∃ k, IsLeast {i | c.policy.Settles net.outcome i} k ∧
      (c.call net.transport action form).run [] =
        ((net.outcome k).mapError ExchangeFailure.toQueueError,
          (List.range k).flatMap
              (c.policy.round net.outcome fun i =>
                c.request (form.forAction action).text (net.clock i)) ++
            [.posted (c.request (form.forAction action).text (net.clock k))]) := by
  obtain ⟨k, -, settles, first, result⟩ :=
    @RetryPolicy.retrying_run c.policy net.outcome
      (fun i => c.request (form.forAction action).text (net.clock i)) _ net
      (c.exchange_run net (form.forAction action).text) _ _ []
        (Nat.zero_add c.policy.maxRetries.toNat) rfl
  refine ⟨k, ⟨settles, fun i last => ?_⟩, ?_⟩
  · exact Nat.not_lt.mp fun early => first i (Nat.zero_le i) early last
  · rw [Nat.sub_zero, List.nil_append, ← List.range_eq_range'] at result
    exact result

/-- The requests of a call post its form, one for each exchange up to the first that settles it. -/
theorem requestsPosted_call (action : String) (form : Form) :
    ∃ k, IsLeast {i | c.policy.Settles net.outcome i} k ∧
      requestsPosted (c.call net.transport action form) =
        (List.range (k + 1)).map fun i => c.request (form.forAction action).text (net.clock i) := by
  obtain ⟨k, least, result⟩ := c.call_run net action form
  refine ⟨k, least, ?_⟩
  rw [requestsPosted, result, List.filterMap_append, List.filterMap_flatMap]
  simp only [RetryPolicy.filterMap_round, ← List.map_eq_flatMap, List.range_succ, List.map_append]
  rfl

theorem settles_of_ok {policy : RetryPolicy} {outcomes : Nat → Except ExchangeFailure String}
    {i : Nat}
    {answer : String} (outcome : outcomes i = .ok answer) : policy.Settles outcomes i := by
  simp [RetryPolicy.Settles, outcome]

theorem settles_maxRetries (policy : RetryPolicy) (outcomes : Nat → Except ExchangeFailure String) :
    policy.Settles outcomes policy.maxRetries.toNat := by
  unfold RetryPolicy.Settles
  split
  next => trivial
  next => exact .inl rfl

/-- A call makes one exchange after another, all with the same form, up to the first that succeeds,
that the policy does not find worth a retry, or that is the last one allowed.  After each of the
others it pauses as the policy asks for this failure and this number, which is never more than the
retries allowed.  Besides the number the policy is told the status and the code of an answer that
reports an error, and of a failure without an answer nothing.  The call reports what came of the
last exchange.  An answer with a status of success is the last one, and what is read in its body has
no influence on the exchanges. -/
theorem exchanges_counted (c : Client) (net : Network) :
    (∀ action form, ∃ (k : Nat) (failures : Nat → ExchangeFailure),
      let text := (form.forAction action).text
      IsLeast {i | c.policy.Settles net.outcome i} k ∧
        k ≤ c.policy.maxRetries.toNat ∧ (∀ i ≤ k, (UInt32.ofNat i).toNat = i) ∧
        (∀ i < k, net.outcome i = .error (failures i)) ∧
        (∀ i answer, net.answers i = .ok answer → 200 ≤ answer.status.toNat →
          answer.status.toNat < 300 → k ≤ i) ∧
        (c.call net.transport action form).run [] =
          ((net.outcome k).mapError ExchangeFailure.toQueueError,
            (List.range k).flatMap (fun i =>
              [.posted (c.request text (net.clock i)),
                .paused (c.policy.pause ((failures i).failedAttempt (.ofNat i)))]) ++
              [.posted (c.request text (net.clock k))]) ∧
        (requestsPosted (c.call net.transport action form)).map HttpRequest.body =
          List.replicate (k + 1) text) ∧
      (∀ i failure, net.outcome i = .error failure → ∀ attempt,
        match net.answers i with
        | .error message =>
          failure = .network message ∧ failure.failedAttempt attempt = ⟨attempt, none, none⟩
        | .ok answer =>
          ∃ code message,
            Answer.failure answer.status answer.body = .response answer.status code message ∧
            failure = .response answer.status code message ∧
            failure.failedAttempt attempt = ⟨attempt, some answer.status, some code⟩) ∧
      (∀ r, ((c.service net.transport).receive r).run [] =
        let call := (c.call net.transport "ReceiveMessage" (.receive r)).run []
        (reading Answer.received call.1, call.2)) ∧
      (∀ r, r.size ≤ maxMessageSize → ((c.service net.transport).send r).run [] =
        let call := (c.call net.transport "SendMessage" (.send r)).run []
        (reading Answer.sent call.1, call.2)) := by
  refine ⟨fun action form => ?_,
    fun i failure failed => Network.failedAttempt_eq failed, fun r => rfl, fun r small => ?_⟩
  · obtain ⟨k, least, result⟩ := c.call_run net action form
    obtain ⟨k', least', posted⟩ := c.requestsPosted_call net action form
    obtain rfl : k = k' := least.unique least'
    have bounded : k ≤ c.policy.maxRetries.toNat :=
      least.2 (settles_maxRetries c.policy net.outcome)
    have failed (i : Nat) : ∃ failure, i < k → net.outcome i = .error failure := by
      cases outcome : net.outcome i with
      | ok answer =>
        exact ⟨.network "", fun early =>
          absurd (least.2 (settles_of_ok outcome)) (Nat.not_le.mpr early)⟩
      | error failure => exact ⟨failure, fun _ => rfl⟩
    choose failures failed using failed
    refine ⟨k, failures, least, bounded, fun i within => ?_, failed,
      fun i answer answered low high => ?_, ?_, ?_⟩
    · exact UInt32.toNat_ofNat_of_lt'
        (Nat.lt_of_le_of_lt (within.trans bounded) c.policy.maxRetries.toNat_lt)
    · have outcome : net.outcome i = .ok answer.body := by
        simp [Network.outcome, answered, outcome, low, high]
      exact least.2 (settles_of_ok outcome)
    · rw [result]
      congr 2
      refine List.flatMap_congr fun i member => ?_
      simp only [RetryPolicy.round, failed i (List.mem_range.mp member)]
    · rw [posted, List.map_map, List.eq_replicate_iff]
      refine ⟨by simp, fun body member => ?_⟩
      obtain ⟨i, -, made⟩ := List.mem_map.mp member
      exact made.symm
  · have room : ¬ maxMessageSize < r.size := Nat.not_lt.mpr small
    simp only [service, if_neg room]
    rfl

/-- A policy that asks for a longer pause when a service is busy. -/
def patient : RetryPolicy where
  maxRetries := 4294967295
  shouldRetry failed := failed.status ≠ some 403
  pause failed :=
    .exact (.ofSeconds (if failed.code = some "Busy" then 60 else failed.attempt.toNat))
  description := "patient"

/-- A connection is reset, a busy service says so, and the third answer is a success that cannot be
read. -/
def troubled : Network where
  clock i := ⟨i⟩
  answers
    | 0 => .error "reset"
    | 1 => .ok ⟨503, "<ErrorResponse><Error><Code>Busy</Code></Error></ErrorResponse>"⟩
    | _ => .ok ⟨200, "<"⟩

theorem exchanges_counted_in_trouble :
    let c : Client :=
      ⟨⟨"http".toList, true, [], [], "localhost".toList, none, ['/'], none, none⟩, "localhost",
        none, 30, patient⟩
    let text := (Form.forAction "DeleteMessage" .empty).text
    (c.call troubled.transport "DeleteMessage" .empty).run [] =
        (.ok "<",
          [.posted (c.request text ⟨0⟩), .paused (.exact (.ofSeconds 0)),
            .posted (c.request text ⟨1⟩), .paused (.exact (.ofSeconds 60)),
            .posted (c.request text ⟨2⟩)]) ∧
      (requestsPosted (c.call troubled.transport "DeleteMessage" .empty)).map HttpRequest.body =
        [text, text, text] := by
  intro c text
  obtain ⟨calls, -⟩ := exchanges_counted c troubled
  obtain ⟨k, failures, least, -, -, failed, -, result, bodies⟩ := calls "DeleteMessage" .empty
  have reset : troubled.outcome 0 = .error (.network "reset") := rfl
  have busy : troubled.outcome 1 = .error (.response 503 "Busy" "Unknown error") := by
    decide +kernel
  have third : IsLeast {i | c.policy.Settles troubled.outcome i} 2 := by
    refine ⟨trivial, fun i settles => Nat.not_lt.mp fun early => ?_⟩
    have cases : i = 0 ∨ i = 1 := by omega
    rcases cases with rfl | rfl
    · simp [RetryPolicy.Settles, reset, c, patient, ExchangeFailure.failedAttempt] at settles
    · simp [RetryPolicy.Settles, busy, c, patient, ExchangeFailure.failedAttempt] at settles
  obtain rfl : k = 2 := least.unique third
  have first : failures 0 = .network "reset" :=
    Except.error.inj ((failed 0 (by decide)).symm.trans reset)
  have second : failures 1 = .response 503 "Busy" "Unknown error" :=
    Except.error.inj ((failed 1 (by decide)).symm.trans busy)
  refine ⟨result.trans ?_, bodies⟩
  simp only [List.range_succ, List.range_zero, List.nil_append, List.cons_append, List.flatMap_cons,
    List.flatMap_nil, first, second]
  rfl

end Client
end MessageQueue
