import MessageQueue.Consumer.Step
import MessageQueue.Proofs.Client.Signed
import MessageQueue.Proofs.Writer.Session

/-!
# What does not depend on secrets

Settings hold two secrets, the secret key and the token of a session.  Two settings that differ only
in these are accepted or refused alike, and all that is made of them looks alike: diagnostics say of
a secret only whether it is there, and nothing but the signer of a client knows more.

A signer does use its secrets.  Of the headers that it adds, the secret key makes a difference only
to the signature that stands at the end of the authorization, and the token to that and to the
header that carries it (`Signer.headers_alike`).
-/

namespace MessageQueue

/-- Two attempts come to the same: both are refused for the same reason, or both succeed, with
results that correspond. -/
inductive SameOutcome {ε α β : Type} (R : α → β → Prop) : Except ε α → Except ε β → Prop where
  | refused (reason : ε) : SameOutcome R (.error reason) (.error reason)
  | made {a : α} {b : β} (correspond : R a b) : SameOutcome R (.ok a) (.ok b)

theorem SameOutcome.imp {ε α β : Type} {R S : α → β → Prop} {x : Except ε α} {y : Except ε β}
    (weaker : ∀ {a b}, R a b → S a b) (same : SameOutcome R x y) : SameOutcome S x y := by
  cases same with
  | refused reason => exact .refused reason
  | made correspond => exact .made (weaker correspond)

/-! ## Settings -/

namespace ConnectionSettings

/-- Settings that differ only in what their secrets are.  Each secret is there in both or in
none. -/
structure AlikeButSecrets (s t : ConnectionSettings) : Prop where
  region : s.region = t.region
  endpoint : s.endpoint = t.endpoint
  accessKeyId : s.accessKeyId = t.accessKeyId
  secretAccessKey : s.secretAccessKey.isSome = t.secretAccessKey.isSome
  sessionToken : s.sessionToken.isSome = t.sessionToken.isSome
  requestTimeoutSeconds : s.requestTimeoutSeconds = t.requestTimeoutSeconds

/-- Of two secrets that are there in both settings or in none, nothing more is known. -/
theorem both_or_neither {secret other : Option String} (same : secret.isSome = other.isSome) :
    secret = none ∧ other = none ∨ ∃ mine theirs, secret = some mine ∧ other = some theirs := by
  cases secret with
  | none => exact .inl ⟨rfl, Option.isNone_iff_eq_none.mp (by simpa using same.symm)⟩
  | some mine =>
    obtain ⟨theirs, given⟩ := Option.isSome_iff_exists.mp same.symm
    exact .inr ⟨mine, theirs, rfl, given⟩

theorem redacted_eq {secret other : Option String} (same : secret.isSome = other.isSome) :
    redacted secret = redacted other := by
  obtain ⟨rfl, rfl⟩ | ⟨mine, theirs, rfl, rfl⟩ := both_or_neither same
  · rfl
  · rfl

namespace AlikeButSecrets

variable {s t : ConnectionSettings}

theorem shown_eq (alike : s.AlikeButSecrets t) : shown s = shown t := by
  simp only [shown, alike.region, alike.endpoint, alike.accessKeyId,
    redacted_eq alike.secretAccessKey, redacted_eq alike.sessionToken, alike.requestTimeoutSeconds]

theorem fault?_eq (alike : s.AlikeButSecrets t) : s.fault? = t.fault? := by
  simp only [fault?, alike.region, alike.accessKeyId, alike.secretAccessKey,
    alike.requestTimeoutSeconds]

theorem address_eq (alike : s.AlikeButSecrets t) : s.address = t.address := by
  simp only [address, alike.region, alike.endpoint]

end AlikeButSecrets
end ConnectionSettings

/-! ## Signers -/

/-- Signers that differ only in what their secrets are. -/
structure Signer.AlikeButSecrets (a b : Signer) : Prop where
  accessKey : a.accessKey = b.accessKey
  sessionToken : a.sessionToken.isSome = b.sessionToken.isSome
  region : a.region = b.region

/-- Headers that differ at most in the signature at the end of an authorization, which is a digest
in hexadecimal, or in the token that they carry. -/
inductive HeaderAlike : String × String → String × String → Prop where
  | same (header : String × String) : HeaderAlike header header
  | signature (before : String) {digest other : Bytes} (whole : digest.length = 32)
      (whole' : other.length = 32) :
    HeaderAlike ("Authorization", before ++ ", Signature=" ++ digest.toHex)
      ("Authorization", before ++ ", Signature=" ++ other.toHex)
  | token {text other : String} :
      HeaderAlike ("x-amz-security-token", text) ("x-amz-security-token", other)

/-- A signature is a digest in hexadecimal. -/
theorem Signer.signature_eq (s : Signer) (request : SignedRequest) :
    ∃ digest : Bytes, digest.length = 32 ∧ s.signature Sha256.digest request = digest.toHex := by
  refine ⟨_, ?_, rfl⟩
  rw [Hmac.digest]
  exact Sha256.length_digest _

theorem Signer.headers_alike {a b : Signer} (alike : a.AlikeButSecrets b)
    (request : SignedRequest) :
    List.Forall₂ HeaderAlike (a.headers Sha256.digest request)
      (b.headers Sha256.digest request) := by
  have authorization : HeaderAlike ("Authorization", a.authorization Sha256.digest request)
      ("Authorization", b.authorization Sha256.digest request) := by
    have scope : a.scope request = b.scope request := by
      rw [Signer.scope, Signer.scope, alike.region]
    have names : a.signedHeaders = b.signedHeaders := by
      rw [signedHeaders, signedHeaders, alike.sessionToken]
    obtain ⟨mine, whole, signed⟩ := a.signature_eq request
    obtain ⟨other, whole', signed'⟩ := b.signature_eq request
    unfold Signer.authorization
    rw [alike.accessKey, scope, names, signed, signed']
    apply HeaderAlike.signature _ whole whole'
  refine .cons authorization (.cons (.same _) ?_)
  obtain ⟨absent, absent'⟩ | ⟨mine, theirs, given, given'⟩ :=
    ConnectionSettings.both_or_neither alike.sessionToken
  · rw [absent, absent']
    exact .nil
  · rw [given, given']
    exact .cons .token .nil

/-! ## Clients, consumers and topics -/

/-- Clients that differ only in the secrets of their signers. -/
structure Client.AlikeButSecrets (c d : Client) : Prop where
  endpoint : c.endpoint = d.endpoint
  host : c.host = d.host
  timeoutSeconds : c.timeoutSeconds = d.timeoutSeconds
  policy : c.policy = d.policy
  signer : Option.Rel Signer.AlikeButSecrets c.signer d.signer

namespace Client.AlikeButSecrets

variable {c d : Client}

theorem shown_eq (alike : c.AlikeButSecrets d) : shown c = shown d := by
  have signed : c.signer.isSome = d.signer.isSome := by
    have signers := alike.signer
    generalize c.signer = mine, d.signer = other at signers ⊢
    cases signers <;> rfl
  simp only [shown, alike.endpoint, alike.policy, signed]

theorem withPolicy (alike : c.AlikeButSecrets d) (policy : RetryPolicy) :
    (c.withPolicy policy).AlikeButSecrets (d.withPolicy policy) := { alike with policy := rfl }

end Client.AlikeButSecrets

section

variable {s t : ConnectionSettings}

theorem Client.signerOf_alike (alike : s.AlikeButSecrets t) :
    Option.Rel Signer.AlikeButSecrets (signerOf s) (signerOf t) := by
  rw [signerOf, signerOf, alike.accessKeyId]
  cases t.accessKeyId with
  | none => exact .none
  | some key =>
    obtain ⟨absent, absent'⟩ | ⟨mine, theirs, given, given'⟩ :=
      ConnectionSettings.both_or_neither alike.secretAccessKey
    · rw [absent, absent']
      exact .none
    · rw [given, given']
      exact .some ⟨rfl, alike.sessionToken, alike.region⟩

theorem Client.connect_alike (alike : s.AlikeButSecrets t) :
    SameOutcome Client.AlikeButSecrets (connect s) (connect t) := by
  have endpoint : endpointOf s = endpointOf t := by rw [endpointOf, endpointOf, alike.address_eq]
  rw [connect, connect, alike.fault?_eq, endpoint]
  split
  next => exact .refused _
  next =>
    split
    next => exact .refused _
    next => exact .made ⟨rfl, rfl, alike.requestTimeoutSeconds, rfl, signerOf_alike alike⟩

/-- The consumers themselves are the same, and only their clients know the secrets. -/
theorem Consumer.connect_alike (alike : s.AlikeButSecrets t) (settings : ConsumerSettings) :
    SameOutcome (fun p q : Client × Consumer => p.1.AlikeButSecrets q.1 ∧ p.2 = q.2)
      (connect s settings) (connect t settings) := by
  unfold Consumer.connect
  split
  next => exact .refused _
  next =>
    have clients := Client.connect_alike alike
    generalize Client.connect s = mine, Client.connect t = other at clients ⊢
    cases clients with
    | refused reason => exact .refused reason
    | made clients => exact .made ⟨clients.withPolicy _, rfl⟩

theorem Topic.connect_alike (alike : s.AlikeButSecrets t) (queueUrl : QueueUrl) :
    SameOutcome (fun a b : Topic => a.client.AlikeButSecrets b.client ∧ a.queueUrl = b.queueUrl)
      (connect s queueUrl) (connect t queueUrl) := by
  unfold Topic.connect
  have clients := Client.connect_alike alike
  generalize Client.connect s = mine, Client.connect t = other at clients ⊢
  cases clients with
  | refused reason => exact .refused reason
  | made clients => exact .made ⟨clients, rfl⟩

/-! ## Nothing is disclosed -/

/-- Settings that differ only in what their secrets are have the same thing wrong with them, if
anything is, and look the same.  Clients, consumers and topics are made under both or refused under
both, for the same reason, and look the same, under whatever policy a client works and whatever
happens to the consumer and to the writers of the topic.  Signed headers differ at most in the
signature and in the token. -/
theorem secrets_undisclosed (alike : s.AlikeButSecrets t) :
    (s.validate = t.validate ∧ shown s = shown t) ∧
    SameOutcome (fun c d : Client => shown c = shown d ∧
        ∀ policy, shown (c.withPolicy policy) = shown (d.withPolicy policy))
      (Client.connect s) (Client.connect t) ∧
    (∀ settings, SameOutcome (fun p q : Client × Consumer => shown p.1 = shown q.1 ∧
        ∀ inputs, shown (p.2.run inputs).1 = shown (q.2.run inputs).1)
      (Consumer.connect s settings) (Consumer.connect t settings)) ∧
    (∀ queueUrl, SameOutcome (fun a b : Topic => shown a = shown b ∧
        ∀ events, shown ((Writer.Session.new a).run events).1.writer =
          shown ((Writer.Session.new b).run events).1.writer)
      (Topic.connect s queueUrl) (Topic.connect t queueUrl)) ∧
    Option.Rel (fun a b : Signer => ∀ request,
        List.Forall₂ HeaderAlike (a.headers Sha256.digest request)
          (b.headers Sha256.digest request))
      (Client.signerOf s) (Client.signerOf t) := by
  refine ⟨⟨?checked, alike.shown_eq⟩, ?clients,
    fun settings => ?consumers, fun queueUrl => ?topics, ?signers⟩
  case checked => rw [ConnectionSettings.validate, ConnectionSettings.validate, alike.fault?_eq]
  case clients =>
    refine (Client.connect_alike alike).imp fun clients => ⟨clients.shown_eq, fun policy => ?_⟩
    exact (clients.withPolicy policy).shown_eq
  case consumers =>
    refine (Consumer.connect_alike alike settings).imp fun ⟨clients, same⟩ =>
      ⟨clients.shown_eq, fun inputs => ?_⟩
    rw [same]
  case topics =>
    refine (Topic.connect_alike alike queueUrl).imp fun ⟨_, same⟩ => ⟨?_, fun events => ?_⟩
    · simp only [shown, same]
    · rw [Writer.Session.new, Writer.Session.new, Topic.writer, Topic.writer, same]
  case signers =>
    have signers := Client.signerOf_alike alike
    generalize Client.signerOf s = mine, Client.signerOf t = theirs at signers ⊢
    cases signers with
    | none => exact .none
    | some alike => exact .some fun request => Signer.headers_alike alike request

/-- Two clients with different secrets that look the same. -/
theorem secrets_undisclosed_by_clients :
    let s : ConnectionSettings :=
      { accessKeyId := some "AKID", secretAccessKey := some "secret", sessionToken := some "first" }
    let t := { s with secretAccessKey := some "", sessionToken := some "second" }
    s.AlikeButSecrets t ∧ s.validate = t.validate ∧
      ∃ c d, Client.connect s = .ok c ∧ Client.connect t = .ok d ∧ c.signer ≠ d.signer ∧
      shown c = shown d := by
  intro s t
  have alike : s.AlikeButSecrets t := ⟨rfl, rfl, rfl, rfl, rfl, rfl⟩
  obtain ⟨⟨checked, -⟩, clients, -⟩ := secrets_undisclosed alike
  have read : Client.endpointOf s = .ok Client.standardEndpoint := Client.endpointOf_unset rfl
  have mine := Client.connect_eq (s := s) rfl read
  have theirs := Client.connect_eq (s := t) rfl read
  rw [mine, theirs] at clients
  refine ⟨alike, checked, _, _, mine, theirs, by decide, ?_⟩
  cases clients with
  | made same => exact same.1

end
end MessageQueue
