import MessageQueue.Proofs.Client.Exchanges
import MessageQueue.Proofs.Signature.Scheme
import MessageQueue.Proofs.Url.Host

/-!
# What is signed and what is sent

A request that is posted is described, like any request that is signed, by its host, its path, its
query, its body and the headers that the signature covers (`HttpRequest.described`).  A client signs
this description but for the query: it signs an empty one, although a query in the address of the
service is posted.  So what is signed is what is sent exactly if the address has no query or an
empty one (`posted_as_signed`).
-/

namespace MessageQueue

/-! ## Descriptions of requests -/

/-- A request as it is posted, described with the headers that the signature covers. -/
def HttpRequest.described (request : HttpRequest) : Described where
  method := "POST"
  path := String.ofList request.url.path
  query := String.ofList (request.url.query.getD [])
  headers :=
    ("host", String.ofList request.url.named) ::
      request.headers.filter fun header => header.1 ∈ ["x-amz-date", "x-amz-security-token"]
  body := request.body

/-- The same description with an empty query. -/
def Described.unqueried (d : Described) : Described := { d with query := "" }

/-- Leaving out the query changes the text of a description, unless it is empty already. -/
theorem Described.text_unqueried_eq_iff (hash : Bytes → Bytes) (d : Described) :
    d.unqueried.text hash = d.text hash ↔ d.query = "" := by
  refine ⟨fun same => ?_, fun empty => ?_⟩
  · have lines : d.unqueried.lines = d.lines := rfl
    have names : d.unqueried.names = d.names := rfl
    have chars := congrArg String.toList same
    simp only [text, lines, names, String.toList_intercalate, List.map] at chars
    simpa [unqueried, List.intercalate] using chars
  · rw [unqueried, ← empty]

namespace Client

/-! ## Clients that are connected -/

theorem connect_eq {s : ConnectionSettings} {endpoint : Url} (valid : s.fault? = none)
    (read : endpointOf s = .ok endpoint) :
    connect s = .ok ⟨endpoint, String.ofList endpoint.hostText, signerOf s, s.requestTimeoutSeconds,
      CredentialRetry.standard.policy⟩ := by
  rw [connect, valid, read]

/-- The address of the service in the region that is used when none is set. -/
def standardEndpoint : Url :=
  ⟨"https".toList, true, [], [], "sqs.us-west-2.amazonaws.com".toList, none, ['/'], none, none⟩

theorem endpointOf_unset {s : ConnectionSettings}
    (unset : s.address = "https://sqs.us-west-2.amazonaws.com") :
    endpointOf s = .ok standardEndpoint := by
  have parsed : Url.parse "https://sqs.us-west-2.amazonaws.com" = .ok standardEndpoint := by
    decide +kernel
  rw [endpointOf, unset, parsed]
  rfl

theorem eq_of_connect {s : ConnectionSettings} {c : Client} (connected : connect s = .ok c) :
    s.fault? = none ∧ ∃ endpoint, endpointOf s = .ok endpoint ∧
      c = ⟨endpoint, String.ofList endpoint.hostText, signerOf s, s.requestTimeoutSeconds,
        CredentialRetry.standard.policy⟩ := by
  unfold connect at connected
  split at connected
  next => cases connected
  next valid =>
    split at connected
    next => cases connected
    next endpoint read =>
      cases connected
      exact ⟨valid, endpoint, read, rfl⟩

theorem connect_inv {s : ConnectionSettings} {c : Client} (connected : connect s = .ok c) :
    s.fault? = none ∧ Url.parse s.address = .ok c.endpoint ∧
      c.host = String.ofList c.endpoint.hostText ∧
      c.signer = signerOf s := by
  obtain ⟨valid, endpoint, read, rfl⟩ := eq_of_connect connected
  refine ⟨valid, ?_, rfl, rfl⟩
  unfold endpointOf at read
  split at read
  next => cases read
  next url parsed =>
    split at read
    next => cases read
    next =>
      cases read
      exact parsed

/-- Settings with a key are accepted only with its secret, and then there is someone who signs. -/
theorem signerOf_of_key {s : ConnectionSettings} {key : String} (valid : s.fault? = none)
    (given : s.accessKeyId = some key) :
    ∃ secret, s.secretAccessKey = some secret ∧
      signerOf s = some ⟨key, secret, s.sessionToken, s.region⟩ := by
  have both : s.accessKeyId.isSome = s.secretAccessKey.isSome := by
    by_contra apart
    rw [ConnectionSettings.fault?, if_pos apart] at valid
    split at valid <;> cases valid
  rw [given, Option.isSome_some] at both
  obtain ⟨secret, hidden⟩ := Option.isSome_iff_exists.mp both.symm
  refine ⟨secret, hidden, ?_⟩
  simp only [signerOf, given, hidden]

/-! ## Requests that are signed -/

/-- What a signer signs of a request is the description of the request that is posted, but for the
query. -/
theorem described_signedRequest {c : Client} {signer : Signer} (signs : c.signer = some signer)
    (named : c.host = String.ofList c.endpoint.named) (form : String) (time : Timestamp) :
    signer.described (c.signedRequest form time) = (c.request form time).described.unqueried := by
  have covered : (c.request form time).headers.filter
      (fun header => header.1 ∈ ["x-amz-date", "x-amz-security-token"]) =
        signer.added (c.signedRequest form time) := by
    simp only [request, signs, Signer.headers_eq, Signer.added]
    cases signer.sessionToken <;> simp
  rw [HttpRequest.described, covered]
  simp only [Signer.described, signedRequest, Described.unqueried, request, named]

theorem canonicalRequest_eq {c : Client} {signer : Signer} (signs : c.signer = some signer)
    (named : c.host = String.ofList c.endpoint.named) (form : String) (time : Timestamp) :
    signer.canonicalRequest Sha256.digest (c.signedRequest form time) =
      (c.request form time).described.unqueried.text Sha256.digest := by
  rw [Signer.canonicalRequest_eq, described_signedRequest signs named]

/-- A client for settings with a key signs each request that it posts.  What it signs is the request
that is posted, described without its query, and so it is the request as it is posted exactly if the
address has no query. -/
theorem posted_as_signed {s : ConnectionSettings} {c : Client} {key : String}
    (connected : connect s = .ok c)
    (given : s.accessKeyId = some key) (policy : RetryPolicy) (net : Network) (action : String)
    (form : Form) :
    ∃ secret, s.secretAccessKey = some secret ∧
      let signer : Signer := ⟨key, secret, s.sessionToken, s.region⟩
      let posted := requestsPosted ((c.withPolicy policy).call net.transport action form)
      posted ≠ [] ∧
        ∀ request ∈ posted, Url.parse s.address = .ok request.url ∧ request.body = (form.forAction
          action).text ∧
          ∃ i,
            let signed := c.signedRequest request.body (net.clock i)
            request.headers = ("content-type", formType) :: signer.headers Sha256.digest signed ∧
              signer.canonicalRequest Sha256.digest signed =
                request.described.unqueried.text Sha256.digest ∧
              (signer.canonicalRequest Sha256.digest signed = request.described.text Sha256.digest ↔
                request.url.query.getD [] = []) := by
  obtain ⟨valid, parsed, host, signs⟩ := connect_inv connected
  obtain ⟨secret, hidden, signer⟩ := signerOf_of_key valid given
  rw [signer] at signs
  rw [Url.hostText_eq_named parsed] at host
  obtain ⟨k, -, posted⟩ := (c.withPolicy policy).requestsPosted_call net action form
  refine ⟨secret, hidden, by simp [posted], fun request member => ?_⟩
  rw [posted] at member
  obtain ⟨i, -, rfl⟩ := List.mem_map.mp member
  have same := canonicalRequest_eq signs host (form.forAction action).text (net.clock i)
  refine ⟨parsed, rfl, i, ?_, same, ?_⟩
  · simp only [request, withPolicy, signs]
    rfl
  · have empty : (c.request (form.forAction action).text (net.clock i)).described.query = "" ↔
        c.endpoint.query.getD [] = [] := String.ofList_eq_empty_iff
    exact (Eq.congr_left same).trans ((Described.text_unqueried_eq_iff _ _).trans empty)

/-- An address without a query, whose port is the one that its scheme implies. -/
theorem signed_at_implied_port :
    let s : ConnectionSettings :=
      { endpoint := some "https://localhost:443/queue/", accessKeyId := some "AKID",
        secretAccessKey := some "secret" }
    let signer : Signer := ⟨"AKID", "secret", none, "us-west-2"⟩
    ∃ c, connect s = .ok c ∧ c.host = "localhost" ∧
      ∀ (net : Network) (action : String) (form : Form),
      let posted := requestsPosted (c.call net.transport action form)
      posted ≠ [] ∧ ∀ request ∈ posted, ∃ i,
        signer.canonicalRequest Sha256.digest (c.signedRequest request.body (net.clock i)) =
          request.described.text Sha256.digest := by
  intro s signer
  let address : Url :=
    ⟨"https".toList, true, [], [], "localhost".toList, none, "/queue".toList, none, none⟩
  have parsed : Url.parse s.address = .ok address := by decide +kernel
  have read : endpointOf s = .ok address := by
    rw [endpointOf, parsed]
    rfl
  have connected := connect_eq (by decide) read
  refine ⟨_, connected, by decide, fun net action form => ?_⟩
  obtain ⟨secret, hidden, sent, all⟩ :=
    posted_as_signed connected rfl CredentialRetry.standard.policy net action form
  cases hidden
  refine ⟨sent, fun request member => ?_⟩
  obtain ⟨here, -, i, -, -, same⟩ := all request member
  have url : request.url = address := Except.ok.inj (here.symm.trans parsed)
  exact ⟨i, same.mpr (by rw [url]; rfl)⟩

/-- With a query in the address nothing that is posted is what is signed. -/
theorem query_left_unsigned :
    let s : ConnectionSettings :=
      { endpoint := some "http://127.0.0.1:9324/?x=1", accessKeyId := some "AKID",
        secretAccessKey := some "secret" }
    let signer : Signer := ⟨"AKID", "secret", none, "us-west-2"⟩
    ∃ c, connect s = .ok c ∧ c.signer = some signer ∧
      ∀ (net : Network) (action : String) (form : Form), let text := (form.forAction action).text
      c.request text (net.clock 0) ∈ requestsPosted (c.call net.transport action form) ∧
        (c.request text (net.clock 0)).described.query = "x=1" ∧
        signer.canonicalRequest Sha256.digest (c.signedRequest text (net.clock 0)) ≠
          (c.request text (net.clock 0)).described.text Sha256.digest := by
  intro s signer
  let address : Url :=
    ⟨"http".toList, true, [], [], "127.0.0.1".toList, some 9324, ['/'], some ['x', '=', '1'], none⟩
  have parsed : Url.parse s.address = .ok address := by decide +kernel
  have read : endpointOf s = .ok address := by
    rw [endpointOf, parsed]
    rfl
  refine ⟨_, connect_eq (by decide) read, rfl, fun net action form => ⟨?_, rfl, fun same => ?_⟩⟩
  · obtain ⟨k, -, posted⟩ := requestsPosted_call _ net action form
    rw [posted]
    exact List.mem_map_of_mem (List.mem_range.mpr (Nat.succ_pos k))
  · rw [canonicalRequest_eq rfl (by decide), Described.text_unqueried_eq_iff] at same
    exact absurd same (show String.ofList ['x', '=', '1'] ≠ "" by decide)

end Client
end MessageQueue
