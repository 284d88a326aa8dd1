import MessageQueue.Proofs.Json.Printed
import MessageQueue.Proofs.Settings.Records

/-!
# Settings and attributes survive storage

Of each record the fields that an object gives are a record of their own, in which every field may
be missing (`Given`).  What is read from an object are the defaults with the fields that it gives in
their place (`ofJson?_of_holds`).  A value is stored as the object that gives all its fields, so it
is read back as a case of this.  The settings inside the consumer's are given by an object inside
the object (`CredentialSettings.Part`).

Attributes are stored as an object with a member for each name, in any order, and read back from
each of these orders (`Attributes.ofJson?_of_perm`).

`settings_survive_storage` puts this together.
-/

namespace MessageQueue

open Record

theorem Record.exact_ofOption (text : Option String) : (ofOption text).Exact := by
  cases text <;> trivial

/-! ## Connection settings -/

namespace ConnectionSettings

/-- The fields that are given. -/
structure Given where
  region : Option String := none
  endpoint : Option (Option String) := none
  accessKeyId : Option (Option String) := none
  secretAccessKey : Option (Option String) := none
  sessionToken : Option (Option String) := none
  requestTimeoutSeconds : Option UInt64 := none

/-- The fields as members. -/
def Given.fields (g : Given) : Fields := [
  ("region", g.region.map .text),
  ("endpoint", g.endpoint.map ofOption),
  ("access_key_id", g.accessKeyId.map ofOption),
  ("secret_access_key", g.secretAccessKey.map ofOption),
  ("session_token", g.sessionToken.map ofOption),
  ("request_timeout_seconds", g.requestTimeoutSeconds.map fun n => .ofNat n.toNat)]

/-- Settings with the given fields in the place of theirs. -/
def Given.over (g : Given) (s : ConnectionSettings) : ConnectionSettings where
  region := g.region.getD s.region
  endpoint := g.endpoint.getD s.endpoint
  accessKeyId := g.accessKeyId.getD s.accessKeyId
  secretAccessKey := g.secretAccessKey.getD s.secretAccessKey
  sessionToken := g.sessionToken.getD s.sessionToken
  requestTimeoutSeconds := g.requestTimeoutSeconds.getD s.requestTimeoutSeconds

theorem Given.names (g : Given) : g.fields.map Prod.fst = fieldNames := rfl

theorem ofJson?_of_holds {members : List (String × Json)} {g : Given}
    (holds : Holds members g.fields) :
    ofJson? (.object members) = some (g.over {}) := by
  obtain ⟨known, taken, found⟩ := holds.fields?_eq g.names (by decide)
  have each := found.member?_eq
  simp only [Given.fields, List.forall_mem_cons] at each
  obtain ⟨region, endpoint, accessKeyId, secretAccessKey, sessionToken, requestTimeoutSeconds, -⟩ :=
    each
  rw [ofJson?, taken]
  simp only [Option.bind_eq_bind, Option.bind_some, field_eq region inverse_text,
    field_eq endpoint inverse_ofOption, field_eq accessKeyId inverse_ofOption,
    field_eq secretAccessKey inverse_ofOption, field_eq sessionToken inverse_ofOption,
    field_eq requestTimeoutSeconds inverse_count64]
  rfl

/-- All fields of settings. -/
def given (s : ConnectionSettings) : Given :=
  ⟨some s.region, some s.endpoint, some s.accessKeyId, some s.secretAccessKey, some s.sessionToken,
    some s.requestTimeoutSeconds⟩

theorem toJson_eq (s : ConnectionSettings) : s.toJson = .object (present s.given.fields) := rfl

theorem ofJson?_toJson (s : ConnectionSettings) : ofJson? s.toJson = some s := by
  rw [toJson_eq, ofJson?_of_holds (holds_present _)]
  rfl

theorem exact_toJson (s : ConnectionSettings) : s.toJson.Exact :=
  ⟨trivial, exact_ofOption _, exact_ofOption _, exact_ofOption _, exact_ofOption _, trivial,
    trivial⟩

end ConnectionSettings

/-! ## Settings for refused credentials -/

namespace CredentialSettings

/-- The fields that are given. -/
structure Given where
  delaySeconds : Option UInt64 := none
  maxAttempts : Option UInt32 := none

/-- The fields as members. -/
def Given.fields (g : Given) : Fields := [
  ("delay_seconds", g.delaySeconds.map fun n => .ofNat n.toNat),
  ("max_attempts", g.maxAttempts.map fun n => .ofNat n.toNat)]

/-- Settings with the given fields in the place of theirs. -/
def Given.over (g : Given) (s : CredentialSettings) : CredentialSettings where
  delaySeconds := g.delaySeconds.getD s.delaySeconds
  maxAttempts := g.maxAttempts.getD s.maxAttempts

theorem Given.names (g : Given) : g.fields.map Prod.fst = fieldNames := rfl

theorem ofJson?_of_holds {members : List (String × Json)} {g : Given}
    (holds : Holds members g.fields) :
    ofJson? (.object members) = some (g.over {}) := by
  obtain ⟨known, taken, found⟩ := holds.fields?_eq g.names (by decide)
  have each := found.member?_eq
  simp only [Given.fields, List.forall_mem_cons] at each
  obtain ⟨delaySeconds, maxAttempts, -⟩ := each
  rw [ofJson?, taken]
  simp only [Option.bind_eq_bind, Option.bind_some, field_eq delaySeconds inverse_count64,
    field_eq maxAttempts inverse_count32]
  rfl

/-- All fields of settings. -/
def given (s : CredentialSettings) : Given := ⟨some s.delaySeconds, some s.maxAttempts⟩

theorem toJson_eq (s : CredentialSettings) : s.toJson = .object (present s.given.fields) := rfl

theorem ofJson?_toJson (s : CredentialSettings) : ofJson? s.toJson = some s := by
  rw [toJson_eq, ofJson?_of_holds (holds_present _)]
  rfl

theorem exact_toJson (s : CredentialSettings) : s.toJson.Exact := ⟨trivial, trivial, trivial⟩

/-- An object with the fields that it gives. -/
structure Part where
  members : List (String × Json)
  given : Given
  holds : Holds members given.fields

/-- The object that settings are stored as. -/
def whole (s : CredentialSettings) : Part := ⟨_, s.given, holds_present _⟩

end CredentialSettings

/-! ## Consumer settings -/

namespace ConsumerSettings

/-- The fields that are given, the queue URL as a text that may or may not be one. -/
structure Given where
  queueUrl : Option String := none
  maxConcurrency : Option UInt64 := none
  retryTimeoutSeconds : Option UInt32 := none
  maxMessages : Option UInt32 := none
  waitSeconds : Option UInt32 := none
  shutdownPollMilliseconds : Option UInt64 := none
  credentialRetry : Option CredentialSettings.Part := none

/-- The fields as members. -/
def Given.fields (g : Given) : Fields := [
  ("queue_url", g.queueUrl.map .text),
  ("max_concurrency", g.maxConcurrency.map fun n => .ofNat n.toNat),
  ("retry_timeout_seconds", g.retryTimeoutSeconds.map fun n => .ofNat n.toNat),
  ("max_messages", g.maxMessages.map fun n => .ofNat n.toNat),
  ("wait_time_seconds", g.waitSeconds.map fun n => .ofNat n.toNat),
  ("shutdown_poll_interval_ms", g.shutdownPollMilliseconds.map fun n => .ofNat n.toNat),
  ("credential_retry", g.credentialRetry.map fun part => .object part.members)]

/-- Settings with the given fields in the place of theirs, also in the settings inside; the queue
stays. -/
def Given.over (g : Given) (s : ConsumerSettings) : ConsumerSettings where
  queueUrl := s.queueUrl
  maxConcurrency := g.maxConcurrency.getD s.maxConcurrency
  retryTimeoutSeconds := g.retryTimeoutSeconds.getD s.retryTimeoutSeconds
  maxMessages := g.maxMessages.getD s.maxMessages
  waitSeconds := g.waitSeconds.getD s.waitSeconds
  shutdownPollMilliseconds := g.shutdownPollMilliseconds.getD s.shutdownPollMilliseconds
  credentialRetry :=
    g.credentialRetry.elim s.credentialRetry fun part => part.given.over s.credentialRetry

theorem Given.names (g : Given) : g.fields.map Prod.fst = fieldNames := rfl

/-- Only the queue URL decides whether anything is read. -/
theorem ofJson?_of_holds {members : List (String × Json)} {g : Given}
    (holds : Holds members g.fields) :
    ofJson? (.object members) =
      (g.queueUrl.bind fun text => (QueueUrl.parse text).toOption).map fun queueUrl =>
        g.over { queueUrl } := by
  obtain ⟨known, taken, found⟩ := holds.fields?_eq g.names (by decide)
  have each := found.member?_eq
  simp only [Given.fields, List.forall_mem_cons] at each
  obtain ⟨queueUrl, maxConcurrency, retryTimeoutSeconds, maxMessages, waitSeconds,
    shutdownPollMilliseconds, credentialRetry, -⟩ := each
  have queue : field known "queue_url" QueueUrl.ofJson? none =
      g.queueUrl.bind fun text => (QueueUrl.parse text).toOption := by
    rw [field, queueUrl]
    cases g.queueUrl <;> rfl
  have inside : field known "credential_retry" CredentialSettings.ofJson? (some {}) =
      some (g.credentialRetry.elim {} fun part => part.given.over {}) := by
    rw [field, credentialRetry]
    cases g.credentialRetry with
    | none => rfl
    | some part => exact CredentialSettings.ofJson?_of_holds part.holds
  rw [ofJson?, taken]
  simp only [Option.bind_eq_bind, Option.bind_some, queue, inside,
    field_eq maxConcurrency inverse_count64, field_eq retryTimeoutSeconds inverse_count32,
    field_eq maxMessages inverse_count32, field_eq waitSeconds inverse_count32,
    field_eq shutdownPollMilliseconds inverse_count64]
  rw [Option.map_eq_bind]
  rfl

/-- Nothing is read exactly if no queue URL is given, or what is given is none. -/
theorem ofJson?_eq_none {members : List (String × Json)} {g : Given}
    (holds : Holds members g.fields) :
    ofJson? (.object members) = none ↔
      g.queueUrl = none ∨ ∃ url e, g.queueUrl = some url ∧ QueueUrl.parse url = .error e := by
  rw [ofJson?_of_holds holds, Option.map_eq_none_iff]
  cases given : g.queueUrl with
  | none => simp
  | some url =>
    cases parsed : QueueUrl.parse url with
    | error e => simp [parsed, Except.toOption]
    | ok queueUrl => simp [parsed, Except.toOption]

/-- All fields of settings. -/
def given (s : ConsumerSettings) : Given :=
  ⟨some s.queueUrl.text, some s.maxConcurrency, some s.retryTimeoutSeconds, some s.maxMessages,
    some s.waitSeconds, some s.shutdownPollMilliseconds, some s.credentialRetry.whole⟩

theorem toJson_eq (s : ConsumerSettings) : s.toJson = .object (present s.given.fields) := rfl

theorem ofJson?_toJson (s : ConsumerSettings) : ofJson? s.toJson = some s := by
  have parsed : QueueUrl.parse s.queueUrl.text = .ok s.queueUrl :=
    (QueueUrl.parse_eq_ok_iff _ _).mpr rfl
  rw [toJson_eq, ofJson?_of_holds (holds_present _)]
  simp only [given, Option.bind_some, parsed]
  rfl

theorem exact_toJson (s : ConsumerSettings) : s.toJson.Exact :=
  ⟨trivial, trivial, trivial, trivial, trivial, trivial, s.credentialRetry.exact_toJson, trivial⟩

end ConsumerSettings

/-! ## Attributes -/

namespace Attributes

/-- A name with its values as a member. -/
def member (entry : String × List String) : String × Json := (entry.1, .array (entry.2.map .text))

/-- Reads a member as a name with its values. -/
def ofMember? (m : String × Json) : Option (String × List String) :=
  (m.2.asArray?.bind (·.mapM Json.asText?)).map fun values => (m.1, values)

theorem toJson_eq (a : Attributes) : a.toJson = .object (a.toList.map member) := rfl

theorem ofJson?_object (members : List (String × Json)) :
    ofJson? (.object members) = (members.mapM ofMember?).map fun entries => ⟨.ofList entries⟩ := rfl

theorem mapM_asText? (texts : List String) :
    (texts.map Json.text).mapM Json.asText? = some texts := by
  induction texts with
  | nil => rfl
  | cons text texts ih =>
    rw [List.map_cons, List.mapM_cons, ih]
    rfl

theorem ofMember?_member (entry : String × List String) :
    ofMember? (member entry) = some entry := by
  simp only [ofMember?, member, Json.asArray?, Option.bind_some, mapM_asText?, Option.map_some]

/-- Attributes are read back from their members in any order. -/
theorem ofJson?_of_perm {members : List (String × Json)} {a : Attributes}
    (perm : members.Perm (a.toList.map member)) :
    ofJson? (.object members) = some a := by
  obtain ⟨entries, read, same⟩ := mapM_of_perm ofMember?_member perm
  rw [ofJson?_object, read, Option.map_some, Table.ofList_of_perm same]

theorem exact_members {members : List (String × Json)} {entries : List (String × List String)}
    (perm : members.Perm (entries.map member)) : Json.ExactMembers members := by
  refine Json.exactMembers_of_forall fun m stands => ?_
  obtain ⟨entry, -, rfl⟩ := List.mem_map.mp (perm.mem_iff.mp stands)
  refine Json.exactItems_of_forall fun item listed => ?_
  obtain ⟨text, -, rfl⟩ := List.mem_map.mp listed
  trivial

end Attributes

/-! ## Storage -/

/-- Settings and attributes are read back from the text that they are stored as, attributes in
whatever order their names are written.  From any text of an object that holds some fields of
settings, among others and in any order, the defaults are read with these fields in their place,
also in the settings inside the consumer's.  Nothing but a queue URL that is missing or is none
makes this fail. -/
theorem settings_survive_storage :
    (∀ s : ConnectionSettings,
      (Json.read? s.toJson.toText).bind ConnectionSettings.ofJson? = some s) ∧
    (∀ s : CredentialSettings,
      (Json.read? s.toJson.toText).bind CredentialSettings.ofJson? = some s) ∧
    (∀ s : ConsumerSettings, (Json.read? s.toJson.toText).bind ConsumerSettings.ofJson? = some s) ∧
    (∀ (a : Attributes) (members ordered : List (String × Json)),
      a.toJson = .object members → ordered.Perm members →
      (Json.read? (Json.toText (.object ordered))).bind Attributes.ofJson? = some a) ∧
    (∀ (text : String) (members : List (String × Json)) (g : ConnectionSettings.Given),
      Json.read? text = some (.object members) → Holds members g.fields →
        (Json.read? text).bind ConnectionSettings.ofJson? =
          some (g.over ⟨"us-west-2", none, none, none, none, 30⟩)) ∧
    (∀ (text : String) (members : List (String × Json)) (g : CredentialSettings.Given),
      Json.read? text = some (.object members) → Holds members g.fields →
        (Json.read? text).bind CredentialSettings.ofJson? = some (g.over ⟨2, 7⟩)) ∧
    (∀ (text : String) (members : List (String × Json)) (g : ConsumerSettings.Given),
      Json.read? text = some (.object members) → Holds members g.fields →
        (∀ url queueUrl, g.queueUrl = some url → QueueUrl.parse url = .ok queueUrl →
          (Json.read? text).bind ConsumerSettings.ofJson? =
            some (g.over ⟨queueUrl, 1, 30, 10, 20, 500, ⟨2, 7⟩⟩)) ∧
        ((Json.read? text).bind ConsumerSettings.ofJson? = none ↔
          g.queueUrl = none ∨ ∃ url e, g.queueUrl = some url ∧ QueueUrl.parse url = .error e)) := by
  refine ⟨?connection, ?credential, ?consumer, ?attributes, ?someConnection, ?someCredential,
    ?someConsumer⟩
  case connection =>
    intro s
    rw [Json.read?_toText s.exact_toJson, Option.bind_some, s.ofJson?_toJson]
  case credential =>
    intro s
    rw [Json.read?_toText s.exact_toJson, Option.bind_some, s.ofJson?_toJson]
  case consumer =>
    intro s
    rw [Json.read?_toText s.exact_toJson, Option.bind_some, s.ofJson?_toJson]
  case attributes =>
    intro a members ordered stored perm
    rw [Attributes.toJson_eq, Json.object.injEq] at stored
    subst stored
    have exact : Json.Exact (.object ordered) := Attributes.exact_members perm
    rw [Json.read?_toText exact, Option.bind_some, Attributes.ofJson?_of_perm perm]
  case someConnection =>
    intro text members g spelled holds
    rw [spelled, Option.bind_some, ConnectionSettings.ofJson?_of_holds holds]
  case someCredential =>
    intro text members g spelled holds
    rw [spelled, Option.bind_some, CredentialSettings.ofJson?_of_holds holds]
  case someConsumer =>
    intro text members g spelled holds
    rw [spelled, Option.bind_some]
    constructor
    · intro url queueUrl given parsed
      rw [ConsumerSettings.ofJson?_of_holds holds, given, Option.bind_some, parsed]
      rfl
    · exact ConsumerSettings.ofJson?_eq_none holds

/-- An object that gives some of the consumer's settings and of those inside, among other members,
is read as these settings. -/
theorem settings_survive_storage_of_some :
    let queueUrl : QueueUrl := ⟨"http://localhost:9324/queue", by decide +kernel⟩
    let j : Json := .object
      [("x", .null), ("credential_retry", .object [("y", .array []), ("max_attempts", .ofNat 9)]),
        ("queue_url", .text queueUrl.text), ("max_messages", .ofNat 4)]
    (Json.read? j.toText).bind ConsumerSettings.ofJson? =
      some ⟨queueUrl, 1, 30, 4, 20, 500, ⟨2, 9⟩⟩ := by
  intro queueUrl j
  let inside : CredentialSettings.Part := {
    members := [("y", .array []), ("max_attempts", .ofNat 9)]
    given := { maxAttempts := some 9 }
    holds := .refl _ }
  let g : ConsumerSettings.Given :=
    { queueUrl := some queueUrl.text, maxMessages := some 4, credentialRetry := some inside }
  have exact : j.Exact := ⟨trivial, ⟨trivial, trivial, trivial⟩, trivial, trivial, trivial⟩
  obtain ⟨-, -, -, -, -, -, consumer⟩ := settings_survive_storage
  have parsed : QueueUrl.parse queueUrl.text = .ok queueUrl :=
    (QueueUrl.parse_eq_ok_iff _ _).mpr rfl
  refine (consumer j.toText _ g (Json.read?_toText exact) ?holds).1 _ queueUrl rfl parsed
  exact .trans (.swap _ _ _) (.cons _ (.swap _ _ _))

end MessageQueue
