import MessageQueue.Proofs.Json.Printed
import MessageQueue.Settings.Stored

/-!
# Identifiers that are read back

A queue URL is read back from storage exactly where it is parsed, because reading goes through the
parser (`QueueUrl.ofJson?_eq_some`).  So no queue URL is there, however it was made, that is not an
absolute URL of the two schemes (`QueueUrl.sound_iff`).  A message identifier is read back whatever
its text is.  The parser and the reader agree on every text but the empty one, which the parser
refuses and the reader takes (`empty_identifier_read_back`).

`identifiers_read_back` puts this together.
-/

namespace MessageQueue

/-! ## Queue URLs -/

namespace QueueUrl

/-- What a text has to be to name a queue. -/
theorem fault?_eq_none {text : String} : fault? text = none ↔
    text ≠ "" ∧ ∃ url, Url.parse text = .ok url ∧
      (url.scheme = "http".toList ∨ url.scheme = "https".toList) := by
  rw [fault?]
  by_cases empty : text = ""
  · simp [empty]
  rw [if_neg empty]
  cases Url.parse text with
  | error e => simp
  | ok url =>
    by_cases scheme : url.scheme = "http".toList ∨ url.scheme = "https".toList
    · simp only [if_pos scheme, Except.ok.injEq, exists_eq_left', true_iff]
      exact ⟨empty, scheme⟩
    · simp only [if_neg scheme, Except.ok.injEq, exists_eq_left', reduceCtorEq, false_iff]
      exact fun named => scheme named.2

/-- A text is parsed exactly if it names a queue. -/
theorem parse_isOk_iff {text : String} : (∃ u, parse text = .ok u) ↔ fault? text = none := by
  constructor
  · rintro ⟨u, parsed⟩
    exact (parse_eq_ok_iff text u).mp parsed ▸ u.sound
  · intro sound
    exact ⟨⟨text, sound⟩, (parse_eq_ok_iff text _).mpr rfl⟩

theorem ofJson?_eq_some {j : Json} {u : QueueUrl} :
    ofJson? j = some u ↔ ∃ s, j = .text s ∧ parse s = .ok u := by
  cases j with
  | text s =>
    have read : ofJson? (.text s) = (parse s).toOption := rfl
    simp only [read, Json.text.injEq, exists_eq_left']
    cases parse s with
    | error e => simp [Except.toOption]
    | ok v => simp [Except.toOption]
  | null | bool | number | brokenText | array | object => simp [ofJson?, Json.asText?]

end QueueUrl

/-! ## Message identifiers -/

namespace MessageId

theorem parse_eq_ok {text : String} {i : MessageId} :
    parse text = .ok i ↔ text ≠ "" ∧ i.text = text := by
  obtain ⟨t⟩ := i
  rw [parse]
  by_cases empty : text = ""
  · simp [empty]
  · simp [empty, eq_comm]

theorem ofJson?_eq_some {j : Json} {i : MessageId} : ofJson? j = some i ↔ j = .text i.text := by
  cases j with
  | text s =>
    have read : ofJson? (.text s) = some ⟨s⟩ := rfl
    obtain ⟨t⟩ := i
    simp [read]
  | null | bool | number | brokenText | array | object => simp [ofJson?, Json.asText?]

end MessageId

/-! ## Reading back -/

/-- For each JSON text and each identifier this says whether the one is read as the other.  A queue
URL is read from the strings from which it is parsed, which are those that spell absolute URLs of
the two schemes.  A message identifier is read from any string, and parsed from any but the empty
one.  What is stored is the string again.  So for message identifiers the parser and the reader
agree about a string exactly if it is not empty. -/
theorem identifiers_read_back (text : String) :
    (∀ u : QueueUrl, (Json.read? text).bind QueueUrl.ofJson? = some u ↔
      ∃ s, Json.read? text = some (.text s) ∧ QueueUrl.parse s = .ok u) ∧
    (∀ i : MessageId, (Json.read? text).bind MessageId.ofJson? = some i ↔
      Json.read? text = some (.text i.text)) ∧
    ∀ s : String, Json.read? text = some (.text s) →
      (∀ u : QueueUrl, QueueUrl.parse s = .ok u ↔ u.text = s) ∧
      ((∃ u, QueueUrl.parse s = .ok u) ↔
        s ≠ "" ∧ ∃ url, Url.parse s = .ok url ∧
          (url.scheme = "http".toList ∨ url.scheme = "https".toList)) ∧
      (∀ i : MessageId, MessageId.parse s = .ok i ↔ s ≠ "" ∧ i.text = s) ∧
      (∀ u : QueueUrl, u.text = s → Json.read? u.toJson.toText = some (.text s)) ∧
      (∀ i : MessageId, i.text = s → Json.read? i.toJson.toText = some (.text s)) ∧
      ((∀ i : MessageId, (Json.read? text).bind MessageId.ofJson? = some i ↔
        MessageId.parse s = .ok i) ↔ s ≠ "") := by
  have taken (i : MessageId) :
      (Json.read? text).bind MessageId.ofJson? = some i ↔
        Json.read? text = some (.text i.text) := by
    simp [Option.bind_eq_some_iff, MessageId.ofJson?_eq_some]
  have again (s : String) : Json.read? (Json.toText (.text s)) = some (.text s) :=
    Json.read?_toText trivial
  refine ⟨?urls, taken,
    fun s spelled => ⟨QueueUrl.parse_eq_ok_iff s, ?named, fun i => MessageId.parse_eq_ok, ?stored,
    ?kept, ?agree⟩⟩
  case urls =>
    intro u
    simp only [Option.bind_eq_some_iff, QueueUrl.ofJson?_eq_some]
    constructor
    · rintro ⟨_, read, s, rfl, parsed⟩
      exact ⟨s, read, parsed⟩
    · rintro ⟨s, read, parsed⟩
      exact ⟨_, read, s, rfl, parsed⟩
  case named => rw [QueueUrl.parse_isOk_iff, QueueUrl.fault?_eq_none]
  case stored =>
    rintro u rfl
    exact again u.text
  case kept =>
    rintro i rfl
    exact again i.text
  case agree =>
    have read (i : MessageId) : (Json.read? text).bind MessageId.ofJson? = some i ↔ i.text = s := by
      rw [taken, spelled, Option.some.injEq, Json.text.injEq, eq_comm]
    simp only [read, MessageId.parse_eq_ok]
    constructor
    · intro same
      exact ((same ⟨s⟩).mp rfl).1
    · intro filled i
      rw [and_iff_right filled]

/-- A queue URL in which solidi are escaped is read as the URL, and as a message identifier. -/
theorem identifiers_read_back_of_escapes :
    Json.read? "\"http:\\/\\/localhost\\/queue\"" = some (.text "http://localhost/queue") ∧
    (∃ u : QueueUrl, (Json.read? "\"http:\\/\\/localhost\\/queue\"").bind QueueUrl.ofJson? =
      some u ∧
      u.text = "http://localhost/queue") ∧
    (Json.read? "\"http:\\/\\/localhost\\/queue\"").bind MessageId.ofJson? =
      some ⟨"http://localhost/queue"⟩ ∧
    MessageId.parse "http://localhost/queue" = .ok ⟨"http://localhost/queue"⟩ := by
  have spelled : Json.read? "\"http:\\/\\/localhost\\/queue\"" =
      some (.text "http://localhost/queue") := rfl
  obtain ⟨urls, ids, strings⟩ := identifiers_read_back "\"http:\\/\\/localhost\\/queue\""
  obtain ⟨parsed, -, -, -, -, agree⟩ := strings _ spelled
  let u : QueueUrl := ⟨"http://localhost/queue", by decide +kernel⟩
  have taken := (ids ⟨"http://localhost/queue"⟩).mpr spelled
  exact ⟨spelled, ⟨u, (urls u).mpr ⟨_, spelled, (parsed u).mpr rfl⟩, rfl⟩, taken,
    (agree.mpr (by decide) _).mp taken⟩

/-- The empty string is no identifier to the parser, and an empty one to the reader. -/
theorem empty_identifier_read_back :
    Json.read? "\"\"" = some (.text "") ∧ MessageId.parse "" = .error (.required "message_id") ∧
      (Json.read? "\"\"").bind MessageId.ofJson? = some ⟨""⟩ :=
  ⟨rfl, rfl, rfl⟩

end MessageQueue
