import MessageQueue.Proofs.Client.Exchanges
import MessageQueue.Proofs.Text.Utf8
import MessageQueue.Proofs.Wire.Form
import Mathlib.Algebra.GroupWithZero.Nat

/-!
# What requests convey

Whatever the network answers, every form that a client posts for one request is the same, and it is
read as the parameters of this request, each once and no others (`Conveys`).  The parameters have
names of their own: the fixed names differ from each other, no fixed name begins like a numbered
one, and a numbered name tells its number.

A message that is sent is got back from the parameters of its request: its body, its delay, and its
attributes by their numbers, without gaps, in the order of the octets of their names.  The limit on
messages counts octets and not characters (`SendRequest.size_eq`).
-/

namespace MessageQueue

/-! ## Forms that are posted -/

/-- The form that is posted, if this is what a client does. -/
def Deed.form? : Deed → Option String
  | .posted request => some request.body
  | .paused _ => none

/-- The forms that a client posts while it asks for something, the first one first. -/
def formsPosted {α : Type} (asked : StateM (List Deed) α) : List String :=
  (asked.run []).2.filterMap Deed.form?

theorem formsPosted_eq {α : Type} (asked : StateM (List Deed) α) :
    formsPosted asked = (requestsPosted asked).map HttpRequest.body := by
  rw [formsPosted, requestsPosted, List.map_filterMap]
  congr
  funext deed
  cases deed <;> rfl

/-- A form is posted, and every form that is posted is read as these parameters, which have names of
their own. -/
structure Conveys {α : Type} (asked : StateM (List Deed) α) (parameters : List (String × String)) :
    Prop where
  distinct : (parameters.map Prod.fst).Nodup
  posted : formsPosted asked ≠ []
  read : ∀ form ∈ formsPosted asked, ∃ pairs, Form.read? form = some pairs ∧ pairs.Perm parameters

namespace Client

variable (c : Client) (net : Network)

/-- A call posts the form for its action, and no other. -/
theorem formsPosted_call (action : String) (form : Form) :
    formsPosted (c.call net.transport action form) ≠ [] ∧
      ∀ text ∈ formsPosted (c.call net.transport action form),
        text = (form.forAction action).text := by
  obtain ⟨k, -, posted⟩ := c.requestsPosted_call net action form
  rw [formsPosted_eq, posted, List.map_map]
  refine ⟨by simp, fun text member => ?_⟩
  obtain ⟨i, -, made⟩ := List.mem_map.mp member
  exact made.symm

/-- What is asked for by a call conveys the action, the version and the parameters of the form. -/
theorem conveys_of_call {α : Type} {asked : StateM (List Deed) α} {action : String}
    {own : List (String × String)}
    (calls : (asked.run []).2 = ((c.call net.transport action (.ofList own)).run []).2)
    (distinct : ("Action" :: "Version" :: own.map Prod.fst).Nodup) :
    Conveys asked (("Action", action) :: ("Version", "2012-11-05") :: own) := by
  have same : formsPosted asked = formsPosted (c.call net.transport action (.ofList own)) := by
    rw [formsPosted, calls]
    rfl
  obtain ⟨posted, all⟩ := c.formsPosted_call net action (.ofList own)
  have order : (own ++ [("Action", action), ("Version", Form.version)]).Perm
      (("Action", action) :: ("Version", "2012-11-05") :: own) := List.perm_append_comm
  refine ⟨distinct, same ▸ posted, fun form member => ?_⟩
  rw [all form (same ▸ member), Form.forAction_ofList]
  obtain ⟨pairs, read, perm⟩ := Form.read?_ofList ((order.map Prod.fst).nodup_iff.mpr distinct)
  exact ⟨pairs, read, perm.trans order⟩

end Client

/-! ## Names of parameters -/

namespace Form

/-- Fixed names that do not begin like the numbered ones stay apart from them. -/
theorem nodup_append_numbered {α : Type} {parameters : Nat → α → List (String × String)}
    {beginning : String}
    (numbers : ∀ i item, ∀ p ∈ parameters i item, numberAfter beginning p.1 = some i)
    (single : ∀ i item, ((parameters i item).map Prod.fst).Nodup) {fixed : List String}
    (distinct : fixed.Nodup)
    (apart : ∀ name ∈ fixed, numberAfter beginning name = none) (index : Nat) (items : List α) :
    (fixed ++ (numbered parameters index items).map Prod.fst).Nodup := by
  refine List.nodup_append.mpr
    ⟨distinct, nodup_numbered (numberAfter beginning) numbers single index items, ?_⟩
  rintro name stands _ counted rfl
  obtain ⟨p, member, named⟩ := List.mem_map.mp counted
  obtain ⟨i, item, -, own⟩ := mem_numbered member
  have number := numbers i item p own
  rw [named, apart name stands] at number
  cases number

theorem numberAfter_attributeName (i : Nat) (name : String) :
    ∀ p ∈ [("MessageAttributeName." ++ i.repr, name)],
    numberAfter "MessageAttributeName." p.1 = some i := by
  intro p member
  obtain rfl := List.mem_singleton.mp member
  have number := numberAfter_append "MessageAttributeName." i "" rfl
  rwa [String.append_empty] at number

theorem numberAfter_attributeParameters (i : Nat) (entry : String × AttributeValue) :
    ∀ p ∈ attributeParameters i entry, numberAfter "MessageAttribute." p.1 = some i := by
  intro p member
  simp only [attributeParameters, List.mem_cons, List.not_mem_nil, or_false] at member
  rcases member with rfl | rfl | rfl
  all_goals exact numberAfter_append "MessageAttribute." i _ rfl

theorem nodup_attributeParameters (i : Nat) (entry : String × AttributeValue) :
    ((attributeParameters i entry).map Prod.fst).Nodup := by
  simp only [attributeParameters, List.map_cons, List.map_nil, List.nodup_cons, List.mem_cons,
    List.not_mem_nil, String.append_right_inj]
  decide

end Form

/-! ## A message that is sent -/

namespace Form

/-- The attribute with a number among the parameters of a request, if there is one. -/
def attribute? (pairs : List (String × String)) (i : Nat) : Option (String × AttributeValue) :=
  let start := "MessageAttribute." ++ i.repr
  match Table.find (start ++ ".Name") pairs, Table.find (start ++ ".Value.DataType") pairs,
    Table.find (start ++ ".Value.StringValue") pairs with
  | some name, some dataType, some text => some (name, ⟨dataType, text⟩)
  | _, _, _ => none

/-- The parameters give back a message that is sent: its attributes have the numbers from one on, in
their order. -/
structure Gives (pairs : List (String × String)) (r : SendRequest) : Prop where
  body : Table.find "MessageBody" pairs = some r.body
  delay : (Table.find "DelaySeconds" pairs).bind Decimal.natural? = some r.delaySeconds.toNat
  attributes : ∀ i, attribute? pairs (i + 1) = r.attributes.entries[i]?

/-- The parameters of the request that sends a message. -/
def sendParameters (r : SendRequest) : List (String × String) :=
  [("QueueUrl", r.queueUrl.text), ("MessageBody", r.body),
    ("DelaySeconds", r.delaySeconds.toNat.repr)] ++
    (r.attributes.entries.zipIdx 1).flatMap fun (e, i) =>
      [("MessageAttribute." ++ i.repr ++ ".Name", e.1),
        ("MessageAttribute." ++ i.repr ++ ".Value.DataType", e.2.dataType),
        ("MessageAttribute." ++ i.repr ++ ".Value.StringValue", e.2.text)]

theorem sendParameters_eq (r : SendRequest) :
    sendParameters r =
      [("QueueUrl", r.queueUrl.text), ("MessageBody", r.body),
        ("DelaySeconds", shown r.delaySeconds)] ++
        numbered attributeParameters 1 r.attributes.entries := by
  rw [numbered_eq_flatMap]
  rfl

/-- The names in a request to send that are not numbered. -/
def sendNames : List String := ["Action", "Version", "QueueUrl", "MessageBody", "DelaySeconds"]

theorem numberAfter_sendNames :
    ∀ name ∈ sendNames, numberAfter "MessageAttribute." name = none := by decide

theorem names_sendParameters (r : SendRequest) :
    "Action" :: "Version" :: (sendParameters r).map Prod.fst =
      sendNames ++ (numbered attributeParameters 1 r.attributes.entries).map Prod.fst := by
  rw [sendParameters_eq, List.map_append]
  rfl

theorem nodup_sendParameters (r : SendRequest) :
    ("Action" :: "Version" :: (sendParameters r).map Prod.fst).Nodup := by
  rw [names_sendParameters]
  exact nodup_append_numbered numberAfter_attributeParameters nodup_attributeParameters (by decide)
    numberAfter_sendNames 1 _

/-- The parameters of an attribute are those with its number. -/
theorem attributeParameters_subset {r : SendRequest} {i : Nat} {entry : String × AttributeValue}
    (stands : r.attributes.entries[i]? = some entry) :
    attributeParameters (i + 1) entry ⊆ sendParameters r := by
  have counted : (entry, i + 1) ∈ r.attributes.entries.zipIdx 1 :=
    List.mk_mem_zipIdx_iff_le_and_getElem?_sub.mpr ⟨Nat.le_add_left 1 i, stands⟩
  rw [sendParameters_eq, numbered_eq_flatMap]
  intro p member
  exact List.mem_append_right _ (List.mem_flatMap.mpr ⟨_, counted, member⟩)

/-- No attribute has a number beyond the last one. -/
theorem not_mem_sendParameters {r : SendRequest} {i : Nat}
    (beyond : r.attributes.entries[i]? = none) :
    "MessageAttribute." ++ (i + 1).repr ++ ".Name" ∉
      "Action" :: "Version" :: (sendParameters r).map Prod.fst := by
  intro member
  have number : numberAfter "MessageAttribute." ("MessageAttribute." ++ (i + 1).repr ++ ".Name") =
      some (i + 1) :=
    numberAfter_append "MessageAttribute." (i + 1) ".Name" rfl
  rw [names_sendParameters] at member
  rcases List.mem_append.mp member with fixed | own
  · rw [numberAfter_sendNames _ fixed] at number
    cases number
  · obtain ⟨p, stands, named⟩ := List.mem_map.mp own
    rw [numbered_eq_flatMap] at stands
    obtain ⟨⟨entry, j⟩, counted, parameter⟩ := List.mem_flatMap.mp stands
    rw [← named, numberAfter_attributeParameters j entry p parameter] at number
    obtain rfl := Option.some.inj number
    obtain ⟨-, found⟩ := List.mk_mem_zipIdx_iff_le_and_getElem?_sub.mp counted
    rw [Nat.add_sub_cancel, beyond] at found
    cases found

theorem gives_of_perm {r : SendRequest} {action : String} {pairs : List (String × String)}
    (perm : pairs.Perm (("Action", action) :: ("Version", version) :: sendParameters r)) :
    Gives pairs r := by
  have names := perm.map Prod.fst
  have own : (pairs.map Prod.fst).Nodup := names.nodup_iff.mpr (nodup_sendParameters r)
  have found {key value : String} (member : (key, value) ∈ sendParameters r) :
      Table.find key pairs = some value :=
    Table.find_of_mem own
      (perm.mem_iff.mpr (List.mem_cons_of_mem _ (List.mem_cons_of_mem _ member)))
  have delay : Table.find "DelaySeconds" pairs = some r.delaySeconds.toNat.repr :=
    found (by simp [sendParameters])
  refine ⟨found (by simp [sendParameters]), ?_, fun i => ?_⟩
  · rw [delay]
    exact natural?_repr _
  · cases stands : r.attributes.entries[i]? with
    | none =>
      have absent : Table.find ("MessageAttribute." ++ (i + 1).repr ++ ".Name") pairs = none :=
        Table.find_eq_none fun member => not_mem_sendParameters stands (names.mem_iff.mp member)
      simp only [attribute?, absent]
    | some entry =>
      have parameters := attributeParameters_subset stands
      have name := found (parameters (.head _))
      have dataType := found (parameters (.tail _ (.head _)))
      have text := found (parameters (.tail _ (.tail _ (.head _))))
      simp only [attribute?, name, dataType, text]

end Form

/-- What counts towards the limit is octets: of the body, and of names, types and values of the
attributes. -/
theorem SendRequest.size_eq (r : SendRequest) :
    r.size = (Utf8.encode r.body).length +
      (r.attributes.entries.map fun e =>
        (Utf8.encode e.1).length + (Utf8.encode e.2.dataType).length +
          (Utf8.encode e.2.text).length).sum :=
  rfl

namespace Client

/-- What each of the four requests conveys.  A message is sent if the octets of its body and its
attributes are within the limit, and then the request gives it back, with its attributes in the
order of the octets of their names.  A larger one is refused with the number of its octets, and
nothing is done. -/
theorem requests_conveyed (c : Client) (net : Network) :
    (∀ r : ReceiveRequest, Conveys ((c.service net.transport).receive r)
      ([("Action", "ReceiveMessage"), ("Version", "2012-11-05"), ("QueueUrl", r.queueUrl.text),
          ("MaxNumberOfMessages", r.maxMessages.toNat.repr),
          ("WaitTimeSeconds", r.waitSeconds.toNat.repr), ("AttributeName.1", "All")] ++
        (r.attributeNames.zipIdx 1).map fun (name, i) =>
          ("MessageAttributeName." ++ i.repr, name))) ∧
    (∀ queueUrl receipt seconds,
      Conveys ((c.service net.transport).changeVisibility queueUrl receipt seconds)
      [("Action", "ChangeMessageVisibility"), ("Version", "2012-11-05"),
        ("QueueUrl", queueUrl.text),
        ("ReceiptHandle", receipt.text), ("VisibilityTimeout", seconds.toNat.repr)]) ∧
    (∀ queueUrl receipt, Conveys ((c.service net.transport).delete queueUrl receipt)
      [("Action", "DeleteMessage"), ("Version", "2012-11-05"), ("QueueUrl", queueUrl.text),
        ("ReceiptHandle", receipt.text)]) ∧
    (∀ r : SendRequest,
      let octets := (Utf8.encode r.body).length +
        (r.attributes.entries.map fun e =>
          (Utf8.encode e.1).length + (Utf8.encode e.2.dataType).length +
            (Utf8.encode e.2.text).length).sum
      (octets ≤ 262144 →
        Conveys ((c.service net.transport).send r)
          (("Action", "SendMessage") :: ("Version", "2012-11-05") :: Form.sendParameters r) ∧
        (∀ form ∈ formsPosted ((c.service net.transport).send r),
          ∃ pairs, Form.read? form = some pairs ∧ Form.Gives pairs r) ∧
        (r.attributes.entries.map fun e => Utf8.encode e.1).Pairwise (· < ·)) ∧
      (262144 < octets →
        ((c.service net.transport).send r).run [] =
          (.error (.messageTooLarge octets 262144), []))) := by
  refine ⟨fun r => ?_, fun queueUrl receipt seconds => ?_, fun queueUrl receipt => ?_, fun r => ?_⟩
  · have counted : (r.attributeNames.zipIdx 1).map
        (fun (name, i) => ("MessageAttributeName." ++ i.repr, name)) =
        Form.numbered (fun i name => [("MessageAttributeName." ++ i.repr, name)]) 1
          r.attributeNames := by
      rw [List.map_eq_flatMap, Form.numbered_eq_flatMap]
    have fixed : ["Action", "Version", "QueueUrl", "MaxNumberOfMessages", "WaitTimeSeconds",
        "AttributeName.1"].Nodup := by decide
    rw [counted]
    exact c.conveys_of_call net rfl (Form.nodup_append_numbered Form.numberAfter_attributeName
      (fun _ _ => by simp) fixed (by decide) 1 r.attributeNames)
  · exact c.conveys_of_call net rfl
      (show ["Action", "Version", "QueueUrl", "ReceiptHandle", "VisibilityTimeout"].Nodup
      by decide)
  · exact c.conveys_of_call net rfl
      (show ["Action", "Version", "QueueUrl", "ReceiptHandle"].Nodup by decide)
  · intro octets
    have size : r.size = octets := r.size_eq
    refine ⟨fun small => ?_, fun large => ?_⟩
    · have room : ¬ maxMessageSize < r.size := Nat.not_lt.mpr (size.trans_le small)
      have conveys : Conveys ((c.service net.transport).send r)
          (("Action", "SendMessage") :: ("Version", "2012-11-05") :: Form.sendParameters r) := by
        refine c.conveys_of_call net ?_ (Form.nodup_sendParameters r)
        simp only [service, if_neg room, Form.sendParameters_eq]
        rfl
      refine ⟨conveys, fun form member => ?_, ?_⟩
      · obtain ⟨pairs, read, perm⟩ := conveys.read form member
        exact ⟨pairs, read, Form.gives_of_perm perm⟩
      · exact List.pairwise_map.mpr (r.attributes.sorted.imp Utf8.encode_lt_encode)
    · have full : maxMessageSize < r.size := large.trans_eq size.symm
      simp only [service, if_pos full]
      rfl

/-- A message with one attribute, whose body has letters of two octets each. -/
def accented (letters : Nat) (value : String) : SendRequest where
  queueUrl := ⟨"http://a", by decide +kernel⟩
  body := String.ofList (List.replicate letters 'é')
  delaySeconds := 0
  attributes := .ofList [("n", ⟨"t", value⟩)]

theorem octets_accented (letters : Nat) (value : String) :
    (Utf8.encode (accented letters value).body).length +
        ((accented letters value).attributes.entries.map fun e =>
          (Utf8.encode e.1).length + (Utf8.encode e.2.dataType).length +
            (Utf8.encode e.2.text).length).sum =
      2 * letters + 2 + (Utf8.encode value).length := by
  have body : (Utf8.encode (accented letters value).body).length = 2 * letters := by
    rw [accented, Utf8.encode_ofList, List.length_flatMap]
    simp [Nat.mul_comm, String.utf8EncodeChar]
  have attributes : (accented letters value).attributes.entries = [("n", ⟨"t", value⟩)] := rfl
  have name : (Utf8.encode "n").length = 1 := rfl
  have dataType : (Utf8.encode "t").length = 1 := rfl
  rw [body, attributes, List.map_singleton, List.sum_singleton, name, dataType, ← Nat.add_assoc]

/-- A message of 262144 octets is sent, and one of 262145 octets is not, whatever the number of
characters. -/
theorem requests_conveyed_at_limit :
    let c : Client :=
      ⟨⟨"http".toList, true, [], [], "localhost".toList, none, ['/'], none, none⟩, "localhost",
        none, 30, CredentialRetry.standard.policy⟩
    let net : Network := ⟨fun _ => ⟨0⟩, fun _ => .error "refused"⟩
    Conveys ((c.service net.transport).send (accented 131070 "é"))
        [("Action", "SendMessage"), ("Version", "2012-11-05"), ("QueueUrl", "http://a"),
          ("MessageBody", String.ofList (List.replicate 131070 'é')), ("DelaySeconds", "0"),
          ("MessageAttribute.1.Name", "n"), ("MessageAttribute.1.Value.DataType", "t"),
          ("MessageAttribute.1.Value.StringValue", "é")] ∧
      ((c.service net.transport).send (accented 131070 "éa")).run [] =
        (.error (.messageTooLarge 262145 262144), []) := by
  intro c net
  obtain ⟨-, -, -, sent⟩ := requests_conveyed c net
  obtain ⟨small, -⟩ := sent (accented 131070 "é")
  obtain ⟨-, large⟩ := sent (accented 131070 "éa")
  have within := octets_accented 131070 "é"
  have beyond := octets_accented 131070 "éa"
  rw [beyond] at large
  exact ⟨(small (within.trans_le (by decide))).1, large (by decide)⟩

end Client
end MessageQueue
