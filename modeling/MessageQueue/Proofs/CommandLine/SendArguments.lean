import MessageQueue.CommandLine.Arguments
import MessageQueue.Proofs.CommandLine.Reading
import MessageQueue.Proofs.Wire.Form

/-!
# What is said of a message to send

The command says which queue to send to, and it may say the body, attributes and a delay (`Say`).
All this is said in any order and spelled in any way, and reading it gives back what was said
(`readSend_of_spells`).  If an attribute has no name or no equals sign, the command is refused
(`readSend_of_unnamed`).

Everything that can be said has a spelling (`spells_plainly`): a value may hold any text behind the
equals sign of a long name, and no address of a queue looks like the name of a parameter.
-/

namespace MessageQueue

theorem Text.cut?_of_not_mem {separator : Char} {text : List Char} (absent : separator ∉ text) :
    cut? separator text = none := by
  have go (before : List Char) : cutFrom separator before text = none := by
    induction text generalizing before with
    | nil => rfl
    | cons c rest ih =>
      rw [List.mem_cons, not_or] at absent
      rw [cutFrom, if_neg (Ne.symm absent.1)]
      exact ih absent.2 _
  exact go []

namespace CommandLine

/-! ## Attributes as arguments -/

section

variable {raw : String}

/-- An attribute is what stands before the first equals sign, with all that stands behind it. -/
theorem readAttribute_append {name : String} (named : name ≠ "") (sign : '=' ∉ name.toList)
    (value : String) :
    readAttribute (name ++ "=" ++ value) = .ok (name, value) := by
  have text : (name ++ "=" ++ value).toList = name.toList ++ '=' :: value.toList := by
    simp [String.toList_append]
  have cut := Text.cut?_append '=' name.toList value.toList sign
  rw [readAttribute, text, cut]
  cases letters : name.toList with
  | nil => exact absurd (String.toList_eq_nil_iff.mp letters) named
  | cons c rest => simp only [← letters, String.ofList_toList]

/-- Whether an argument has no equals sign, or nothing before the first. -/
def Unnamed (raw : String) : Prop := '=' ∉ raw.toList ∨ raw.toList.head? = some '='

theorem readAttribute_of_unnamed (unnamed : Unnamed raw) :
    readAttribute raw = .error ("expected KEY=VALUE, got '" ++ raw ++ "'") := by
  rw [readAttribute]
  rcases unnamed with absent | first
  · rw [Text.cut?_of_not_mem absent]
  · cases letters : raw.toList with
    | nil => simp [letters] at first
    | cons c rest =>
      rw [letters] at first
      cases first
      rfl

end

/-! ## What is said of a message -/

/-- One thing that is said of a message to send. -/
inductive SendItem where
  | queue (queueUrl : QueueUrl)
  | body (text : String)
  /-- An attribute, as it is given. -/
  | pair (raw : String)
  | delay (text : String)

namespace SendItem

/-- The item of the command. -/
def item : SendItem → Item SendArguments
  | queue queueUrl => .operand sendOperand queueUrl.text
  | body text => .parameter bodyParameter text
  | pair raw => .parameter attributeParameter raw
  | delay text => .parameter delayParameter text

def queue? : SendItem → Option QueueUrl
  | queue queueUrl => some queueUrl
  | _ => none

def body? : SendItem → Option String
  | body text => some text
  | _ => none

def raw? : SendItem → Option String
  | pair raw => some raw
  | _ => none

def delay? : SendItem → Option String
  | delay text => some text
  | _ => none

/-! ### One item -/

section

variable (r : Reading SendArguments)

theorem enter_queue (queueUrl : QueueUrl) :
    (queue queueUrl).item.enter r =
      .ok { r with record := { r.record with queueUrl := some queueUrl }, hasOperand := true } := by
  have parsed : QueueUrl.parse queueUrl.text = .ok queueUrl :=
    (QueueUrl.parse_eq_ok_iff _ _).mpr rfl
  simp only [item, Item.enter, sendOperand, queueOperand, parsed]

theorem enter_body (first : "body" ∉ r.given) (value : String) :
    (body value).item.enter r =
      .ok
        { r with record := { r.record with body := some value }, given := "body" :: r.given } := by
  simp [item, Item.enter, Reading.enter, bodyParameter, text, first]

theorem enter_pair {name : String} (named : name ≠ "") (sign : '=' ∉ name.toList) (value : String) :
    (pair (name ++ "=" ++ value)).item.enter r =
      .ok { r with
        record := { r.record with attributes := (name, value) :: r.record.attributes }
        given := "attribute" :: r.given } := by
  simp [item, Item.enter, Reading.enter, attributeParameter, readAttribute_append named sign]

theorem enter_unnamed {raw : String} (unnamed : Unnamed raw) :
    (pair raw).item.enter r =
      .error (.badValue "attribute" raw ("expected KEY=VALUE, got '" ++ raw ++ "'")) := by
  simp [item, Item.enter, Reading.enter, attributeParameter, readAttribute_of_unnamed unnamed]

theorem enter_delay (first : "delay" ∉ r.given) {value : String} {n : Int}
    (number : integer64? value = some n) :
    (delay value).item.enter r =
      .ok
        { r with record := { r.record with delaySeconds := n }, given := "delay" :: r.given } := by
  simp [item, Item.enter, Reading.enter, delayParameter, accepted, first, number]

/-- What is refused of a message is reported as an error, and not as a page that was asked for. -/
theorem unwanted_of_enter {said : SendItem} {r : Reading SendArguments} {e : UsageError}
    (refused : said.item.enter r = .error e) : e.wanted = false := by
  cases said with
  | queue queueUrl =>
    rw [enter_queue] at refused
    cases refused
  | body value =>
    by_cases first : "body" ∈ r.given
    · simp only [item, Item.enter, Reading.enter, bodyParameter, first] at refused
      cases refused
      rfl
    · rw [enter_body r first] at refused
      cases refused
  | pair raw =>
    simp only [item, Item.enter, Reading.enter, attributeParameter] at refused
    cases read : readAttribute raw with
    | ok pair =>
      simp [read] at refused
    | error reason =>
      simp [read] at refused
      cases refused
      rfl
  | delay value =>
    by_cases first : "delay" ∈ r.given
    · simp only [item, Item.enter, Reading.enter, delayParameter, first] at refused
      cases refused
      rfl
    · cases number : integer64? value with
      | some n =>
        rw [enter_delay r first number] at refused
        cases refused
      | none =>
        simp [item, Item.enter, Reading.enter, delayParameter, accepted, first, number] at refused
        cases refused
        rfl

end

end SendItem

/-! ### All items -/

/-- What items say of a message, in whatever order they say it.  The queue, the body and the delay
are said once at most. -/
structure Say (items : List SendItem) (queueUrl : Option QueueUrl) (body : Option String)
    (pairs : List (String × String)) (delay : Option Int) : Prop where
  queue : items.filterMap SendItem.queue? = queueUrl.toList
  body : items.filterMap SendItem.body? = body.toList
  attributes : items.filterMap SendItem.raw? = pairs.map fun p => p.1 ++ "=" ++ p.2
  named : ∀ p ∈ pairs, p.1 ≠ "" ∧ '=' ∉ p.1.toList
  delay : (items.filterMap SendItem.delay?).map integer64? = delay.toList.map some

section

variable {items : List SendItem} {queueUrl : Option QueueUrl} {body : Option String}
  {pairs : List (String × String)}
  {delay : Option Int}

theorem cons_eq_toList {β : Type} {first : β} {rest : List β} {o : Option β}
    (same : first :: rest = o.toList) :
    o = some first ∧ rest = [] := by
  cases o with
  | none => cases same
  | some other =>
    obtain ⟨rfl, rfl⟩ := List.cons.inj same
    exact ⟨rfl, rfl⟩

namespace Say

theorem queue_inv {first : QueueUrl} (say : Say (.queue first :: items) queueUrl body pairs delay) :
    queueUrl = some first ∧ Say items none body pairs delay := by
  obtain ⟨rfl, done⟩ := cons_eq_toList say.queue
  exact ⟨rfl, { say with queue := done }⟩

theorem body_inv {first : String} (say : Say (.body first :: items) queueUrl body pairs delay) :
    body = some first ∧ Say items queueUrl none pairs delay := by
  obtain ⟨rfl, done⟩ := cons_eq_toList say.body
  exact ⟨rfl, { say with body := done }⟩

theorem pair_inv {raw : String} (say : Say (.pair raw :: items) queueUrl body pairs delay) :
    ∃ name value rest, raw = name ++ "=" ++ value ∧ name ≠ "" ∧ '=' ∉ name.toList ∧
      pairs = (name, value) :: rest ∧ Say items queueUrl body rest delay := by
  have attributes : raw :: items.filterMap SendItem.raw? =
      pairs.map fun p => p.1 ++ "=" ++ p.2 := say.attributes
  cases pairs with
  | nil => cases attributes
  | cons p rest =>
    obtain ⟨first, others⟩ := List.cons.inj attributes
    obtain ⟨named, later⟩ := List.forall_mem_cons.mp say.named
    exact ⟨p.1, p.2, rest, first, named.1, named.2, rfl,
      { say with attributes := others, named := later }⟩

theorem delay_inv {first : String} (say : Say (.delay first :: items) queueUrl body pairs delay) :
    ∃ n, integer64? first = some n ∧ delay = some n ∧ Say items queueUrl body pairs none := by
  have delays : integer64? first :: (items.filterMap SendItem.delay?).map integer64? =
      delay.toList.map some :=
    say.delay
  cases delay with
  | none => cases delays
  | some n =>
    obtain ⟨number, done⟩ := List.cons.inj delays
    exact ⟨n, number, rfl, { say with delay := done }⟩

/-- Entering items gives what they say.  What they say once must not have been given before. -/
theorem foldlM_enter (say : Say items queueUrl body pairs delay) (r : Reading SendArguments)
    (firstBody : "body" ∈ r.given → body = none) (firstDelay : "delay" ∈ r.given → delay = none) :
    ∃ s, (items.map SendItem.item).foldlM Item.enter r = .ok s ∧ s.record =
      { queueUrl := queueUrl.or r.record.queueUrl
        body := body.or r.record.body
        attributes := pairs.reverse ++ r.record.attributes
        delaySeconds := delay.getD r.record.delaySeconds } := by
  induction items generalizing r queueUrl body pairs delay with
  | nil =>
    obtain ⟨queue, body, attributes, -, delay⟩ := say
    simp only [List.filterMap_nil, List.map_nil, List.nil_eq, List.map_eq_nil_iff,
      Option.toList_eq_nil_iff]
      at queue body attributes delay
    subst queue body attributes delay
    exact ⟨r, rfl, rfl⟩
  | cons first items ih =>
    rw [List.map_cons, List.foldlM_cons]
    cases first with
    | queue first =>
      obtain ⟨rfl, later⟩ := say.queue_inv
      rw [SendItem.enter_queue]
      exact ih later _ firstBody firstDelay
    | body first =>
      obtain ⟨rfl, later⟩ := say.body_inv
      rw [SendItem.enter_body r fun given => nomatch firstBody given]
      refine ih later _ (fun _ => rfl) fun given => firstDelay ?_
      simpa using given
    | pair raw =>
      obtain ⟨name, value, rest, rfl, named, sign, rfl, later⟩ := say.pair_inv
      rw [SendItem.enter_pair r named sign]
      obtain ⟨s, done, record⟩ := ih later { r with
          record := { r.record with attributes := (name, value) :: r.record.attributes }
          given := "attribute" :: r.given }
        (fun given => firstBody (by simpa using given)) fun given =>
          firstDelay (by simpa using given)
      exact ⟨s, done, by simp [record]⟩
    | delay first =>
      obtain ⟨n, number, rfl, later⟩ := say.delay_inv
      rw [SendItem.enter_delay r (fun given => nomatch firstDelay given) number]
      refine ih later _ (fun given => firstBody ?_) fun _ => rfl
      simpa using given

end Say

end

/-! ## Spelling -/

theorem trimmed_of_dash (rest : List Char) : ∃ inner, Url.trimmed ('-' :: rest) = '-' :: inner := by
  have front (outside : Char → Bool) (inside : outside '-' = false) :
      ∃ inner, ((rest.reverse ++ ['-']).dropWhile outside).reverse = '-' :: inner := by
    rw [List.dropWhile_append]
    split
    · exact ⟨[], by simp [inside]⟩
    · exact ⟨(rest.reverse.dropWhile outside).reverse, by simp⟩
  obtain ⟨inner, kept⟩ := front (fun c => decide (c.toNat ≤ 0x20)) (by decide)
  refine ⟨inner.filter fun c => c ≠ '\t' && c ≠ '\n' && c ≠ '\r', ?_⟩
  rw [Url.trimmed, List.dropWhile_cons_of_neg (by decide), List.reverse_cons, kept]
  exact List.filter_cons_of_pos (by decide)

/-- An address of a queue does not begin with a dash, since its scheme begins with a letter. -/
theorem ofArgument_queueUrl (queueUrl : QueueUrl) : Word.ofArgument queueUrl.text = .plain := by
  refine Word.ofArgument_plain fun dash => ?_
  obtain ⟨text, sound⟩ := queueUrl
  cases letters : text.toList with
  | nil => simp [letters] at dash
  | cons c rest =>
    rw [letters] at dash
    cases dash
    obtain ⟨inner, trimmed⟩ := trimmed_of_dash rest
    have relative : Url.parse text = .error .relativeWithoutBase := by
      rw [Url.parse, letters, trimmed]
      rfl
    have filled : text ≠ "" := by
      rintro rfl
      cases letters
    rw [QueueUrl.fault?, if_neg filled, relative] at sound
    cases sound

/-- The plainest spelling of an item, whose value stands behind the name of its parameter. -/
def SendItem.plainly : SendItem → String
  | queue queueUrl => queueUrl.text
  | body text => "--" ++ bodyParameter.long ++ "=" ++ text
  | pair raw => "--" ++ attributeParameter.long ++ "=" ++ raw
  | delay text => "--" ++ delayParameter.long ++ "=" ++ text

theorem spells_plainly (items : List SendItem) :
    Spells sendUsage (items.map SendItem.item) (items.map SendItem.plainly) := by
  induction items with
  | nil => exact .nil
  | cons first items ih =>
    cases first with
    | queue queueUrl => exact .operand rfl (ofArgument_queueUrl queueUrl) ih
    | body text => exact .joined nofun (.of_long rfl (by decide) text) ih
    | pair raw => exact .joined nofun (.of_long rfl (by decide) raw) ih
    | delay text => exact .joined nofun (.of_long rfl (by decide) text) ih

/-- Every delay of 64 bits can be said. -/
theorem integer64?_repr {n : Int} (least : -Int.pow 2 63 ≤ n) (most : n < Int.pow 2 63) :
    integer64? n.repr = some n := by
  rw [integer64?, Form.integer?_repr]
  exact Option.filter_some_pos (decide_eq_true ⟨least, most⟩)

/-! ## Reading the command -/

section

variable {items : List SendItem} {body : Option String} {pairs : List (String × String)}
  {delay : Option Int}

/-- What the arguments of a command come to, if they spell items. -/
theorem readCommand_of_spells {α : Type} {u : Usage α} (single : u.commands = [])
    {items : List (Item α)}
    {arguments : List String} (spelled : Spells u items arguments)
    (once : items.countP Item.isOperand ≤ 1) (unset : α) :
    readCommand u unset arguments =
      items.foldlM Item.enter { record := unset } >>= fun r => pure r.record := by
  have read := Reading.read_of_spells single spelled (r := { record := unset }) nofun once
  rw [readCommand, ← bind_assoc, read]
  rfl

theorem countP_isOperand (items : List SendItem) :
    (items.map SendItem.item).countP Item.isOperand = (items.filterMap SendItem.queue?).length := by
  rw [List.countP_map, List.length_filterMap_eq_countP]
  refine List.countP_congr fun said _ => ?_
  cases said <;> rfl

variable {arguments : List String}

/-- Arguments that say what to send are read as the command to send it. -/
theorem readSend_of_spells {queueUrl : QueueUrl} (say : Say items (some queueUrl) body pairs delay)
    (spelled : Spells sendUsage (items.map SendItem.item) arguments) :
    readSend arguments = .ok (.send queueUrl body pairs (delay.getD 0)) := by
  have once : (items.map SendItem.item).countP Item.isOperand ≤ 1 := by
    rw [countP_isOperand, say.queue]
    exact Nat.le_refl 1
  obtain ⟨s, done, record⟩ := say.foldlM_enter { record := {} } nofun nofun
  rw [readSend, readCommand_of_spells rfl spelled once, done]
  simp [bind, Except.bind, pure, Except.pure, record, required]

/-- If an attribute has no name the arguments are refused. -/
theorem readSend_of_unnamed (single : (items.filterMap SendItem.queue?).length ≤ 1)
    (spelled : Spells sendUsage (items.map SendItem.item) arguments) {raw : String}
    (said : .pair raw ∈ items)
    (unnamed : Unnamed raw) : ∃ e, readSend arguments = .error e ∧ e.wanted = false := by
  rw [readSend, readCommand_of_spells rfl spelled (by rwa [countP_isOperand])]
  cases entered : (items.map SendItem.item).foldlM Item.enter
      { record := ({} : SendArguments) } with
  | ok s =>
    obtain ⟨r, s, done⟩ := step_of_foldlM_ok entered (List.mem_map_of_mem said)
    rw [SendItem.enter_unnamed r unnamed] at done
    cases done
  | error e =>
    obtain ⟨item, member, r, refused⟩ := step_of_foldlM_error entered
    obtain ⟨said, -, rfl⟩ := List.mem_map.mp member
    exact ⟨e, rfl, SendItem.unwanted_of_enter refused⟩

end

end CommandLine
end MessageQueue
