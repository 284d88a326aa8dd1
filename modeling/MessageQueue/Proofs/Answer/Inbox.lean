import MessageQueue.Proofs.Markup.Content
import MessageQueue.Wire.Answer

/-!
# What an inbox takes of a document

An inbox looks at elements of few names.  Whatever stands in an element with another name changes
nothing, unless an element that is looked at is hidden in it (`idle_of_foreign`).  A text is taken
only where a part of a message or of an attribute stands.  So of what stands in an element whose own
texts are not taken, only the elements with known names count (`Inbox.run_known`).
-/

namespace MessageQueue.Answer

open MessageQueue.Markup

/-! ## Known names -/

/-- The names of the elements that are looked at. -/
def vocabulary : List String :=
  ["ReceiveMessageResult", "Message", "MessageId", "ReceiptHandle", "Body", "MessageAttribute",
    "Attribute", "Name", "Value", "StringValue"]

/-- An element with this name is looked at. -/
def Known (name : List Char) : Prop := name ∈ vocabulary.map String.toList

instance : DecidablePred Known := fun _ => List.instDecidableMemOfLawfulBEq _ _

/-- The elements that are looked at among those that stand in content. -/
def known (c : Content) : List Child := c.children.filter fun child => Known child.name

/-- The elements that are looked at among those that stand in an element. -/
def knownIn (child : Child) : List Child :=
  match child.inside with
  | some c => known c
  | none => []

theorem knownIn_of_some {child : Child} {c : Content} (stands : child.inside = some c) :
    knownIn child = known c := by
  rw [knownIn, stands]

theorem knownIn_of_none {child : Child} (empty : child.inside = none) : knownIn child = [] := by
  rw [knownIn, empty]

/-- No element with a known name is in the content, at any depth. -/
def Foreign : Content → Prop
  | .text _ => True
  | .aside _ _ rest => Foreign rest
  | .closed _ _ rest => Foreign rest
  | .element _ tag inside _ rest => ¬ Known tag.name ∧ Foreign inside ∧ Foreign rest

/-- No element with a known name is in one without, at any depth. -/
def Apart : Content → Prop
  | .text _ => True
  | .aside _ _ rest => Apart rest
  | .closed _ _ rest => Apart rest
  | .element _ tag inside _ rest =>
    (if Known tag.name then Apart inside else Foreign inside) ∧ Apart rest

def decideForeign : ∀ c : Content, Decidable (Foreign c)
  | .text _ => .isTrue trivial
  | .aside _ _ rest => decideForeign rest
  | .closed _ _ rest => decideForeign rest
  | .element _ tag inside _ rest =>
    have := decideForeign inside
    have := decideForeign rest
    inferInstanceAs (Decidable (¬ Known tag.name ∧ Foreign inside ∧ Foreign rest))

instance : DecidablePred Foreign := decideForeign

def decideApart : ∀ c : Content, Decidable (Apart c)
  | .text _ => .isTrue trivial
  | .aside _ _ rest => decideApart rest
  | .closed _ _ rest => decideApart rest
  | .element _ tag inside _ rest =>
    have := decideApart inside
    have := decideApart rest
    inferInstanceAs
      (Decidable ((if Known tag.name then Apart inside else Foreign inside) ∧ Apart rest))

instance : DecidablePred Apart := decideApart

theorem Apart.child {c : Content} (apart : Apart c) {child : Child} (member : child ∈ c.children)
    {inside : Content}
    (stands : child.inside = some inside) :
    if Known child.name then Apart inside else Foreign inside := by
  induction c with
  | text last => cases member
  | aside before piece rest ih => exact ih apart member
  | closed before tag rest ih =>
    rcases List.mem_cons.mp member with rfl | later
    · cases stands
    · exact ih apart later
  | element before tag content gap rest _ ih =>
    rcases List.mem_cons.mp member with rfl | later
    · cases stands
      exact apart.1
    · exact ih apart.2 later

/-! ## Nodes that change nothing -/

/-- A node that changes nothing, whatever has been read. -/
def Idle (node : Node) : Prop := ∀ i : Inbox, i.step node = .ok i

/-- Texts inside the elements of a path are not taken. -/
def Silent (path : Path) : Prop :=
  ∀ names ∈ [idText, handleText, bodyText, senderName, queueName, senderValue, queueValue],
  endsWith names path = false

instance (path : Path) : Decidable (Silent path) := List.decidableBAll _ _

/-- Nothing happens at the beginning and at the end of the innermost element of a path. -/
def Plain (path : Path) : Prop :=
  ∀ names ∈ [messageElement, senderAttribute, queueAttribute], endsWith names path = false

instance (path : Path) : Decidable (Plain path) := List.decidableBAll _ _

theorem Draft.take_of_silent {path : Path} (silent : Silent path) (d : Draft)
    (content : List Char) :
    d.take path content = d := by
  simp only [Silent, List.forall_mem_cons] at silent
  obtain ⟨id, handle, body, senderName, queueName, senderValue, queueValue, -⟩ := silent
  simp [take, id, handle, body, senderName, queueName, senderValue, queueValue]

theorem idle_text {path : Path} (silent : Silent path) (content : List Char) :
    Idle (.text path content) := by
  intro i
  obtain ⟨draft, done⟩ := i
  cases draft with
  | none => rfl
  | some d =>
    rw [Inbox.step, Option.map_some, Draft.take_of_silent silent]

theorem idle_opened {path : Path} (plain : Plain path) : Idle (.opened path) := by
  intro i
  rw [Inbox.step, plain messageElement (by simp)]
  rfl

theorem idle_closed {path : Path} (plain : Plain path) : Idle (.closed path) := by
  intro i
  rw [Inbox.step, plain messageElement (by simp), plain senderAttribute (by simp),
    plain queueAttribute (by simp)]
  rfl

/-- A place whose innermost element has a known name is not where an element with another name
is. -/
theorem endsWith_of_unknown {name : List Char} (unknown : ¬ Known name) (path : Path)
    {names : List (List Char)}
    (innermost : ∃ first ∈ names.head?, Known first) : endsWith names (name :: path) = false := by
  obtain ⟨first, stands, looked⟩ := innermost
  cases names with
  | nil => cases stands
  | cons top others =>
    cases stands
    have other : first ≠ name := by
      rintro rfl
      exact unknown looked
    simp [endsWith, List.isPrefixOf, other]

theorem silent_of_unknown {name : List Char} (unknown : ¬ Known name) (path : Path) :
    Silent (name :: path) := by
  intro names member
  refine endsWith_of_unknown unknown path ?_
  simp only [List.mem_cons, List.not_mem_nil, or_false] at member
  rcases member with rfl | rfl | rfl | rfl | rfl | rfl | rfl
  all_goals exact ⟨_, rfl, by decide⟩

theorem plain_of_unknown {name : List Char} (unknown : ¬ Known name) (path : Path) :
    Plain (name :: path) := by
  intro names member
  refine endsWith_of_unknown unknown path ?_
  simp only [List.mem_cons, List.not_mem_nil, or_false] at member
  rcases member with rfl | rfl | rfl
  all_goals exact ⟨_, rfl, by decide⟩

theorem idle_spelled {path : Path} (silent : Silent path) (s : Spelled) :
    ∀ node ∈ s.nodes path, Idle node := by
  intro node member
  unfold Spelled.nodes at member
  split at member
  next => cases member
  next =>
    obtain rfl := List.mem_singleton.mp member
    exact idle_text silent _

/-- Foreign content changes nothing in an element that is not looked at. -/
theorem idle_of_foreign {c : Content} (foreign : Foreign c) {name : List Char}
    (unknown : ¬ Known name) (path : Path) :
    ∀ node ∈ c.nodes (name :: path), Idle node := by
  induction c generalizing name path with
  | text last => exact idle_spelled (silent_of_unknown unknown path) last
  | aside before piece rest ih =>
    intro node member
    rcases List.mem_append.mp member with first | later
    · exact idle_spelled (silent_of_unknown unknown path) before node first
    · exact ih foreign unknown path node later
  | closed before tag rest ih =>
    intro node member
    rcases List.mem_append.mp member with first | later
    · exact idle_spelled (silent_of_unknown unknown path) before node first
    · exact ih foreign unknown path node later
  | element before tag inside gap rest within ih =>
    obtain ⟨other, inner, last⟩ := foreign
    intro node member
    simp only [Content.nodes, List.mem_append, List.mem_cons] at member
    rcases member with first | rfl | inside | rfl | later
    · exact idle_spelled (silent_of_unknown unknown path) before node first
    · exact idle_opened (plain_of_unknown other _)
    · exact within inner other _ node inside
    · exact idle_closed (plain_of_unknown other _)
    · exact ih last unknown path node later

/-! ## What counts of content -/

namespace Inbox

theorem run_append (i : Inbox) (first next : List Node) :
    i.run (first ++ next) = (i.run first).bind fun j => j.run next := by
  induction first generalizing i with
  | nil => rfl
  | cons node first ih =>
    rw [List.cons_append, run, run]
    cases i.step node with
    | ok j => exact ih j
    | error e => rfl

theorem run_of_idle {nodes : List Node} (idle : ∀ node ∈ nodes, Idle node) (i : Inbox) :
    i.run nodes = .ok i := by
  induction nodes with
  | nil => rfl
  | cons node nodes ih =>
    obtain ⟨first, others⟩ := List.forall_mem_cons.mp idle
    rw [run, first i]
    exact ih others

theorem run_idle_append {nodes : List Node} (idle : ∀ node ∈ nodes, Idle node) (i : Inbox)
    (next : List Node) :
    i.run (nodes ++ next) = i.run next := by
  rw [run_append, run_of_idle idle]
  rfl

/-- If the texts in an element are not taken then its elements count, one after another. -/
theorem run_children {path : Path} (silent : Silent path) (c : Content) (i : Inbox) :
    i.run (c.nodes path) = i.run (c.children.flatMap (Child.nodes path)) := by
  induction c generalizing i with
  | text last => exact run_of_idle (idle_spelled silent last) i
  | aside before piece rest ih =>
    exact (run_idle_append (idle_spelled silent before) i _).trans (ih i)
  | closed before tag rest ih =>
    exact (run_idle_append (idle_spelled silent before) i _).trans (ih i)
  | element before tag inside gap rest _ ih =>
    have nodes : (Content.element before tag inside gap rest).nodes path =
        before.nodes path ++ (Child.nodes path ⟨tag.name, some inside⟩ ++ rest.nodes path) := by
      simp [Content.nodes, Child.nodes]
    rw [nodes, run_idle_append (idle_spelled silent before), Content.children, List.flatMap_cons,
      run_append, run_append]
    exact congrArg _ (funext ih)

/-- Of the elements only those with known names count. -/
theorem run_known {path : Path} (silent : Silent path) {c : Content} (apart : Apart c) (i : Inbox) :
    i.run (c.nodes path) = i.run ((known c).flatMap (Child.nodes path)) := by
  have idle :
      ∀ child ∈ c.children, ¬ Known child.name → ∀ node ∈ Child.nodes path child, Idle node := by
    intro child member unknown node stands
    cases within : child.inside with
    | none =>
      rw [Child.nodes_of_none within] at stands
      cases stands
    | some inside =>
      have foreign := apart.child member within
      rw [if_neg unknown] at foreign
      rw [Child.nodes_of_some within] at stands
      simp only [List.mem_cons, List.mem_append, List.not_mem_nil, or_false] at stands
      rcases stands with rfl | inner | rfl
      · exact idle_opened (plain_of_unknown unknown path)
      · exact idle_of_foreign foreign unknown path node inner
      · exact idle_closed (plain_of_unknown unknown path)
  rw [run_children silent, known]
  generalize c.children = children at idle
  induction children generalizing i with
  | nil => rfl
  | cons child children ih =>
    obtain ⟨first, others⟩ := List.forall_mem_cons.mp idle
    rw [List.flatMap_cons]
    by_cases looked : Known child.name
    · rw [List.filter_cons_of_pos (by simpa using looked), List.flatMap_cons, run_append,
        run_append]
      exact congrArg _ (funext fun j => ih j others)
    · rw [List.filter_cons_of_neg (by simpa using looked), run_idle_append (first looked)]
      exact ih i others

end Inbox
end MessageQueue.Answer
