import MessageQueue.Proofs.Markup.Content
import MessageQueue.Proofs.Markup.Parts
import MessageQueue.Wire.Answer
import Mathlib.Data.List.Basic

/-!
# Texts at a place of an answer

What an answer says at a place is the last of the texts there (`lastText_eq`).  A text is read where
all tokens in front of it can be read and lead to the place, so a text behind the first fault is
not, and of those that are read the one with the most tokens in front of it is the last
(`lastRead_iff`).

In written content the texts at a place come from the elements, one after another
(`textsAt_children`), and an element that holds no element with the innermost name of the place has
none (`textsAt_without`).
-/

namespace MessageQueue.Answer

open MessageQueue.Markup

/-! ## Texts among nodes -/

/-- The text of a node, if it stands at a place. -/
def textAt (names : List (List Char)) : Node → Option (List Char)
  | .text path content => if endsWith names path then some content else none
  | _ => none

/-- The texts at a place, the first one first. -/
def textsAt (names : List (List Char)) (nodes : List Node) : List (List Char) :=
  nodes.filterMap (textAt names)

section Nodes

variable {names : List (List Char)} {path : Path}

theorem textsAt_append (first next : List Node) :
    textsAt names (first ++ next) = textsAt names first ++ textsAt names next :=
  List.filterMap_append

theorem textsAt_cons (node : Node) (rest : List Node) :
    textsAt names (node :: rest) = (textAt names node).toList ++ textsAt names rest := by
  rw [textsAt, List.filterMap_cons]
  cases textAt names node <;> rfl

/-- An answer says the last of the texts at a place. -/
theorem lastText_eq (names : List (List Char)) (nodes : List Node) :
    lastText names nodes = (textsAt names nodes).getLast?.map String.ofList := by
  induction nodes using List.reverseRecOn with
  | nil => rfl
  | append_singleton nodes node ih =>
    rw [lastText, List.foldl_append, textsAt_append, textsAt_cons, List.foldl_cons, List.foldl_nil]
    rw [lastText] at ih
    cases node with
    | text path content =>
      by_cases here : endsWith names path = true
      · simp [textAt, here, textsAt]
      · simp [textAt, here, textsAt, ih]
    | opened path => simp [textAt, textsAt, ih]
    | closed path => simp [textAt, textsAt, ih]

end Nodes

/-! ## Texts that are read -/

/-- The characters that a token stands for, if it is a text that can be read. -/
def content? : Token → Option (List Char)
  | .text raw => resolve raw
  | .verbatim content => some content
  | _ => none

/-- A text is read at a place, behind tokens that can all be read inside the elements of a path. -/
def ReadAt (names : List (List Char)) (path : Path) (tokens before : List Token)
    (content : List Char) : Prop :=
  ∃ token inside, before ++ [token] <+: tokens ∧ Leads path before inside ∧
    endsWith names inside = true ∧
    content? token = some content

/-- What is read last at a place: a text behind which no further one is read, or nothing if none is
read at all. -/
def LastRead (names : List (List Char)) (path : Path) (tokens : List Token) :
    Option (List Char) → Prop
  | none => ∀ before content, ¬ ReadAt names path tokens before content
  | some content =>
    ∃ before, ReadAt names path tokens before content ∧
      ∀ later other, ReadAt names path tokens later other → later.length ≤ before.length

section Reading

variable {names : List (List Char)} {path : Path} {token : Token} {rest before : List Token}
  {content : List Char}

/-- A text at the front is read if it stands at the place. -/
theorem readAt_nil_iff : ReadAt names path (token :: rest) [] content ↔
    endsWith names path = true ∧ content? token = some content := by
  constructor
  · rintro ⟨first, inside, stands, leads, here, meant⟩
    obtain rfl := leads_nil.mp leads
    obtain rfl := (List.cons_prefix_cons.mp stands).1
    exact ⟨here, meant⟩
  · rintro ⟨here, meant⟩
    exact ⟨token, path, List.cons_prefix_cons.mpr ⟨rfl, List.nil_prefix⟩, leads_nil.mpr rfl,
      here, meant⟩

/-- A text further behind is read if the token at the front is. -/
theorem readAt_cons_iff {first : Token} :
    ReadAt names path (token :: rest) (first :: before) content ↔
    first = token ∧ ∃ node inside, nodeOf path token = .ok (node, inside) ∧
      ReadAt names inside rest before content := by
  constructor
  · rintro ⟨next, inside, stands, leads, here, meant⟩
    obtain ⟨rfl, behind⟩ := List.cons_prefix_cons.mp stands
    obtain ⟨node, within, read, leads⟩ := leads_cons.mp leads
    exact ⟨rfl, node, within, read, next, inside, behind, leads, here, meant⟩
  · rintro ⟨rfl, node, within, read, next, inside, stands, leads, here, meant⟩
    exact ⟨next, inside, List.cons_prefix_cons.mpr ⟨rfl, stands⟩,
      leads_cons.mpr ⟨node, within, read, leads⟩, here, meant⟩

/-- The text of a token that can be read is that of its node. -/
theorem textAt_of_nodeOf {node : Node} {inside : Path}
    (read : nodeOf path token = .ok (node, inside)) :
    textAt names node = if endsWith names path then content? token else none := by
  cases token with
  | text raw =>
    rw [nodeOf] at read
    cases spelled : resolve raw with
    | none =>
      rw [spelled] at read
      cases read
    | some content =>
      rw [spelled] at read
      cases read
      rw [textAt, content?, spelled]
  | verbatim content =>
    cases read
    rfl
  | opening name =>
    cases read
    exact (ite_self none).symm
  | closing name =>
    cases path with
    | nil => cases read
    | cons top outer =>
      simp only [nodeOf] at read
      split at read
      next =>
        cases read
        exact (ite_self none).symm
      next => cases read

/-- A text that cannot be read is none. -/
theorem content?_of_fault {fault : Fault} (unread : nodeOf path token = .error fault) :
    content? token = none := by
  cases token with
  | text raw =>
    rw [nodeOf] at unread
    cases spelled : resolve raw with
    | none => rw [content?, spelled]
    | some content =>
      rw [spelled] at unread
      cases unread
  | verbatim content => cases unread
  | opening name => rfl
  | closing name => rfl

/-- Nothing is read of tokens the first of which cannot be read. -/
theorem lastRead_of_fault {fault : Fault} (unread : nodeOf path token = .error fault) :
    LastRead names path (token :: rest) none := by
  intro before content
  cases before with
  | nil =>
    rw [readAt_nil_iff, content?_of_fault unread]
    nofun
  | cons first before =>
    rw [readAt_cons_iff, unread]
    nofun

/-- What is read last is read behind the first token, or else it is the text of this token. -/
theorem LastRead.cons {node : Node} {inside : Path} {found : Option (List Char)}
    (read : nodeOf path token = .ok (node, inside)) (last : LastRead names inside rest found) :
    LastRead names path (token :: rest) (found.or (textAt names node)) := by
  have behind {first : Token} {before : List Token} {content : List Char} :
      ReadAt names path (token :: rest) (first :: before) content →
        ReadAt names inside rest before content := by
    rw [readAt_cons_iff, read]
    rintro ⟨-, _, _, ⟨⟩, later⟩
    exact later
  cases found with
  | some content =>
    obtain ⟨before, stands, most⟩ := last
    refine ⟨token :: before, readAt_cons_iff.mpr ⟨rfl, node, inside, read, stands⟩,
      fun later other further => ?_⟩
    cases later with
    | nil => exact Nat.zero_le _
    | cons first later => exact Nat.succ_le_succ (most later other (behind further))
  | none =>
    rw [Option.none_or, textAt_of_nodeOf read]
    have own (content : List Char) : ReadAt names path (token :: rest) [] content ↔
        (if endsWith names path then content? token else none) = some content := by
      rw [readAt_nil_iff]
      split <;> simp_all
    generalize (if endsWith names path then content? token else none) = first at own
    cases first with
    | none =>
      intro before content stands
      cases before with
      | nil => cases (own content).mp stands
      | cons first before => exact last before content (behind stands)
    | some content =>
      refine ⟨[], (own content).mpr rfl, fun later other further => ?_⟩
      cases later with
      | nil => exact Nat.le_refl _
      | cons first later => exact absurd (behind further) (last later other)

/-- Only one thing is read last at a place. -/
theorem LastRead.unique {tokens : List Token} {found other : Option (List Char)}
    (last : LastRead names path tokens found) (lastToo : LastRead names path tokens other) :
    found = other := by
  cases found with
  | none =>
    cases other with
    | none => rfl
    | some content =>
      obtain ⟨before, stands, -⟩ := lastToo
      exact absurd stands (last before content)
  | some content =>
    obtain ⟨before, stands, most⟩ := last
    cases other with
    | none => exact absurd stands (lastToo before content)
    | some content' =>
      obtain ⟨before', stands', most'⟩ := lastToo
      have level : before.length = before'.length :=
        Nat.le_antisymm (most' before content stands) (most before' content' stands')
      obtain ⟨token, -, front, -, -, meant⟩ := stands
      obtain ⟨token', -, front', -, -, meant'⟩ := stands'
      have same : before ++ [token] = before' ++ [token'] :=
        (List.prefix_of_prefix_length_le front front' (by simp [level])).eq_of_length
          (by simp [level])
      obtain ⟨-, rfl⟩ := List.append_inj' same rfl |>.imp_right List.singleton_inj.mp
      rw [← meant, meant']

/-- The last text at a place is read last there. -/
theorem lastRead_textsAt (path : Path) (tokens : List Token) :
    LastRead names path tokens (textsAt names (nodesFrom path [] tokens).1).getLast? := by
  induction tokens generalizing path with
  | nil =>
    rintro before content ⟨token, inside, stands, -⟩
    simp at stands
  | cons token rest ih =>
    rw [nodesFrom_cons]
    cases read : nodeOf path token with
    | error fault => exact lastRead_of_fault read
    | ok both =>
      obtain ⟨node, inside⟩ := both
      have single : (textAt names node).toList.getLast? = textAt names node := by
        cases textAt names node <;> rfl
      simp only
      rw [nodesFrom_done inside [node], List.reverse_singleton, List.singleton_append, textsAt_cons,
        List.getLast?_append, single]
      exact (ih inside).cons read

/-- What is read last at a place is the last text there. -/
theorem lastRead_iff {tokens : List Token} {found : Option (List Char)} :
    LastRead names path tokens found ↔
      found = (textsAt names (nodesFrom path [] tokens).1).getLast? :=
  ⟨fun read => read.unique (lastRead_textsAt path tokens),
    fun same => same ▸ lastRead_textsAt path tokens⟩

end Reading

/-! ## Texts in written content -/

/-- No element in the content has one of the names, at any depth. -/
def Without (names : List (List Char)) : Content → Prop
  | .text _ => True
  | .aside _ _ rest => Without names rest
  | .closed _ _ rest => Without names rest
  | .element _ tag inside _ rest => tag.name ∉ names ∧ Without names inside ∧ Without names rest

def decideWithout (names : List (List Char)) : ∀ c : Content, Decidable (Without names c)
  | .text _ => .isTrue trivial
  | .aside _ _ rest => decideWithout names rest
  | .closed _ _ rest => decideWithout names rest
  | .element _ tag inside _ rest =>
    have := decideWithout names inside
    have := decideWithout names rest
    inferInstanceAs (Decidable (tag.name ∉ names ∧ Without names inside ∧ Without names rest))

instance (names : List (List Char)) : DecidablePred (Without names) := decideWithout names

section Content

variable {names : List (List Char)} {path : Path}

theorem textsAt_spelled (elsewhere : endsWith names path = false) (s : Spelled) :
    textsAt names (s.nodes path) = [] := by
  rw [Spelled.nodes]
  split
  next => rfl
  next => simp [textsAt, textAt, elsewhere]

/-- An element has the texts of what stands in it. -/
theorem textsAt_element {child : Child} {c : Content} (stands : child.inside = some c) :
    textsAt names (child.nodes path) = textsAt names (c.nodes (child.name :: path)) := by
  rw [Child.nodes_of_some stands, textsAt_cons, textsAt_append]
  simp [textAt, textsAt]

/-- Content that is not at the place has the texts of its elements. -/
theorem textsAt_children (elsewhere : endsWith names path = false) (c : Content) :
    textsAt names (c.nodes path) =
      c.children.flatMap fun child => textsAt names (child.nodes path) := by
  induction c with
  | text last => exact textsAt_spelled elsewhere last
  | aside before piece rest ih =>
    rw [Content.nodes, textsAt_append, textsAt_spelled elsewhere, ih]
    rfl
  | closed before tag rest ih =>
    rw [Content.nodes, textsAt_append, textsAt_spelled elsewhere, ih, Content.children,
      List.flatMap_cons]
    rfl
  | element before tag inside gap rest _ ih =>
    have nodes : (Content.element before tag inside gap rest).nodes path =
        before.nodes path ++ (Child.nodes path ⟨tag.name, some inside⟩ ++ rest.nodes path) := by
      simp [Content.nodes, Child.nodes]
    rw [nodes, textsAt_append, textsAt_append, textsAt_spelled elsewhere, ih, Content.children,
      List.flatMap_cons]
    rfl

/-- A place is not where an element with another name is. -/
theorem endsWith_of_ne {name top : List Char} {outer : List (List Char)} (other : top ≠ name)
    (path : Path) :
    endsWith (name :: outer) (top :: path) = false := by
  simp [endsWith, List.isPrefixOf, Ne.symm other]

/-- Without an element with the innermost name of the place there is no text at the place. -/
theorem textsAt_without {name : List Char} {outer reserved : List (List Char)}
    (innermost : name ∈ reserved)
    {c : Content} (without : Without reserved c)
    (elsewhere : endsWith (name :: outer) path = false) :
    textsAt (name :: outer) (c.nodes path) = [] := by
  induction c generalizing path with
  | text last => exact textsAt_spelled elsewhere last
  | aside before piece rest ih =>
    rw [Content.nodes, textsAt_append, textsAt_spelled elsewhere, ih without elsewhere]
    rfl
  | closed before tag rest ih =>
    rw [Content.nodes, textsAt_append, textsAt_spelled elsewhere, ih without elsewhere]
    rfl
  | element before tag inside gap rest within ih =>
    obtain ⟨other, inner, last⟩ := without
    have inside : endsWith (name :: outer) (tag.name :: path) = false :=
      endsWith_of_ne (ne_of_mem_of_not_mem innermost other).symm path
    rw [Content.nodes, textsAt_append, textsAt_cons, textsAt_append, textsAt_cons,
      textsAt_spelled elsewhere, within inner inside, ih last elsewhere]
    rfl

end Content
end MessageQueue.Answer
