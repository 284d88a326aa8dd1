import MessageQueue.Markup.Node
import MessageQueue.Proofs.Markup.Spelling
import Mathlib.Data.List.Infix

/-!
# Documents and their nodes

What stands in an element, or in a document as a whole, is a text, or a text that is followed by a
comment, an instruction or an element and by what stands behind it (`Content`).  Elements are
written with a start tag and an end tag, or closed in their own tag.

Written content is scanned into its tokens (`Content.scan_write`), because a piece of markup brings
the scanner back to text and completes the text in front of it.  The tokens have the nodes of the
content (`Content.nodesFrom_tokens`).  So the nodes of a document that is written are those of its
content, and nothing makes it unreadable (`nodes_write`).
-/

namespace MessageQueue.Markup

/-! ## Tags -/

/-- A character that can stand in a name. -/
def NameChar (c : Char) : Prop :=
  isSpace c = false ∧ c ∉ ['<', '>', '/', '!', '?', '=', '&', '"', '\x27']

instance : DecidablePred NameChar := fun _ => inferInstanceAs (Decidable (_ ∧ _))

/-- The quotes in a tag are closed, and outside of them there is no slash and no closing angle
bracket.  The quote that is open is given. -/
def Balanced : Option Char → List Char → Prop
  | none, [] => True
  | some _, [] => False
  | none, c :: rest =>
    c ≠ '>' ∧ c ≠ '/' ∧ Balanced (if c = '"' ∨ c = '\x27' then some c else none) rest
  | some q, c :: rest => Balanced (if c = q then none else some q) rest

/-- The name and the attributes of an element, as they stand in its start tag. -/
structure Tag where
  name : List Char
  attributes : List Char
  filled : name ≠ []
  named : ∀ c ∈ name, NameChar c
  /-- A blank is between the name and the attributes. -/
  apart : ∀ c ∈ attributes.head?, isSpace c = true
  balanced : Balanced none attributes

/-- Characters that separate the parts of a tag. -/
structure Blanks where
  text : List Char
  blank : ∀ c ∈ text, isSpace c = true

namespace Tag

/-- What stands between the angle brackets of a start tag. -/
def text (t : Tag) : List Char := t.name ++ t.attributes

def opening (t : Tag) : List Char := '<' :: t.text ++ ['>']

/-- An element that is closed in its own tag. -/
def closed (t : Tag) : List Char := '<' :: t.text ++ ['/', '>']

def ending (t : Tag) (gap : Blanks) : List Char := '<' :: '/' :: (t.name ++ gap.text) ++ ['>']

end Tag

/-- A comment or an instruction. -/
inductive Aside where
  /-- Two hyphens end a comment, and no hyphen stands in front of them. -/
  | comment (content : List Char) (proper : ¬ ['-', '-'] <:+: content ++ ['-'])
  | instruction (content : List Char) (filled : content ≠ []) (proper : '>' ∉ content)

def Aside.write : Aside → List Char
  | comment content _ => ['<', '!', '-', '-'] ++ content ++ ['-', '-', '>']
  | instruction content _ _ => ['<', '?'] ++ content ++ ['?', '>']

/-! ## Content -/

/-- What stands in an element.  Everything but the last text is followed by further content. -/
inductive Content where
  | text (last : Spelled)
  | aside (before : Spelled) (piece : Aside) (rest : Content)
  | closed (before : Spelled) (tag : Tag) (rest : Content)
  | element (before : Spelled) (tag : Tag) (inside : Content) (gap : Blanks) (rest : Content)

/-- An element that stands in content.  In one that is closed in its own tag there is nothing. -/
structure Child where
  name : List Char
  inside : Option Content

/-- The token of a text, whose characters are given last first. -/
def pending (done : List Char) : List Token := if done = [] then [] else [.text done.reverse]

namespace Spelled

def tokens (s : Spelled) : List Token := pending s.write.reverse

def nodes (path : Path) (s : Spelled) : List Node := if s = [] then [] else [.text path s.content]

end Spelled

namespace Content

def write : Content → List Char
  | text last => last.write
  | aside before piece rest => before.write ++ piece.write ++ rest.write
  | closed before tag rest => before.write ++ tag.closed ++ rest.write
  | element before tag inside gap rest =>
    before.write ++ tag.opening ++ inside.write ++ tag.ending gap ++ rest.write

/-- No number in a reference is too long. -/
def Short : Content → Prop
  | text last => last.Short
  | aside before _ rest => before.Short ∧ rest.Short
  | closed before _ rest => before.Short ∧ rest.Short
  | element before _ inside _ rest => before.Short ∧ inside.Short ∧ rest.Short

/-- Whether a number in a reference is too long can be told piece by piece. -/
def decideShort : ∀ c : Content, Decidable c.Short
  | text last => inferInstanceAs (Decidable last.Short)
  | aside before _ rest =>
    have := decideShort rest
    inferInstanceAs (Decidable (before.Short ∧ rest.Short))
  | closed before _ rest =>
    have := decideShort rest
    inferInstanceAs (Decidable (before.Short ∧ rest.Short))
  | element before _ inside _ rest =>
    have := decideShort inside
    have := decideShort rest
    inferInstanceAs (Decidable (before.Short ∧ inside.Short ∧ rest.Short))

instance : DecidablePred Short := decideShort

/-- The elements that stand directly in content. -/
def children : Content → List Child
  | text _ => []
  | aside _ _ rest => rest.children
  | closed _ tag rest => ⟨tag.name, none⟩ :: rest.children
  | element _ tag inside _ rest => ⟨tag.name, some inside⟩ :: rest.children

def tokens : Content → List Token
  | text last => last.tokens
  | aside before _ rest => before.tokens ++ rest.tokens
  | closed before _ rest => before.tokens ++ rest.tokens
  | element before tag inside _ rest =>
    before.tokens ++ .opening tag.name :: (inside.tokens ++ .closing tag.name :: rest.tokens)

/-- The nodes of content that stands inside the elements of a path. -/
def nodes (path : Path) : Content → List Node
  | text last => last.nodes path
  | aside before _ rest => before.nodes path ++ nodes path rest
  | closed before _ rest => before.nodes path ++ nodes path rest
  | element before tag inside _ rest =>
    before.nodes path ++ .opened (tag.name :: path) ::
      (nodes (tag.name :: path) inside ++ .closed (tag.name :: path) :: nodes path rest)

end Content

/-- The nodes of an element that stands inside the elements of a path. -/
def Child.nodes (path : Path) (child : Child) : List Node :=
  match child.inside with
  | some c =>
    .opened (child.name :: path) :: c.nodes (child.name :: path) ++ [.closed (child.name :: path)]
  | none => []

/-- There is one token at most. -/
@[simp] theorem reverse_pending (done : List Char) : (pending done).reverse = pending done := by
  unfold pending
  split <;> rfl

@[simp] theorem Spelled.reverse_tokens (s : Spelled) : s.tokens.reverse = s.tokens :=
  reverse_pending _

theorem Child.nodes_of_some {child : Child} {c : Content} (stands : child.inside = some c)
    (path : Path) :
    child.nodes path =
      .opened (child.name :: path) ::
        (c.nodes (child.name :: path) ++ [.closed (child.name :: path)]) := by
  rw [nodes, stands]
  rfl

theorem Child.nodes_of_none {child : Child} (empty : child.inside = none) (path : Path) :
    child.nodes path = [] := by
  rw [nodes, empty]

/-! ## Scanning tags -/

variable {done : List Char} {found : List Token}

theorem step_of_none {mode next : Mode} {c : Char} (taken : step mode c = (next, none)) :
    Scan.step ⟨mode, found⟩ c = ⟨next, found⟩ := by
  rw [Scan.step, taken]

theorem step_of_some {mode next : Mode} {c : Char} {token : Token}
    (taken : step mode c = (next, some token)) :
    Scan.step ⟨mode, found⟩ c = ⟨next, token :: found⟩ := by
  rw [Scan.step, taken]

/-- An opening angle bracket completes the text in front of it. -/
theorem step_bracket : Scan.step ⟨.text done, found⟩ '<' = ⟨.opened, pending done ++ found⟩ := by
  cases done <;> rfl

/-- Characters are collected up to the one that the scanner stops at. -/
theorem foldl_collect {mode : List Char → Mode} {stop : Char}
    (taken : ∀ done c, c ≠ stop → step (mode done) c = (mode (c :: done), none)) {chars : List Char}
    (plain : stop ∉ chars) :
    chars.foldl Scan.step ⟨mode done, found⟩ = ⟨mode (chars.reverse ++ done), found⟩ := by
  induction chars generalizing done with
  | nil => rfl
  | cons c chars ih =>
    rw [List.mem_cons, not_or] at plain
    rw [List.foldl_cons, step_of_none (taken done c (Ne.symm plain.1)), ih plain.2,
      List.reverse_cons, List.append_assoc]
    rfl

theorem foldl_tag {chars : List Char} {quote : Option Char} (balanced : Balanced quote chars) :
    chars.foldl Scan.step ⟨.tag quote done, found⟩ =
      ⟨.tag none (chars.reverse ++ done), found⟩ := by
  induction chars generalizing quote done with
  | nil =>
    cases quote with
    | none => rfl
    | some q => cases balanced
  | cons c chars ih =>
    rw [List.foldl_cons, List.reverse_cons, List.append_assoc]
    cases quote with
    | none =>
      obtain ⟨more, -, rest⟩ := balanced
      have taken : step (.tag none done) c =
          (.tag (if c = '"' ∨ c = '\x27' then some c else none) (c :: done), none) := by
        simp only [step, stepTag, if_neg more]
        split <;> rfl
      rw [step_of_none taken, ih rest]
      rfl
    | some q =>
      have taken : step (.tag (some q) done) c =
          (.tag (if c = q then none else some q) (c :: done), none) := rfl
      rw [step_of_none taken, ih balanced]
      rfl

theorem NameChar.ne {c d : Char} (named : NameChar c)
    (other : d ∈ ['<', '>', '/', '!', '?', '=', '&', '"', '\x27']) : c ≠ d := by
  rintro rfl
  exact named.2 other

theorem balanced_append {name attributes : List Char} (named : ∀ c ∈ name, NameChar c)
    (balanced : Balanced none attributes) : Balanced none (name ++ attributes) := by
  induction name with
  | nil => exact balanced
  | cons c name ih =>
    obtain ⟨first, others⟩ := List.forall_mem_cons.mp named
    have quote : ¬ (c = '"' ∨ c = '\x27') := by
      rw [not_or]
      exact ⟨first.ne (by decide), first.ne (by decide)⟩
    refine ⟨first.ne (by decide), first.ne (by decide), ?_⟩
    rw [if_neg quote]
    exact ih others

namespace Tag

theorem foldl_text (t : Tag) :
    t.text.foldl Scan.step ⟨.opened, found⟩ = ⟨.tag none t.text.reverse, found⟩ := by
  obtain ⟨c, name, spelled⟩ := List.exists_cons_of_ne_nil t.filled
  have named := t.named
  rw [spelled] at named
  obtain ⟨first, others⟩ := List.forall_mem_cons.mp named
  have taken : step .opened c = (.tag none [c], none) := by
    have mark : c ≠ '!' := first.ne (by decide)
    have slash : c ≠ '/' := first.ne (by decide)
    have question : c ≠ '?' := first.ne (by decide)
    have bracket : c ≠ '>' := first.ne (by decide)
    have double : c ≠ '"' := first.ne (by decide)
    have single : c ≠ '\x27' := first.ne (by decide)
    simp [step, stepTag, mark, slash, question, bracket, double, single]
  rw [text, spelled, List.cons_append, List.foldl_cons, step_of_none taken,
    foldl_tag (balanced_append others t.balanced), List.reverse_cons]

theorem last_ne_slash {chars : List Char} {quote : Option Char} (balanced : Balanced quote chars)
    (mark : ∀ q ∈ quote, q ≠ '/') : chars.getLast? ≠ some '/' := by
  induction chars generalizing quote with
  | nil => nofun
  | cons c chars ih =>
    cases quote with
    | none =>
      obtain ⟨-, slash, rest⟩ := balanced
      have next : ∀ q ∈ (if c = '"' ∨ c = '\x27' then some c else none), q ≠ '/' := by
        split
        next =>
          rintro q ⟨⟩
          exact slash
        next => nofun
      cases chars with
      | nil => simpa using slash
      | cons d chars => simpa using ih rest next
    | some q =>
      have slash : q ≠ '/' := mark q rfl
      have next : ∀ d ∈ (if c = q then none else some q), d ≠ '/' := by
        split
        next => nofun
        next => exact mark
      cases chars with
      | nil =>
        -- The last character closes the quotes.
        have closes : c = q := by
          by_contra other
          simp [Balanced, other] at balanced
        simpa [closes] using slash
      | cons d chars => simpa using ih balanced next

/-- The name of an element is what is read of its start tag. -/
theorem tagToken_text (t : Tag) : tagToken t.text.reverse = some (.opening t.name) := by
  have last := last_ne_slash (balanced_append t.named t.balanced) (by nofun)
  have name : t.text.takeWhile (fun c => !isSpace c) = t.name := by
    have whole : ∀ c ∈ t.name, (!isSpace c) = true := by
      intro c member
      rw [(t.named c member).1]
      rfl
    have stop : t.attributes.takeWhile (fun c => !isSpace c) = [] := by
      have apart := t.apart
      cases attributes : t.attributes with
      | nil => rfl
      | cons c rest =>
        rw [attributes] at apart
        simp [apart c rfl]
    rw [text, List.takeWhile_append_of_pos whole, stop, List.append_nil]
  unfold tagToken
  split
  next rest slash =>
    rw [List.reverse_eq_cons_iff] at slash
    exact absurd (by rw [← text, slash, List.getLast?_concat]) last
  next => rw [List.reverse_reverse, name]

/-- A start tag completes the text in front of it and opens an element. -/
theorem foldl_opening (t : Tag) :
    t.opening.foldl Scan.step ⟨.text done, found⟩ =
      ⟨.text [], .opening t.name :: (pending done ++ found)⟩ := by
  have taken : step (.tag none t.text.reverse) '>' = (.text [], some (.opening t.name)) := by
    rw [← t.tagToken_text]
    rfl
  rw [opening, List.cons_append, List.foldl_cons, step_bracket, List.foldl_append, t.foldl_text]
  exact step_of_some taken

/-- An element that is closed in its own tag leaves nothing. -/
theorem foldl_closed (t : Tag) :
    t.closed.foldl Scan.step ⟨.text done, found⟩ = ⟨.text [], pending done ++ found⟩ := by
  rw [closed, List.cons_append, List.foldl_cons, step_bracket, List.foldl_append, t.foldl_text]
  rfl

/-- Blanks in an end tag are no part of the name. -/
theorem withoutSpace_name (t : Tag) (gap : Blanks) :
    withoutSpace (t.name ++ gap.text) = t.name := by
  have trimmed : ((t.name ++ gap.text).reverse.dropWhile isSpace).reverse = t.name := by
    obtain ⟨front, last, spelled⟩ := List.eq_nil_or_concat t.name |>.resolve_left t.filled
    have solid : isSpace last = false := (t.named last (by simp [spelled])).1
    have blank : ∀ c ∈ gap.text.reverse, isSpace c = true :=
      fun c member => gap.blank c (List.mem_reverse.mp member)
    rw [List.reverse_append, List.dropWhile_append_of_pos blank, spelled]
    simp [solid]
  rw [withoutSpace, trimmed, if_neg t.filled]

theorem foldl_ending (t : Tag) (gap : Blanks) :
    (t.ending gap).foldl Scan.step ⟨.text done, found⟩ =
      ⟨.text [], .closing t.name :: (pending done ++ found)⟩ := by
  have inside : '>' ∉ t.name ++ gap.text := by
    intro member
    rcases List.mem_append.mp member with named | blank
    · exact (t.named _ named).ne (by decide) rfl
    · exact absurd (gap.blank _ blank) (by decide)
  have token : endToken (t.name ++ gap.text).reverse = .closing t.name := by
    rw [endToken, List.reverse_reverse, t.withoutSpace_name]
  have taken : step (.endTag (t.name ++ gap.text).reverse) '>' =
      (.text [], some (.closing t.name)) := by
    rw [← token]
    rfl
  have slash : Scan.step ⟨.opened, pending done ++ found⟩ '/' =
      ⟨.endTag [], pending done ++ found⟩ := rfl
  rw [ending, List.cons_append, List.foldl_cons, step_bracket, List.cons_append,
    List.foldl_cons, slash, List.foldl_append,
    foldl_collect (fun done c other => by simp [step, other]) inside, List.append_nil]
  exact step_of_some taken

end Tag

/-! ## Scanning comments and instructions -/

/-- A closing angle bracket in a comment does not end it. -/
theorem endDeclaration?_inside {front : List Char} (proper : ¬ ['-', '-'] <:+: front) :
    endDeclaration? .comment (front.reverse ++ ['-', '-']) = none := by
  cases front using List.reverseRecOn with
  | nil => rfl
  | append_singleton front last =>
    cases front using List.reverseRecOn with
    | nil =>
      by_cases hyphen : last = '-'
      · rw [hyphen]
        rfl
      · simp [endDeclaration?, hyphen]
    | append_singleton front before =>
      by_cases hyphens : last = '-' ∧ before = '-'
      · obtain ⟨rfl, rfl⟩ := hyphens
        exact absurd ⟨front, [], by simp⟩ proper
      · simp only [List.reverse_append, List.reverse_cons, List.reverse_nil, List.nil_append,
          List.cons_append, endDeclaration?]
        split
        next same =>
          simp only [List.cons.injEq] at same
          exact absurd ⟨same.1, same.2.1⟩ hyphens
        next => rfl

theorem foldl_comment {content front : List Char} (proper : ¬ ['-', '-'] <:+: front ++ content) :
    content.foldl Scan.step ⟨.declaration .comment (front.reverse ++ ['-', '-']), found⟩ =
      ⟨.declaration .comment ((front ++ content).reverse ++ ['-', '-']), found⟩ := by
  induction content generalizing front with
  | nil => simp
  | cons c content ih =>
    have taken : step (.declaration .comment (front.reverse ++ ['-', '-'])) c =
        (.declaration .comment ((front ++ [c]).reverse ++ ['-', '-']), none) := by
      have within : ¬ ['-', '-'] <:+: front :=
        fun part => proper (part.trans (List.prefix_append _ _).isInfix)
      rw [List.reverse_append, List.reverse_singleton, List.singleton_append, List.cons_append]
      simp only [step, stepDeclaration, endDeclaration?_inside within]
      split <;> rfl
    rw [List.append_cons] at proper
    rw [List.foldl_cons, step_of_none taken, ih proper, ← List.append_cons]

/-- A comment or an instruction leaves nothing. -/
theorem Aside.foldl_write (piece : Aside) :
    piece.write.foldl Scan.step ⟨.text done, found⟩ = ⟨.text [], pending done ++ found⟩ := by
  cases piece with
  | comment content proper =>
    have within : ¬ ['-', '-'] <:+: [] ++ content :=
      fun part => proper (part.trans (List.prefix_append _ _).isInfix)
    have begun : ['<', '!', '-', '-'].foldl Scan.step ⟨.text done, found⟩ =
        ⟨.declaration .comment ['-', '-'], pending done ++ found⟩ := by
      rw [List.foldl_cons, step_bracket]
      rfl
    have last : endDeclaration? .comment ('-' :: '-' :: (content.reverse ++ ['-', '-'])) =
        some (.text [], none) := by
      simp [endDeclaration?]
    have ended : ['-', '-', '>'].foldl Scan.step
        ⟨.declaration .comment (content.reverse ++ ['-', '-']), pending done ++ found⟩ =
          ⟨.text [], pending done ++ found⟩ := by
      show Scan.step ⟨.declaration .comment ('-' :: '-' :: (content.reverse ++ ['-', '-'])), _⟩
          '>' = _
      exact step_of_none (by simp [step, stepDeclaration, last])
    have scanned : content.foldl Scan.step
        ⟨.declaration .comment ['-', '-'], pending done ++ found⟩ =
        ⟨.declaration .comment (content.reverse ++ ['-', '-']), pending done ++ found⟩ :=
      foldl_comment within
    rw [write, List.foldl_append, List.foldl_append, begun, scanned, ended]
  | instruction content filled proper =>
    have last : afterInstruction ('?' :: content.reverse) = .text [] := by
      obtain ⟨c, front, spelled⟩ := List.exists_cons_of_ne_nil (List.reverse_ne_nil_iff.mpr filled)
      rw [spelled]
      rfl
    have begun : ['<', '?'].foldl Scan.step ⟨.text done, found⟩ =
        ⟨.instruction [], pending done ++ found⟩ := by
      rw [List.foldl_cons, step_bracket]
      rfl
    have ended : ['?', '>'].foldl Scan.step ⟨.instruction content.reverse, pending done ++ found⟩ =
        ⟨.text [], pending done ++ found⟩ := by
      show Scan.step ⟨.instruction ('?' :: content.reverse), pending done ++ found⟩ '>' = _
      exact step_of_none (by simp [step, last])
    rw [write, List.foldl_append, List.foldl_append, begun,
      foldl_collect (fun done c other => by simp [step, other]) proper, List.append_nil, ended]

/-! ## Scanning content -/

theorem Spelled.foldl_write (s : Spelled) :
    s.write.foldl Scan.step ⟨.text [], found⟩ = ⟨.text s.write.reverse, found⟩ := by
  rw [foldl_collect (fun done c other => by simp [step, other]) s.not_mem_write, List.append_nil]

namespace Content

/-- The scanner is in text behind content, and once this text is complete it has the tokens of the
content. -/
theorem scan_write (c : Content) (found : List Token) :
    ∃ done before, c.write.foldl Scan.step ⟨.text [], found⟩ = ⟨.text done, before⟩ ∧
      pending done ++ before = c.tokens.reverse ++ found := by
  induction c generalizing found with
  | text last =>
    refine ⟨last.write.reverse, found, last.foldl_write, ?_⟩
    rw [tokens, Spelled.reverse_tokens]
    rfl
  | aside before piece rest ih =>
    obtain ⟨done, others, scanned, same⟩ := ih (before.tokens ++ found)
    refine ⟨done, others, ?_, ?_⟩
    · rw [write, List.foldl_append, List.foldl_append, before.foldl_write, piece.foldl_write]
      exact scanned
    · rw [same, tokens, List.reverse_append, Spelled.reverse_tokens, List.append_assoc]
  | closed before tag rest ih =>
    obtain ⟨done, others, scanned, same⟩ := ih (before.tokens ++ found)
    refine ⟨done, others, ?_, ?_⟩
    · rw [write, List.foldl_append, List.foldl_append, before.foldl_write, tag.foldl_closed]
      exact scanned
    · rw [same, tokens, List.reverse_append, Spelled.reverse_tokens, List.append_assoc]
  | element before tag inside gap rest within ih =>
    obtain ⟨inner, opened, scanned, same⟩ := within (.opening tag.name :: (before.tokens ++ found))
    obtain ⟨done, others, finished, complete⟩ :=
      ih (.closing tag.name ::
        (inside.tokens.reverse ++ .opening tag.name :: (before.tokens ++ found)))
    refine ⟨done, others, ?_, ?_⟩
    · rw [write, List.foldl_append, List.foldl_append, List.foldl_append, List.foldl_append,
        before.foldl_write, tag.foldl_opening]
      rw [← Spelled.tokens, scanned, tag.foldl_ending, same]
      exact finished
    · rw [complete, tokens]
      simp

/-! ## The nodes of content -/

theorem nodesFrom_spelled {s : Spelled} (short : s.Short) (path : Path) (met : List Node)
    (rest : List Token) :
    nodesFrom path met (s.tokens ++ rest) =
      nodesFrom path ((s.nodes path).reverse ++ met) rest := by
  by_cases empty : s = []
  · subst empty
    rfl
  · have written : s.write.reverse ≠ [] :=
      fun blank => empty (s.write_eq_nil_iff.mp (List.reverse_eq_nil_iff.mp blank))
    have token : s.tokens = [.text s.write] := by
      rw [Spelled.tokens, pending, if_neg written, List.reverse_reverse]
    have node : s.nodes path = [.text path s.content] := by rw [Spelled.nodes, if_neg empty]
    rw [token, node, List.singleton_append, nodesFrom, s.resolve_write short]
    rfl

/-- The tokens of content have its nodes, and leave the path as it is. -/
theorem nodesFrom_tokens (c : Content) (short : c.Short) (path : Path) (met : List Node)
    (rest : List Token) :
    nodesFrom path met (c.tokens ++ rest) =
      nodesFrom path ((c.nodes path).reverse ++ met) rest := by
  induction c generalizing path met rest with
  | text last => exact nodesFrom_spelled short path met rest
  | aside before piece others ih =>
    rw [tokens, nodes, List.append_assoc, nodesFrom_spelled short.1, ih short.2,
      List.reverse_append, List.append_assoc]
  | closed before tag others ih =>
    rw [tokens, nodes, List.append_assoc, nodesFrom_spelled short.1, ih short.2,
      List.reverse_append, List.append_assoc]
  | element before tag inside gap others within ih =>
    obtain ⟨first, inner, last⟩ := short
    rw [tokens, nodes, List.append_assoc, nodesFrom_spelled first, List.cons_append, nodesFrom,
      List.append_assoc, within inner, List.cons_append, nodesFrom, if_pos rfl, ih last]
    simp

end Content

/-! ## Documents -/

theorem withoutMark_of_ne {chars : List Char} (other : chars.head? ≠ some '\uFEFF') :
    withoutMark chars = chars := by
  unfold withoutMark
  split
  next => exact absurd rfl other
  next => rfl

/-- The text without a byte order mark at its beginning. -/
def Spelled.unmarked : Spelled → Spelled
  | .plain c ordinary :: rest => if c = '\uFEFF' then rest else .plain c ordinary :: rest
  | s => s

theorem Spelled.withoutMark_write (s : Spelled) {rest : List Char}
    (next : rest.head? ≠ some '\uFEFF') :
    withoutMark (s.write ++ rest) = s.unmarked.write ++ rest := by
  cases s with
  | nil => exact withoutMark_of_ne next
  | cons letter others =>
    cases letter with
    | plain c ordinary =>
      by_cases mark : c = '\uFEFF'
      · subst mark
        rfl
      · rw [unmarked, if_neg mark]
        exact withoutMark_of_ne (by simpa [write, Letter.write] using mark)
    | named entity => rfl
    | decimal c digits number positive => rfl
    | hexadecimal c digits number positive => rfl

theorem Spelled.short_unmarked {s : Spelled} (short : s.Short) : s.unmarked.Short := by
  cases s with
  | nil => exact short
  | cons letter others =>
    obtain ⟨-, rest⟩ := List.forall_mem_cons.mp short
    cases letter with
    | plain c ordinary =>
      by_cases mark : c = '\uFEFF'
      · subst mark
        exact rest
      · rw [unmarked, if_neg mark]
        exact short
    | named entity => exact short
    | decimal c digits number positive => exact short
    | hexadecimal c digits number positive => exact short

namespace Content

/-- The content without a byte order mark at its beginning. -/
def unmarked : Content → Content
  | text last => text last.unmarked
  | aside before piece rest => aside before.unmarked piece rest
  | closed before tag rest => closed before.unmarked tag rest
  | element before tag inside gap rest => element before.unmarked tag inside gap rest

theorem children_unmarked (c : Content) : c.unmarked.children = c.children := by cases c <;> rfl

theorem withoutMark_write (c : Content) : withoutMark c.write = c.unmarked.write := by
  cases c with
  | text last =>
    have written : withoutMark (last.write ++ []) = last.unmarked.write ++ [] :=
      last.withoutMark_write nofun
    rwa [List.append_nil, List.append_nil] at written
  | aside before piece rest =>
    rw [unmarked, write, write, List.append_assoc, List.append_assoc]
    exact before.withoutMark_write (by cases piece <;> simp [Aside.write])
  | closed before tag rest =>
    rw [unmarked, write, write, List.append_assoc, List.append_assoc]
    exact before.withoutMark_write (by simp [Tag.closed])
  | element before tag inside gap rest =>
    rw [unmarked, write, write]
    simp only [List.append_assoc]
    exact before.withoutMark_write (by simp [Tag.opening])

theorem short_unmarked {c : Content} (short : c.Short) : c.unmarked.Short := by
  cases c with
  | text last => exact Spelled.short_unmarked short
  | aside before piece rest => exact ⟨Spelled.short_unmarked short.1, short.2⟩
  | closed before tag rest => exact ⟨Spelled.short_unmarked short.1, short.2⟩
  | element before tag inside gap rest => exact ⟨Spelled.short_unmarked short.1, short.2⟩

end Content

/-- A document that is written is read to its end.  Its nodes are those of the content, of which a
byte order mark at the beginning is no part. -/
theorem nodes_write (c : Content) (short : c.Short) :
    nodes (String.ofList c.write) = (c.unmarked.nodes [], none) := by
  obtain ⟨done, before, scanned, complete⟩ := c.unmarked.scan_write []
  have finished : tokens c.write = (c.unmarked.tokens, none) := by
    have last : (⟨.text done, before⟩ : Scan).finish =
        ((pending done ++ before).reverse, none) := by
      cases done <;> rfl
    rw [tokens, c.withoutMark_write, Scan.start, scanned, last, complete, List.append_nil,
      List.reverse_reverse]
  have met := c.unmarked.nodesFrom_tokens (c.short_unmarked short) [] [] []
  rw [List.append_nil, List.append_nil, nodesFrom, List.reverse_reverse] at met
  rw [nodes, String.toList_ofList, finished]
  simp only [met]

end MessageQueue.Markup
