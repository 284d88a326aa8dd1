import MessageQueue.Proofs.Markup.Content
import MessageQueue.Proofs.Markup.Parts

/-!
# Texts in pieces

The character data of an element can be divided: a part of it may stand in a section, and comments
and instructions may stand between the parts (`Division`).  The scanner makes a token of each part
that is there, and of each section even if it is empty (`Division.scan_write`).

So an element that holds nothing but character data has one text node for each piece, and the nodes
in front of these and behind them do not depend on how the data is divided (`nodes_divided`).  This
holds whatever the document is like behind the element.
-/

namespace MessageQueue.Markup

/-- Character data, as it is divided.  A section ends where its end mark begins for the first
time. -/
inductive Division where
  | text (last : Spelled)
  | aside (before : Spelled) (piece : Aside) (rest : Division)
  | verbatim (before : Spelled) (content : List Char) (proper : ¬ [']', ']', '>'] <:+: content)
      (rest : Division)

/-- The piece that a text makes: none, if there is nothing in it. -/
def Spelled.pieces (s : Spelled) : List (List Char) := if s = [] then [] else [s.content]

namespace Division

/-- A section, as it is written. -/
def writeVerbatim (content : List Char) : List Char :=
  ['<', '!'] ++ verbatimMark ++ content ++ [']', ']', '>']

def write : Division → List Char
  | text last => last.write
  | aside before piece rest => before.write ++ piece.write ++ rest.write
  | verbatim before content _ rest => before.write ++ writeVerbatim content ++ rest.write

/-- No number in a reference is too long. -/
def Short : Division → Prop
  | text last => last.Short
  | aside before _ rest => before.Short ∧ rest.Short
  | verbatim before _ _ rest => before.Short ∧ rest.Short

/-- Whether a number in a reference is too long can be told piece by piece. -/
def decideShort : ∀ d : Division, Decidable d.Short
  | text last => inferInstanceAs (Decidable last.Short)
  | aside before _ rest =>
    have := decideShort rest
    inferInstanceAs (Decidable (before.Short ∧ rest.Short))
  | verbatim before _ _ rest =>
    have := decideShort rest
    inferInstanceAs (Decidable (before.Short ∧ rest.Short))

instance : DecidablePred Short := decideShort

/-- The pieces of the character data; together they are all of it. -/
def pieces : Division → List (List Char)
  | text last => last.pieces
  | aside before _ rest => before.pieces ++ rest.pieces
  | verbatim before content _ rest => before.pieces ++ content :: rest.pieces

def tokens : Division → List Token
  | text last => last.tokens
  | aside before _ rest => before.tokens ++ rest.tokens
  | verbatim before content _ rest => before.tokens ++ .verbatim content :: rest.tokens

end Division

/-! ## Scanning sections -/

variable {done : List Char} {found : List Token}

/-- A closing angle bracket in a section does not end it. -/
theorem endDeclaration?_verbatim_inside {front rest : List Char}
    (proper : ¬ [']', ']', '>'] <:+: front ++ '>' :: rest) :
    endDeclaration? .verbatim (front.reverse ++ verbatimMark.reverse) = none := by
  cases front using List.reverseRecOn with
  | nil => rfl
  | append_singleton front last =>
    cases front using List.reverseRecOn with
    | nil =>
      by_cases bracket : last = ']'
      · rw [bracket]
        rfl
      · simp [endDeclaration?, bracket]
    | append_singleton front before =>
      by_cases brackets : last = ']' ∧ before = ']'
      · obtain ⟨rfl, rfl⟩ := brackets
        exact absurd ⟨front, rest, by simp⟩ proper
      · simp only [List.reverse_append, List.reverse_cons, List.reverse_nil, List.nil_append,
          List.cons_append, endDeclaration?]
        split
        next same =>
          simp only [List.cons.injEq] at same
          exact absurd ⟨same.1, same.2.1⟩ brackets
        next => rfl

theorem foldl_verbatim {content front : List Char}
    (proper : ¬ [']', ']', '>'] <:+: front ++ content) :
    content.foldl Scan.step
      ⟨.declaration .verbatim (front.reverse ++ verbatimMark.reverse), found⟩ =
      ⟨.declaration .verbatim ((front ++ content).reverse ++ verbatimMark.reverse), found⟩ := by
  induction content generalizing front with
  | nil => simp
  | cons c content ih =>
    have taken : step (.declaration .verbatim (front.reverse ++ verbatimMark.reverse)) c =
        (.declaration .verbatim ((front ++ [c]).reverse ++ verbatimMark.reverse), none) := by
      rw [List.reverse_append, List.reverse_singleton, List.singleton_append, List.cons_append]
      by_cases bracket : c = '>'
      · subst bracket
        simp only [step, stepDeclaration, endDeclaration?_verbatim_inside proper]
        rfl
      · simp only [step, stepDeclaration, if_neg bracket]
    rw [List.append_cons] at proper
    rw [List.foldl_cons, step_of_none taken, ih proper, ← List.append_cons]

/-- A section completes the text in front of it and stands for its characters. -/
theorem foldl_writeVerbatim {content : List Char} (proper : ¬ [']', ']', '>'] <:+: content) :
    (Division.writeVerbatim content).foldl Scan.step ⟨.text done, found⟩ =
      ⟨.text [], .verbatim content :: (pending done ++ found)⟩ := by
  have begun : (['<', '!'] ++ verbatimMark).foldl Scan.step ⟨.text done, found⟩ =
      ⟨.declaration .verbatim verbatimMark.reverse, pending done ++ found⟩ := by
    rw [List.cons_append, List.foldl_cons, step_bracket]
    rfl
  have scanned : content.foldl Scan.step
      ⟨.declaration .verbatim verbatimMark.reverse, pending done ++ found⟩ =
      ⟨.declaration .verbatim (content.reverse ++ verbatimMark.reverse),
        pending done ++ found⟩ := by
    rw [← List.nil_append content] at proper
    exact foldl_verbatim proper
  have last : endDeclaration? .verbatim (']' :: ']' :: (content.reverse ++ verbatimMark.reverse)) =
      some (.text [], some (.verbatim content)) := by
    have whole : (content.reverse ++ verbatimMark.reverse).reverse = verbatimMark ++ content := by
      simp
    simp only [endDeclaration?, whole]
    rfl
  have ended : [']', ']', '>'].foldl Scan.step
      ⟨.declaration .verbatim (content.reverse ++ verbatimMark.reverse), pending done ++ found⟩ =
        ⟨.text [], .verbatim content :: (pending done ++ found)⟩ := by
    show Scan.step
        ⟨.declaration .verbatim (']' :: ']' :: (content.reverse ++ verbatimMark.reverse)), _⟩ '>' =
        _
    exact step_of_some (by simp [step, stepDeclaration, last])
  rw [Division.writeVerbatim, List.foldl_append, List.foldl_append, begun, scanned, ended]

namespace Division

/-- The scanner is in text behind character data, and once this text is complete it has the tokens
of the data. -/
theorem scan_write (d : Division) (found : List Token) :
    ∃ done before, d.write.foldl Scan.step ⟨.text [], found⟩ = ⟨.text done, before⟩ ∧
      pending done ++ before = d.tokens.reverse ++ found := by
  induction d generalizing found with
  | text last =>
    refine ⟨last.write.reverse, found, last.foldl_write, ?_⟩
    rw [tokens, Spelled.reverse_tokens]
    rfl
  | aside before piece rest ih =>
    obtain ⟨done, others, scanned, same⟩ := ih (before.tokens ++ found)
    refine ⟨done, others, ?_, ?_⟩
    · rw [write, List.foldl_append, List.foldl_append, before.foldl_write, piece.foldl_write]
      exact scanned
    · rw [same, tokens, List.reverse_append, Spelled.reverse_tokens, List.append_assoc]
  | verbatim before content proper rest ih =>
    obtain ⟨done, others, scanned, same⟩ := ih (.verbatim content :: (before.tokens ++ found))
    refine ⟨done, others, ?_, ?_⟩
    · rw [write, List.foldl_append, List.foldl_append, before.foldl_write,
        foldl_writeVerbatim proper]
      exact scanned
    · rw [same, tokens]
      simp

/-! ## The nodes of pieces -/

/-- The tokens of character data have a text node for each piece, and leave the path as it is. -/
theorem nodesFrom_tokens (d : Division) (short : d.Short) (path : Path) (met : List Node)
    (rest : List Token) :
    nodesFrom path met (d.tokens ++ rest) =
      nodesFrom path ((d.pieces.map (.text path)).reverse ++ met) rest := by
  have spelled (s : Spelled) : s.nodes path = s.pieces.map (.text path) := by
    unfold Spelled.nodes Spelled.pieces
    split <;> rfl
  induction d generalizing met rest with
  | text last => rw [tokens, pieces, Content.nodesFrom_spelled short, spelled]
  | aside before piece others ih =>
    rw [tokens, pieces, List.append_assoc, Content.nodesFrom_spelled short.1, ih short.2, spelled]
    simp
  | verbatim before content proper others ih =>
    rw [tokens, pieces, List.append_assoc, Content.nodesFrom_spelled short.1, List.cons_append,
      nodesFrom, ih short.2, spelled]
    simp

end Division

/-! ## Elements with character data -/

/-- Behind these characters of a document a text can stand, inside the elements of a path. -/
def Opens (front : List Char) (path : Path) : Prop :=
  ∃ done found, (withoutMark front).foldl Scan.step .start = ⟨.text done, found⟩ ∧
    Leads [] (pending done ++ found).reverse path

theorem opens_nil : Opens [] [] := ⟨[], [], rfl, rfl⟩

/-- A start tag leads into its element, whatever follows it. -/
theorem Opens.scan_opening {front : List Char} {path : Path} (opens : Opens front path)
    (tag : Tag) :
    ∃ found : List Token, Leads [] found.reverse (tag.name :: path) ∧ ∀ rest : List Char,
      (withoutMark (front ++ (tag.opening ++ rest))).foldl Scan.step .start =
        rest.foldl Scan.step ⟨.text [], found⟩ := by
  obtain ⟨done, found, scanned, leads⟩ := opens
  refine ⟨.opening tag.name :: (pending done ++ found), ?_, fun rest => ?_⟩
  · rw [List.reverse_cons]
    exact leads_append.mpr ⟨path, leads, leads_cons.mpr ⟨_, _, rfl, leads_nil.mpr rfl⟩⟩
  · have unmarked : withoutMark (front ++ (tag.opening ++ rest)) =
        withoutMark front ++ (tag.opening ++ rest) := by
      cases front with
      | nil => exact withoutMark_of_ne (by simp [Tag.opening])
      | cons c front => exact withoutMark_append (List.cons_ne_nil c front) _
    rw [unmarked, List.foldl_append, scanned, List.foldl_append, tag.foldl_opening]

theorem Opens.opening {front : List Char} {path : Path} (opens : Opens front path) (tag : Tag) :
    Opens (front ++ tag.opening) (tag.name :: path) := by
  obtain ⟨found, leads, scanned⟩ := opens.scan_opening tag
  refine ⟨[], found, ?_, leads⟩
  have behind := scanned []
  rwa [List.append_nil] at behind

/-- The start tags of elements, each in the one before. -/
def openings (tags : List Tag) : List Char := tags.flatMap Tag.opening

theorem opens_openings (tags : List Tag) : Opens (openings tags) (tags.reverse.map Tag.name) := by
  induction tags using List.reverseRecOn with
  | nil => exact opens_nil
  | append_singleton tags tag ih =>
    have opens := ih.opening tag
    rw [openings, List.flatMap_append, List.flatMap_singleton, List.reverse_concat, List.map_cons]
    exact opens

/-- A document in which an element with divided character data stands. -/
def divided (front : List Char) (tag : Tag) (d : Division) (gap : Blanks) (back : List Char) :
    String :=
  String.ofList (front ++ (tag.opening ++ (d.write ++ (tag.ending gap ++ back))))

/-- The tokens around an element do not depend on the character data in it. -/
theorem tokens_divided {front : List Char} {path : Path} (opens : Opens front path) (tag : Tag)
    (gap : Blanks) (back : List Char) :
    ∃ opening rest fault, Leads [] opening (tag.name :: path) ∧ ∀ d : Division,
      tokens (divided front tag d gap back).toList = (opening ++ (d.tokens ++ rest), fault) := by
  obtain ⟨found, leads, scanned⟩ := opens.scan_opening tag
  let behind := pass (.text []) back
  refine ⟨found.reverse, .closing tag.name :: (behind.2 ++ (finish behind.1).1.toList),
    (finish behind.1).2, leads, fun d => ?_⟩
  obtain ⟨last, inside, read, complete⟩ := d.scan_write found
  rw [divided, String.toList_ofList, tokens, scanned, List.foldl_append, read, List.foldl_append,
    tag.foldl_ending, complete, foldl_step, finish_eq]
  simp [behind]

/-- An element with divided character data has one text node for each piece, and the nodes around
these are always the same. -/
theorem nodes_divided {front : List Char} {path : Path} (opens : Opens front path) (tag : Tag)
    (gap : Blanks) (back : List Char) : ∃ before behind fault, ∀ d : Division, d.Short →
      nodes (divided front tag d gap back) =
        (before ++ (d.pieces.map (.text (tag.name :: path)) ++ behind), fault) := by
  obtain ⟨opening, rest, fault, leads, scanned⟩ := tokens_divided opens tag gap back
  let behind := nodesFrom (tag.name :: path) [] rest
  refine ⟨(nodesFrom [] [] opening).1, behind.1, behind.2.or fault, fun d short => ?_⟩
  rw [nodes_eq, scanned]
  simp only
  rw [nodesFrom_append leads, d.nodesFrom_tokens short, List.append_nil,
    nodesFrom_done (tag.name :: path) _ rest, List.reverse_reverse]

end MessageQueue.Markup
