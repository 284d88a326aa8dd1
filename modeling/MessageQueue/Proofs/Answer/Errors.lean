import MessageQueue.Proofs.Answer.Places
import MessageQueue.Proofs.Answer.Rendering

/-!
# Errors are read as far as they go

An answer that reports an error is never refused.  Its code and its message are the last texts at
their places that are read before the first fault.

A document that shows an error has one text at each of the two places (`ShowsError.textsAt_eq`), and
all of its elements are closed in the end.  A text at one of the places further behind would stand
in an element of the name `Error` that begins there, and the start tag of that element would be
found in the text (`lastText_append`).  So whatever follows the document changes nothing without
such a tag, be it markup or not.
-/

namespace MessageQueue.Answer

open MessageQueue.Markup

/-! ## What follows a document -/

section Behind

variable {names : List (List Char)} {name : List Char} {path : Path}

/-- Without a start tag of an element of the place no text at the place is met outside of such
elements. -/
theorem textsAt_of_absent (part : name ∈ names) {tokens : List Token} (outside : name ∉ path)
    (absent : .opening name ∉ tokens) : textsAt names (nodesFrom path [] tokens).1 = [] := by
  induction tokens generalizing path with
  | nil => rfl
  | cons token rest ih =>
    rw [List.mem_cons, not_or] at absent
    rw [nodesFrom_cons]
    cases read : nodeOf path token with
    | error fault => rfl
    | ok both =>
      obtain ⟨node, next⟩ := both
      have elsewhere : ¬ endsWith names path = true := fun here =>
        outside ((List.isPrefixOf_iff_prefix.mp here).subset part)
      have kept : name ∉ next := by
        cases token with
        | text raw =>
          rw [nodeOf] at read
          cases spelled : resolve raw <;> rw [spelled] at read <;> cases read
          exact outside
        | verbatim content =>
          cases read
          exact outside
        | opening other =>
          cases read
          rw [List.mem_cons, not_or]
          exact ⟨fun same => absent.1 (same ▸ rfl), outside⟩
        | closing other =>
          cases path with
          | nil => cases read
          | cons top outer =>
            simp only [nodeOf] at read
            split at read <;> cases read
            exact fun member => outside (List.mem_cons_of_mem _ member)
      simp only
      rw [nodesFrom_done next [node], List.reverse_singleton, List.singleton_append, textsAt_cons,
        textAt_of_nodeOf read, if_neg elsewhere, ih kept absent.2]
      rfl

/-- What stands behind a complete document does not change the last text at a place, if no element
of the place begins there. -/
theorem lastText_append (part : name ∈ names) {text rest done : List Char} {found : List Token}
    (filled : text ≠ [])
    (scanned : pass (.text []) (withoutMark text) = (.text done, found)) (leads : Leads [] found [])
    (absent : ¬ '<' :: name <:+: rest) :
    lastText names (nodes (String.ofList (text ++ rest))).1 =
      lastText names (nodes (String.ofList text)).1 := by
  have tokens (more : List Char) :
      (tokens (text ++ more)).1 = found ++ tokensFrom (.text done) more := by
    rw [tokens_eq, withoutMark_append filled, tokensFrom_append, scanned]
  have texts (more : List Char) (absent : ¬ '<' :: name <:+: more) :
      textsAt names (nodes (String.ofList (text ++ more))).1 =
        textsAt names (nodesFrom [] [] found).1 := by
    have free : .opening name ∉ tokensFrom (.text done) more :=
      fun member => absent (infix_of_opening member)
    rw [nodes_eq, String.toList_ofList, tokens, nodesFrom_append leads, textsAt_append,
      textsAt_of_absent part List.not_mem_nil free, List.append_nil]
  have alone := texts [] (by simp [List.infix_nil])
  rw [List.append_nil] at alone
  rw [lastText_eq, lastText_eq, texts rest absent, alone]

end Behind

/-! ## Written documents are complete -/

theorem leads_pending {path next : Path} {done : List Char}
    (leads : Leads path (pending done) next) : path = next := by
  unfold pending at leads
  split at leads
  next => exact leads_nil.mp leads
  next =>
    obtain ⟨node, inside, read, behind⟩ := leads_cons.mp leads
    rw [nodeOf] at read
    cases spelled : resolve done.reverse <;> rw [spelled] at read <;> cases read
    exact leads_nil.mp behind

theorem leads_spelled {s : Spelled} (short : s.Short) (path : Path) : Leads path s.tokens path := by
  unfold Spelled.tokens pending
  split
  next => rfl
  next =>
    refine leads_cons.mpr ⟨.text path s.content, path, ?_, rfl⟩
    rw [nodeOf, List.reverse_reverse, s.resolve_write short]

/-- The tokens of written content leave the open elements as they are. -/
theorem leads_tokens {c : Content} (short : c.Short) (path : Path) : Leads path c.tokens path := by
  induction c generalizing path with
  | text last => exact leads_spelled short path
  | aside before piece rest ih =>
    exact leads_append.mpr ⟨path, leads_spelled short.1 path, ih short.2 path⟩
  | closed before tag rest ih =>
    exact leads_append.mpr ⟨path, leads_spelled short.1 path, ih short.2 path⟩
  | element before tag inside gap rest within ih =>
    obtain ⟨first, inner, last⟩ := short
    have ends : Leads (tag.name :: path) (.closing tag.name :: rest.tokens) path :=
      leads_cons.mpr ⟨_, path, by rw [nodeOf, if_pos rfl], ih last path⟩
    have begins : Leads path
        (.opening tag.name :: (inside.tokens ++ .closing tag.name :: rest.tokens)) path :=
      leads_cons.mpr ⟨_, tag.name :: path, rfl, leads_append.mpr ⟨_, within inner _, ends⟩⟩
    exact leads_append.mpr ⟨path, leads_spelled first path, begins⟩

/-- A document that is written is complete, perhaps with a text at its end. -/
theorem complete_write {document : Content} (short : document.Short) :
    ∃ done found, pass (.text []) (withoutMark document.write) = (.text done, found) ∧
      Leads [] found [] := by
  obtain ⟨done, before, scanned, complete⟩ := document.unmarked.scan_write []
  rw [← document.withoutMark_write, foldl_step, List.append_nil, Scan.mk.injEq] at scanned
  refine ⟨done, before.reverse, Prod.ext scanned.1 (by rw [← scanned.2, List.reverse_reverse]), ?_⟩
  have whole : before.reverse ++ pending done = document.unmarked.tokens := by
    rw [← List.reverse_reverse document.unmarked.tokens,
      ← List.append_nil document.unmarked.tokens.reverse, ← complete, List.reverse_append,
      reverse_pending]
  have leads := leads_tokens (document.short_unmarked short) []
  rw [← whole] at leads
  obtain ⟨inside, front, last⟩ := leads_append.mp leads
  rwa [leads_pending last] at front

/-! ## Documents that show errors -/

/-- The names of the elements in which codes and messages stand. -/
def reserved : List (List Char) := ["Code".toList, "Message".toList]

/-- Neither the element nor an element in it has the name of a code or of a message. -/
def Beside (child : Child) : Prop := child.name ∉ reserved ∧ ∀ c ∈ child.inside, Without reserved c

instance : DecidablePred Beside :=
  fun child => inferInstanceAs
    (Decidable (child.name ∉ reserved ∧ ∀ c ∈ child.inside, Without reserved c))

/-- The elements that stand directly in an element. -/
def childrenOf (child : Child) : List Child :=
  match child.inside with
  | some c => c.children
  | none => []

/-- The document is a response with one error in it, and the error has one code and one message.
Other elements may stand beside the error, the code and the message, such as the type of the error
and the identifier of the request. -/
def ShowsError (document : Content) (code message : String) : Prop :=
  ∃ response error first second outer inner,
    document.children = [response] ∧ response.name = "ErrorResponse".toList ∧
      (childrenOf response).Perm (error :: outer) ∧ error.name = "Error".toList ∧
      (childrenOf error).Perm (first :: second :: inner) ∧ Says first "Code" code ∧
      Says second "Message" message ∧
      ∀ child ∈ outer ++ inner, Beside child

section Shown

variable {names : List (List Char)} {path : Path} {child : Child}

/-- An element that has nothing but a text in it has this text. -/
theorem textsAt_leaf {name text : String} (leaf : Says child name text) (filled : text ≠ "") :
    textsAt names (child.nodes path) =
      if endsWith names (name.toList :: path) then [text.toList] else [] := by
  obtain ⟨named, content⟩ := leaf
  unfold textIn? at content
  split at content
  next =>
    cases content
    exact absurd rfl filled
  next s stands =>
    cases content
    have nonempty : s ≠ [] := by
      rintro rfl
      exact filled rfl
    rw [textsAt_element stands, named, Content.nodes, Spelled.nodes, if_neg nonempty,
      textsAt_cons, textAt]
    split <;> simp [textsAt]
  next => cases content

theorem textsAt_beside {name : List Char} {outer : List (List Char)} (innermost : name ∈ reserved)
    (beside : Beside child) : textsAt (name :: outer) (child.nodes path) = [] := by
  obtain ⟨other, without⟩ := beside
  cases stands : child.inside with
  | none =>
    rw [Child.nodes_of_none stands]
    rfl
  | some c =>
    rw [textsAt_element stands]
    exact textsAt_without innermost (without c stands)
      (endsWith_of_ne (ne_of_mem_of_not_mem innermost other).symm path)

/-- An element that is not at the place itself has the texts of the elements in it. -/
theorem textsAt_childrenOf {children : List Child} (perm : (childrenOf child).Perm children)
    (elsewhere : endsWith names (child.name :: path) = false) :
    (textsAt names (child.nodes path)).Perm
      (children.flatMap fun inner => textsAt names (inner.nodes (child.name :: path))) := by
  have inside : textsAt names (child.nodes path) =
      (childrenOf child).flatMap fun inner => textsAt names (inner.nodes (child.name :: path)) := by
    unfold childrenOf
    cases stands : child.inside with
    | none =>
      rw [Child.nodes_of_none stands]
      rfl
    | some c => rw [textsAt_element stands, textsAt_children elsewhere]
  rw [inside]
  exact perm.flatMap_right _

end Shown

/-- A document that shows an error has one text at each of the two places. -/
theorem ShowsError.textsAt_eq {document : Content} {code message : String}
    (shown : ShowsError document code message)
    (code_filled : code ≠ "") (message_filled : message ≠ "") :
    textsAt errorCode (document.nodes []) = [code.toList] ∧
      textsAt errorMessage (document.nodes []) = [message.toList] := by
  obtain ⟨response, error, first, second, outer, inner, whole, responseName, top, errorName, parts,
    codeLeaf, messageLeaf, beside⟩ := shown
  have besides := List.forall_mem_append.mp beside
  have texts {name : List Char} (innermost : name ∈ reserved)
      (elsewhere : name ≠ "Error".toList ∧ name ≠ "ErrorResponse".toList) :
      (textsAt [name, "Error".toList] (document.nodes [])).Perm
        (textsAt [name, "Error".toList] (first.nodes ["Error".toList, "ErrorResponse".toList]) ++
          textsAt [name, "Error".toList]
            (second.nodes ["Error".toList, "ErrorResponse".toList])) := by
    have absent (path : Path) {children : List Child} (beside : ∀ child ∈ children, Beside child) :
        (children.flatMap fun child => textsAt [name, "Error".toList] (child.nodes path)) = [] :=
      List.flatMap_eq_nil_iff.mpr fun child member => textsAt_beside innermost (beside child member)
    rw [textsAt_children rfl, whole, List.flatMap_singleton]
    refine (textsAt_childrenOf top (endsWith_of_ne (responseName ▸ elsewhere.2.symm) _)).trans ?_
    rw [List.flatMap_cons, absent _ besides.1, List.append_nil, responseName]
    refine (textsAt_childrenOf parts (endsWith_of_ne (errorName ▸ elsewhere.1.symm) _)).trans ?_
    rw [List.flatMap_cons, List.flatMap_cons, absent _ besides.2, List.append_nil, errorName]
  constructor
  · have perm := texts (show "Code".toList ∈ reserved by decide) (by decide)
    rw [textsAt_leaf codeLeaf code_filled, textsAt_leaf messageLeaf message_filled] at perm
    exact List.perm_singleton.mp perm
  · have perm := texts (show "Message".toList ∈ reserved by decide) (by decide)
    rw [textsAt_leaf codeLeaf code_filled, textsAt_leaf messageLeaf message_filled] at perm
    exact List.perm_singleton.mp perm

theorem failure_eq (status : UInt16) (document : String) :
    failure status document =
      .response status ((lastText errorCode (nodes document).1).getD "Unknown")
        ((lastText errorMessage (nodes document).1).getD "Unknown error") := rfl

/-- An error is read from a document that shows it, whatever follows the document. -/
theorem failure_of_shows {document : Content} {code message : String}
    (shown : ShowsError document code message)
    (code_filled : code ≠ "") (message_filled : message ≠ "") (short : document.Short)
    {rest : List Char} (absent : ¬ "<Error".toList <:+: rest) (status : UInt16) :
    failure status (String.ofList (document.write ++ rest)) = .response status code message := by
  have unmarked : ShowsError document.unmarked code message := by
    unfold ShowsError
    rwa [document.children_unmarked]
  obtain ⟨codes, messages⟩ := unmarked.textsAt_eq code_filled message_filled
  have filled : document.write ≠ [] := by
    intro empty
    have written := nodes_write document short
    rw [empty] at written
    rw [← (Prod.mk.inj written).1] at codes
    cases codes
  obtain ⟨done, found, scanned, leads⟩ := complete_write short
  have read {names : List (List Char)} {text : String} (part : "Error".toList ∈ names)
      (alone : textsAt names (document.unmarked.nodes []) = [text.toList]) :
      lastText names (nodes (String.ofList (document.write ++ rest))).1 = some text := by
    rw [lastText_append part filled scanned leads absent, nodes_write document short,
      lastText_eq, alone, List.getLast?_singleton, Option.map_some, String.ofList_toList]
  rw [failure_eq, read (by decide) codes, read (by decide) messages]
  rfl

/-- The error that a document shows is read from it, whatever follows the document without a start
tag that could be that of another error.  In any text the code and the message are what is read last
at their places before the first fault, or else they are unknown. -/
theorem errors_read (status : UInt16) :
    (∀ (document : Content) (code message : String),
      ShowsError document code message → code ≠ "" → message ≠ "" →
      document.Short → ∀ rest : List Char, ¬ "<Error".toList <:+: rest →
        failure status (String.ofList (document.write ++ rest)) = .response status code message) ∧
      ∀ text : String, ∃ code message : Option (List Char),
        (∀ found, LastRead errorCode [] (tokens text.toList).1 found ↔ found = code) ∧
          (∀ found, LastRead errorMessage [] (tokens text.toList).1 found ↔ found = message) ∧
          failure status text = .response status ((code.map String.ofList).getD "Unknown")
            ((message.map String.ofList).getD "Unknown error") := by
  constructor
  · intro document code message shown code_filled message_filled short rest absent
    exact failure_of_shows shown code_filled message_filled short absent status
  · intro text
    refine ⟨_, _, fun found => lastRead_iff, fun found => lastRead_iff, ?_⟩
    rw [failure_eq, lastText_eq, lastText_eq, nodes_eq]

def tagError : Tag := bare "Error".toList (by decide) (by decide)
def tagCode : Tag := bare "Code".toList (by decide) (by decide)

/-- An answer that shows the code `c&` and the message `no` among other elements. -/
def deniedAnswer : Content :=
  let leaf (tag : Tag) (text : Spelled) (rest : Content) : Content :=
    elementOf tag (.text text) rest
  elementOf (bare "ErrorResponse".toList (by decide) (by decide))
    (.element (plainly ['\n'] (by decide)) tagError
      (leaf (bare "Type".toList (by decide) (by decide)) (plainly "Sender".toList (by decide)) <|
        leaf tagCode [.plain 'c' (by decide), .named .ampersand] <|
        leaf tagMessage (plainly ['n', 'o'] (by decide)) <| .text (plainly ['\n'] (by decide)))
      noBlanks <|
      leaf (bare "RequestId".toList (by decide) (by decide)) (plainly ['1'] (by decide)) (.text []))
    (.text (plainly ['\n'] (by decide)))

theorem showsError_deniedAnswer : ShowsError deniedAnswer "c&" "no" :=
  ⟨_, _, _, _, [_], _, rfl, rfl, .refl [_, _], rfl, @List.perm_append_comm _ [_] [_, _], ⟨rfl, rfl⟩,
    ⟨rfl, rfl⟩, by decide⟩

/-- The error is read although a broken page with another code follows. -/
theorem error_read_before_page :
    let page := "</html> & <Code>b</Code><![CDATA["
    ShowsError deniedAnswer "c&" "no" ∧ deniedAnswer.Short ∧ ¬ "<Error".toList <:+: page.toList ∧
      failure 403 (String.ofList (deniedAnswer.write ++ page.toList)) =
        .response 403 "c&" "no" := by
  intro page
  have short : deniedAnswer.Short := by decide
  have absent : ¬ "<Error".toList <:+: page.toList := by decide
  exact ⟨showsError_deniedAnswer, short, absent,
    (errors_read 403).1 deniedAnswer "c&" "no" showsError_deniedAnswer (by decide) (by decide) short
      page.toList absent⟩

end MessageQueue.Answer
