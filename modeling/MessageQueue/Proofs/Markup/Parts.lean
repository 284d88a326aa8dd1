import MessageQueue.Markup.Node
import Mathlib.Tactic.SplitIfs

/-!
# Documents in parts

A document is scanned one character after another and its tokens are read one after another, so what
is done with a part of it depends on what is in front of that part in two ways only: through what
the scanner is inside of, and through the elements that are open.

For the characters this is `pass`, which says where the scanner is behind a part of a document and
which tokens the part completes; the tokens of a document are those of its parts and the one that
its end completes (`tokens_eq`).  For the tokens it is `nodeOf`, which says what node a token gives
inside the elements of a path, and which elements are open behind it.

Where a document is cut off inside an end tag, the cut makes an end tag of what is there.  In the
whole document an end tag stands there too, though perhaps with a longer name (`pass_endTag`).

An element begins only where its name stands behind an opening angle bracket (`infix_of_opening`):
the scanner collects a start tag one character at a time, and takes the name from the beginning of
what it has collected.
-/

namespace MessageQueue.Markup

/-! ## Characters -/

/-- Where the scanner is behind some characters, and the tokens that they complete. -/
def pass (mode : Mode) : List Char → Mode × List Token
  | [] => (mode, [])
  | c :: rest =>
    let behind := pass (step mode c).1 rest
    (behind.1, (step mode c).2.toList ++ behind.2)

/-- The tokens that the end of a document completes, and those that are completed before, from where
the scanner is. -/
def tokensFrom (mode : Mode) (chars : List Char) : List Token :=
  (pass mode chars).2 ++ (finish (pass mode chars).1).1.toList

theorem pass_append (mode : Mode) (first next : List Char) :
    pass mode (first ++ next) =
      ((pass (pass mode first).1 next).1,
        (pass mode first).2 ++ (pass (pass mode first).1 next).2) := by
  induction first generalizing mode with
  | nil => rfl
  | cons c first ih => rw [List.cons_append, pass, ih, pass, List.append_assoc]

theorem tokensFrom_append (mode : Mode) (first next : List Char) :
    tokensFrom mode (first ++ next) =
      (pass mode first).2 ++ tokensFrom (pass mode first).1 next := by
  rw [tokensFrom, pass_append, tokensFrom, List.append_assoc]

theorem foldl_step (mode : Mode) (found : List Token) (chars : List Char) :
    chars.foldl Scan.step ⟨mode, found⟩ =
      ⟨(pass mode chars).1, (pass mode chars).2.reverse ++ found⟩ := by
  induction chars generalizing mode found with
  | nil => rfl
  | cons c chars ih =>
    have taken : Scan.step ⟨mode, found⟩ c =
        ⟨(step mode c).1, (step mode c).2.toList ++ found⟩ := by
      rw [Scan.step]
      rcases step mode c with ⟨next, _ | token⟩ <;> rfl
    have single (token : Option Token) : token.toList.reverse = token.toList := by
      cases token <;> rfl
    rw [List.foldl_cons, taken, ih, pass, List.reverse_append, single, List.append_assoc]

theorem finish_eq (mode : Mode) (found : List Token) :
    (⟨mode, found⟩ : Scan).finish = (found.reverse ++ (finish mode).1.toList, (finish mode).2) := by
  rw [Scan.finish]
  rcases finish mode with ⟨_ | token, fault⟩ <;> simp

/-- The tokens of a document are those that its characters complete, and the one that its end
completes. -/
theorem tokens_eq (text : List Char) :
    tokens text =
      (tokensFrom (.text []) (withoutMark text),
        (finish (pass (.text []) (withoutMark text)).1).2) := by
  rw [tokens, Scan.start, foldl_step, finish_eq, tokensFrom, List.append_nil, List.reverse_reverse]

/-- A byte order mark counts at the beginning of a document only. -/
theorem withoutMark_append {front : List Char} (filled : front ≠ []) (rest : List Char) :
    withoutMark (front ++ rest) = withoutMark front ++ rest := by
  obtain ⟨c, others, rfl⟩ := List.exists_cons_of_ne_nil filled
  by_cases mark : c = '\uFEFF'
  · subst mark
    rfl
  · simp [withoutMark, mark]

/-- What follows in an end tag makes its name longer, or ends it. -/
theorem pass_endTag (done rest : List Char) :
    ∃ name more, tokensFrom (.endTag done) rest = .closing name :: more := by
  induction rest generalizing done with
  | nil => exact ⟨_, [], rfl⟩
  | cons c rest ih =>
    by_cases ends : c = '>'
    · subst ends
      exact ⟨_, _, rfl⟩
    · obtain ⟨name, more, tokens⟩ := ih (c :: done)
      refine ⟨name, more, ?_⟩
      rw [← tokens, ← List.singleton_append, tokensFrom_append]
      simp [pass, step, ends]

/-! ## Start tags -/

/-- The characters of the start tag that the scanner is in. -/
def begun : Mode → List Char
  | .opened => ['<']
  | .tag _ done => '<' :: done.reverse
  | _ => []

theorem begun_stepTag (quote : Option Char) (done : List Char) (c : Char) :
    begun (stepTag quote done c).1 <:+ '<' :: done.reverse ++ [c] := by
  cases quote with
  | some q => exact ⟨[], by simp [stepTag, begun]⟩
  | none =>
    rw [stepTag]
    split
    next => exact List.nil_suffix
    next => split <;> exact ⟨[], by simp [begun]⟩

theorem endDeclaration?_eq_some {kind : Declaration} {done : List Char}
    {ended : Mode × Option Token}
    (ends : endDeclaration? kind done = some ended) :
    begun ended.1 = [] ∧ ∀ name, ended.2 ≠ some (.opening name) := by
  unfold endDeclaration? at ends
  split at ends
  next =>
    split at ends
    next =>
      split_ifs at ends <;> cases ends <;> exact ⟨rfl, nofun⟩
    next => cases ends
  next =>
    split at ends
    next =>
      dsimp only at ends
      split_ifs at ends <;> cases ends <;> exact ⟨rfl, nofun⟩
    next => cases ends
  next =>
    dsimp only at ends
    split_ifs at ends <;> cases ends <;> exact ⟨rfl, nofun⟩
  next => cases ends

theorem begun_stepDeclaration (kind : Declaration) (done : List Char) (c : Char) :
    begun (stepDeclaration kind done c).1 = [] ∧
      ∀ name, (stepDeclaration kind done c).2 ≠ some (.opening name) := by
  unfold stepDeclaration
  split
  next =>
    split
    next ended ends => exact endDeclaration?_eq_some ends
    next => split <;> exact ⟨rfl, nofun⟩
  next => split <;> exact ⟨rfl, nofun⟩

theorem begun_afterInstruction (done : List Char) : begun (afterInstruction done) = [] := by
  unfold afterInstruction
  split <;> rfl

/-- A start tag grows by one character at a time. -/
theorem begun_step (mode : Mode) (c : Char) : begun (step mode c).1 <:+ begun mode ++ [c] := by
  have nothing {next : Mode} (outside : begun next = []) : begun next <:+ begun mode ++ [c] :=
    outside ▸ List.nil_suffix
  cases mode with
  | text done =>
    rw [step]
    split
    next bracket => exact ⟨[], by simp [begun, bracket]⟩
    next => exact nothing rfl
  | opened =>
    rw [step]
    split_ifs
    · exact nothing rfl
    · exact nothing rfl
    · exact nothing rfl
    · exact begun_stepTag .none [] c
  | tag quote done => exact begun_stepTag quote done c
  | endTag done =>
    rw [step]
    split_ifs <;> exact nothing rfl
  | instruction done =>
    rw [step]
    split_ifs
    · exact nothing (begun_afterInstruction done)
    · exact nothing rfl
  | declared =>
    rw [step]
    split_ifs <;> exact nothing rfl
  | declaration kind done => exact nothing (begun_stepDeclaration kind done c).1
  | broken fault => exact nothing rfl

theorem opening_of_tagToken {done name : List Char} (token : tagToken done = some (.opening name)) :
    '<' :: name <+: '<' :: done.reverse := by
  unfold tagToken at token
  split at token
  next => cases token
  next =>
    cases token
    exact List.cons_prefix_cons.mpr ⟨rfl, List.takeWhile_prefix _⟩

theorem opening_of_stepTag {quote : Option Char} {done name : List Char} {c : Char}
    (token : (stepTag quote done c).2 = some (.opening name)) :
    '<' :: name <+: '<' :: done.reverse := by
  cases quote with
  | some q => cases token
  | none =>
    unfold stepTag at token
    dsimp only at token
    split_ifs at token
    exact opening_of_tagToken token

/-- A start tag that is complete gives a name that stands in it. -/
theorem opening_of_step {mode : Mode} {c : Char} {name : List Char}
    (token : (step mode c).2 = some (.opening name)) : '<' :: name <+: begun mode := by
  cases mode with
  | text done =>
    rw [step] at token
    split_ifs at token <;> cases token
  | opened =>
    rw [step] at token
    split_ifs at token
    · exact opening_of_stepTag token
  | tag quote done => exact opening_of_stepTag token
  | endTag done =>
    rw [step] at token
    split_ifs at token <;> cases token
  | instruction done =>
    rw [step] at token
    split_ifs at token
  | declared =>
    rw [step] at token
    split_ifs at token
  | declaration kind done => exact absurd token ((begun_stepDeclaration kind done c).2 name)
  | broken fault => cases token

theorem opening_of_finish {mode : Mode} {name : List Char}
    (token : (finish mode).1 = some (.opening name)) :
    '<' :: name <+: begun mode := by
  cases mode with
  | text done =>
    rw [finish] at token
    dsimp only at token
    split_ifs at token <;> cases token
  | tag quote done => exact opening_of_tagToken token
  | instruction done =>
    rw [finish] at token
    split at token <;> cases token
  | _ => cases token

/-- The name of an element that begins stands in the document, behind an opening angle bracket. -/
theorem infix_of_opening {mode : Mode} {chars name : List Char}
    (member : .opening name ∈ tokensFrom mode chars) :
    '<' :: name <:+: begun mode ++ chars := by
  induction chars generalizing mode with
  | nil =>
    rw [List.append_nil]
    exact (opening_of_finish (Option.mem_toList.mp member)).isInfix
  | cons c rest ih =>
    rw [← List.singleton_append, tokensFrom_append, List.mem_append] at member
    rcases member with first | later
    · have token : (step mode c).2 = some (.opening name) := by simpa [pass] using first
      exact (opening_of_step token).isInfix.trans (List.prefix_append _ _).isInfix
    · obtain ⟨front, grown⟩ := begun_step mode c
      have whole : begun mode ++ c :: rest = front ++ (begun (step mode c).1 ++ rest) := by
        rw [List.append_cons, ← grown, List.append_assoc]
      rw [whole]
      exact (ih later).trans (List.suffix_append _ _).isInfix

/-! ## Tokens -/

/-- The node of a token that stands inside the elements of a path, and the path behind it. -/
def nodeOf (path : Path) : Token → Except Fault (Node × Path)
  | .text raw =>
    match resolve raw with
    | some content => .ok (.text path content, path)
    | none => .error .reference
  | .verbatim content => .ok (.text path content, path)
  | .opening name => .ok (.opened (name :: path), name :: path)
  | .closing name =>
    match path with
    | top :: outer => if top = name then .ok (.closed path, outer) else .error .endTag
    | [] => .error .endTag

theorem nodesFrom_cons (path : Path) (done : List Node) (token : Token) (rest : List Token) :
    nodesFrom path done (token :: rest) =
      match nodeOf path token with
      | .ok (node, next) => nodesFrom next (node :: done) rest
      | .error fault => (done.reverse, some fault) := by
  cases token with
  | text raw => rw [nodesFrom, nodeOf]; cases resolve raw <;> rfl
  | verbatim content => rfl
  | opening name => rfl
  | closing name =>
    cases path with
    | nil => rfl
    | cons top outer => rw [nodesFrom, nodeOf]; split <;> rfl

/-- Nodes that have been read already stay in front. -/
theorem nodesFrom_done (path : Path) (done : List Node) (tokens : List Token) :
    nodesFrom path done tokens =
      (done.reverse ++ (nodesFrom path [] tokens).1, (nodesFrom path [] tokens).2) := by
  induction tokens generalizing path done with
  | nil => simp [nodesFrom]
  | cons token rest ih =>
    rw [nodesFrom_cons, nodesFrom_cons]
    cases nodeOf path token with
    | error fault => simp
    | ok read =>
      obtain ⟨node, next⟩ := read
      simp only
      rw [ih next (node :: done), ih next [node]]
      simp

/-- Elements end with end tags only. -/
theorem nodeOf_eq_closed {path inside next : Path} {token : Token}
    (read : nodeOf path token = .ok (.closed inside, next)) : ∃ name, token = .closing name := by
  cases token with
  | text raw =>
    rw [nodeOf] at read
    cases content : resolve raw <;> rw [content] at read <;> cases read
  | verbatim content => cases read
  | opening name => cases read
  | closing name => exact ⟨name, rfl⟩

/-- Elements begin with start tags only. -/
theorem nodeOf_eq_opened {path inside next : Path} {token : Token}
    (read : nodeOf path token = .ok (.opened inside, next)) :
    ∃ name, token = .opening name ∧ inside = name :: path := by
  cases token with
  | text raw =>
    rw [nodeOf] at read
    cases content : resolve raw <;> rw [content] at read <;> cases read
  | verbatim content => cases read
  | opening name =>
    cases read
    exact ⟨name, rfl, rfl⟩
  | closing name =>
    cases path with
    | nil => cases read
    | cons top outer =>
      simp only [nodeOf] at read
      split at read <;> cases read

/-- An end tag that fits the open element has one name only. -/
theorem nodeOf_closing {path : Path} {first second : List Char} {one other : Node × Path}
    (fits : nodeOf path (.closing first) = .ok one)
    (fitsToo : nodeOf path (.closing second) = .ok other) :
    one = other := by
  cases path with
  | nil => cases fits
  | cons top outer =>
    simp only [nodeOf] at fits fitsToo
    split at fits <;> cases fits
    split at fitsToo <;> cases fitsToo
    rfl

/-! ## Nesting -/

/-- Tokens in which every element that begins ends, and no other. -/
inductive Nested : List Token → Prop where
  | nil : Nested []
  | text {raw : List Char} {rest : List Token} (behind : Nested rest) : Nested (.text raw :: rest)
  | verbatim {content : List Char} {rest : List Token} (behind : Nested rest) :
      Nested (.verbatim content :: rest)
  | element {name : List Char} {inside rest : List Token} (within : Nested inside)
      (behind : Nested rest) :
    Nested (.opening name :: (inside ++ .closing name :: rest))

theorem Nested.append {first next : List Token} (nested : Nested first) (behind : Nested next) :
    Nested (first ++ next) := by
  induction nested with
  | nil => exact behind
  | text _ ih => exact .text ih
  | verbatim _ ih => exact .verbatim ih
  | element within _ _ ih =>
    rw [List.cons_append, List.append_assoc, List.cons_append]
    exact .element within ih

/-- The tokens can be read inside the elements of a path, and lead to another path. -/
def Leads (path : Path) (tokens : List Token) (next : Path) : Prop :=
  tokens.foldlM (fun path token => (nodeOf path token).map Prod.snd) path = .ok next

theorem leads_nil {path next : Path} : Leads path [] next ↔ path = next :=
  ⟨fun same => Except.ok.inj same, fun same => congrArg _ same⟩

theorem leads_cons {path next : Path} {token : Token} {rest : List Token} :
    Leads path (token :: rest) next ↔
      ∃ node inside, nodeOf path token = .ok (node, inside) ∧ Leads inside rest next := by
  rw [Leads, List.foldlM_cons]
  cases read : nodeOf path token with
  | error fault => exact ⟨nofun, nofun⟩
  | ok both =>
    exact ⟨fun leads => ⟨both.1, both.2, rfl, leads⟩,
      fun ⟨_, _, same, leads⟩ => by cases same; exact leads⟩

theorem leads_append {path next : Path} {first rest : List Token} :
    Leads path (first ++ rest) next ↔
      ∃ inside, Leads path first inside ∧ Leads inside rest next := by
  induction first generalizing path with
  | nil =>
    simp only [leads_nil]
    exact ⟨fun leads => ⟨path, rfl, leads⟩, fun ⟨_, same, leads⟩ => same ▸ leads⟩
  | cons token first ih =>
    rw [List.cons_append, leads_cons]
    simp only [ih, leads_cons]
    constructor
    · rintro ⟨node, within, read, inside, leads, behind⟩
      exact ⟨inside, ⟨node, within, read, leads⟩, behind⟩
    · rintro ⟨inside, ⟨node, within, read, leads⟩, behind⟩
      exact ⟨node, within, read, inside, leads, behind⟩

/-- The nodes of tokens that can be read, and of what is behind them. -/
theorem nodesFrom_append {path next : Path} {first : List Token} (leads : Leads path first next)
    (rest : List Token) :
    nodesFrom path [] (first ++ rest) =
      ((nodesFrom path [] first).1 ++ (nodesFrom next [] rest).1, (nodesFrom next [] rest).2) := by
  induction first generalizing path with
  | nil =>
    obtain rfl := leads_nil.mp leads
    rfl
  | cons token first ih =>
    obtain ⟨node, inside, read, behind⟩ := leads_cons.mp leads
    rw [List.cons_append, nodesFrom_cons, nodesFrom_cons, read]
    simp only
    rw [nodesFrom_done inside [node], nodesFrom_done inside [node] first, ih behind]
    simp

/-- The nodes of a document are those of its tokens, and a fault among them counts before one
behind. -/
theorem nodes_eq (document : String) :
    nodes document =
      ((nodesFrom [] [] (tokens document.toList).1).1,
        (nodesFrom [] [] (tokens document.toList).1).2.or (tokens document.toList).2) := by
  unfold nodes
  generalize tokens document.toList = scanned
  obtain ⟨found, fault⟩ := scanned
  simp only
  rcases nodesFrom [] [] found with ⟨met, _ | first⟩ <;> rfl

end MessageQueue.Markup
