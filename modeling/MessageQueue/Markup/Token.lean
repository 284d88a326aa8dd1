/-!
# Cutting markup into tokens

A document is read character by character by a scanner that knows what it is inside of: text, a tag,
a comment, and so on.  When a piece is complete it gives a token.  The scanner recurses on the
characters alone, so what it has read of a document does not depend on what follows.

Only what an answer of a queue can hold is told apart.  Tags give tokens with their names; the
attributes of tags, comments, instructions and declarations, and elements that are closed in their
own tag give none.  A document may end anywhere but inside a comment, a character data section, a
declaration or an instruction; a tag that it ends in counts as far as it goes.
-/

namespace MessageQueue.Markup

/-- What makes a document unreadable. -/
inductive Fault where
  /-- A reference in a text that stands for no character. -/
  | reference
  /-- A tag beginning with an exclamation mark that is none of the known kinds. -/
  | declaration
  /-- A document type that does not say which. -/
  | emptyDoctype
  /-- The document ends inside a comment, a section or a declaration. -/
  | unfinished
  /-- An instruction that does not end with a question mark. -/
  | instruction
  /-- An end tag for an element that is not the one that is open. -/
  | endTag
deriving DecidableEq, Repr

/-- What is wrong, in words. -/
def Fault.message : Fault → String
  | .reference => "Failed to parse XML: unknown or broken reference in text"
  | .declaration => "XML parsing error: unknown declaration"
  | .emptyDoctype => "XML parsing error: document type is empty"
  | .unfinished => "XML parsing error: document ends inside a comment, section or declaration"
  | .instruction => "XML parsing error: unfinished instruction"
  | .endTag => "XML parsing error: end tag does not match the open element"

/-- A complete piece of a document. -/
inductive Token where
  /-- Characters between tags, at least one, with their references unresolved. -/
  | text (raw : List Char)
  /-- The characters of a section, which stand for themselves. -/
  | verbatim (content : List Char)
  | opening (name : List Char)
  | closing (name : List Char)
deriving DecidableEq, Repr

/-- The kinds of tags that begin with an exclamation mark. -/
inductive Declaration where
  | comment
  | verbatim
  /-- A document type, inside so many open angle brackets. -/
  | doctype (depth : Nat)
deriving DecidableEq, Repr

/-- What the scanner is inside of.  The characters of the piece so far are kept last first. -/
inductive Mode where
  | text (done : List Char)
  /-- Behind an opening angle bracket. -/
  | opened
  /-- In a start tag, perhaps inside quotes. -/
  | tag (quote : Option Char) (done : List Char)
  | endTag (done : List Char)
  | instruction (done : List Char)
  /-- Behind an opening angle bracket and an exclamation mark. -/
  | declared
  /-- In a declaration; `done` goes back to the character behind the exclamation mark. -/
  | declaration (kind : Declaration) (done : List Char)
  | broken (fault : Fault)
deriving DecidableEq, Repr

/-- Whether a character separates the parts of a tag. -/
def isSpace (c : Char) : Bool := c = ' ' || c = '\t' || c = '\n' || c = '\x0d'

/-- A name without blanks behind it; blanks alone stay. -/
def withoutSpace (name : List Char) : List Char :=
  let trimmed := (name.reverse.dropWhile isSpace).reverse
  if trimmed = [] then name else trimmed

/-- The token of a start tag: none if the element is closed in it. -/
def tagToken (done : List Char) : Option Token :=
  match done with
  | '/' :: _ => none
  | _ => some (.opening (done.reverse.takeWhile fun c => !isSpace c))

/-- The token of an end tag. -/
def endToken (done : List Char) : Token := .closing (withoutSpace done.reverse)

/-- The scanner behind an instruction. -/
def afterInstruction (done : List Char) : Mode :=
  match done with
  | '?' :: _ :: _ => .text []
  | _ => .broken .instruction

/-- What the content of a section must begin with, behind the exclamation mark. -/
def verbatimMark : List Char := ['[', 'C', 'D', 'A', 'T', 'A', '[']

/-- What a document type must begin with, behind the exclamation mark. -/
def doctypeMark : List Char := ['D', 'O', 'C', 'T', 'Y', 'P', 'E']

/-- What follows a closing angle bracket in a declaration whose characters are `done`: the end of
the declaration, if they end it. -/
def endDeclaration? (kind : Declaration) (done : List Char) : Option (Mode × Option Token) :=
  match kind with
  | .comment =>
    match done with
    | '-' :: '-' :: rest =>
      if 2 ≤ rest.length then
        some (if rest.reverse.take 2 = ['-', '-'] then (.text [], none)
          else (.broken .declaration, none))
      else none
    | _ => none
  | .verbatim =>
    match done with
    | ']' :: ']' :: rest =>
      let content := rest.reverse
      some (if (content.take 7).map Char.toUpper = verbatimMark
        then (.text [], some (.verbatim (content.drop 7)))
        else (.broken .declaration, none))
    | _ => none
  | .doctype 0 =>
    let content := done.reverse
    some (if (content.take 7).map Char.toUpper ≠ doctypeMark then (.broken .declaration, none)
      else if (content.drop 7).all isSpace then (.broken .emptyDoctype, none)
      else (.text [], none))
  | .doctype (_ + 1) => none

/-- Takes one character in a declaration. -/
def stepDeclaration (kind : Declaration) (done : List Char) (c : Char) : Mode × Option Token :=
  if c = '>' then
    match endDeclaration? kind done with
    | some ended => ended
    | none =>
      match kind with
      | .doctype (depth + 1) => (.declaration (.doctype depth) (c :: done), none)
      | _ => (.declaration kind (c :: done), none)
  else
    match kind with
    | .doctype depth =>
      (.declaration (.doctype (if c = '<' then depth + 1 else depth)) (c :: done), none)
    | _ => (.declaration kind (c :: done), none)

/-- Takes one character in a start tag. -/
def stepTag (quote : Option Char) (done : List Char) (c : Char) : Mode × Option Token :=
  match quote with
  | some q => (.tag (if c = q then none else some q) (c :: done), none)
  | none =>
    if c = '>' then (.text [], tagToken done)
    else if c = '"' ∨ c = '\x27' then (.tag (some c) (c :: done), none)
    else (.tag none (c :: done), none)

/-- Takes one character: the scanner behind it, and the token that it completes. -/
def step (mode : Mode) (c : Char) : Mode × Option Token :=
  match mode with
  | .text done =>
    if c = '<' then (.opened, if done = [] then none else some (.text done.reverse))
    else (.text (c :: done), none)
  | .opened =>
    if c = '!' then (.declared, none)
    else if c = '/' then (.endTag [], none)
    else if c = '?' then (.instruction [], none)
    else stepTag none [] c
  | .tag quote done => stepTag quote done c
  | .endTag done =>
    if c = '>' then (.text [], some (endToken done)) else (.endTag (c :: done), none)
  | .instruction done =>
    if c = '>' then (afterInstruction done, none) else (.instruction (c :: done), none)
  | .declared =>
    if c = '-' then (.declaration .comment [c], none)
    else if c = '[' then (.declaration .verbatim [c], none)
    else if c = 'D' ∨ c = 'd' then (.declaration (.doctype 0) [c], none)
    else (.broken .declaration, none)
  | .declaration kind done => stepDeclaration kind done c
  | .broken fault => (.broken fault, none)

/-- The end of a document: the token that it completes, and what is wrong, if anything is. -/
def finish : Mode → Option Token × Option Fault
  | .text done => (if done = [] then none else some (.text done.reverse), none)
  | .opened => (none, none)
  | .tag _ done => (tagToken done, none)
  | .endTag done => (some (endToken done), none)
  | .instruction done =>
    match afterInstruction done with
    | .broken fault => (none, some fault)
    | _ => (none, none)
  | .declared => (none, some .unfinished)
  | .declaration _ _ => (none, some .unfinished)
  | .broken fault => (none, some fault)

/-- A scanner and the tokens so far, last first. -/
structure Scan where
  mode : Mode
  tokens : List Token
deriving DecidableEq, Repr

/-- The scanner at the beginning of a document. -/
def Scan.start : Scan := ⟨.text [], []⟩

/-- Takes one character. -/
def Scan.step (s : Scan) (c : Char) : Scan :=
  match Markup.step s.mode c with
  | (mode, some token) => ⟨mode, token :: s.tokens⟩
  | (mode, none) => ⟨mode, s.tokens⟩

/-- All tokens, in order, and what is wrong behind the last of them, if anything is. -/
def Scan.finish (s : Scan) : List Token × Option Fault :=
  match Markup.finish s.mode with
  | (some token, fault) => ((token :: s.tokens).reverse, fault)
  | (none, fault) => (s.tokens.reverse, fault)

/-- The document without a byte order mark at its beginning. -/
def withoutMark : List Char → List Char
  | '\uFEFF' :: rest => rest
  | text => text

/-- The tokens of a document, up to what makes it unreadable. -/
def tokens (text : List Char) : List Token × Option Fault :=
  ((withoutMark text).foldl Scan.step .start).finish

example : tokens "<a>x<!-- y --><b/></a>".toList =
    ([.opening ['a'], .text ['x'], .closing ['a']], none) := by cbv

end MessageQueue.Markup
