import MessageQueue.Markup.Reference
import MessageQueue.Markup.Token

/-!
# Elements and texts along a document

Reading the tokens of a document from the left, one knows at each which elements are open.  A node
says that an element begins, that it ends, or that some text stands in it, together with the names
of the open elements, the innermost first.  Reading stops at the first end tag that does not fit and
at the first text with a broken reference.
-/

namespace MessageQueue.Markup

/-- The names of the open elements, innermost first. -/
abbrev Path := List (List Char)

/-- What is met along a document. -/
inductive Node where
  /-- The innermost element of the path begins. -/
  | opened (path : Path)
  /-- A text stands in the innermost element of the path. -/
  | text (path : Path) (content : List Char)
  /-- The innermost element of the path ends. -/
  | closed (path : Path)
deriving DecidableEq, Repr

/-- The nodes of tokens that stand inside the elements of a path, up to the first fault; those so
far are kept last first. -/
def nodesFrom (path : Path) (done : List Node) : List Token → List Node × Option Fault
  | [] => (done.reverse, none)
  | .text raw :: rest =>
    match resolve raw with
    | some content => nodesFrom path (.text path content :: done) rest
    | none => (done.reverse, some .reference)
  | .verbatim content :: rest => nodesFrom path (.text path content :: done) rest
  | .opening name :: rest => nodesFrom (name :: path) (.opened (name :: path) :: done) rest
  | .closing name :: rest =>
    match path with
    | top :: outer =>
      if top = name then nodesFrom outer (.closed path :: done) rest
        else (done.reverse, some .endTag)
    | [] => (done.reverse, some .endTag)

/-- The nodes of a document, up to what makes it unreadable, and what that is. -/
def nodes (document : String) : List Node × Option Fault :=
  let (tokens, fault) := tokens document.toList
  match nodesFrom [] [] tokens with
  | (nodes, some first) => (nodes, some first)
  | (nodes, none) => (nodes, fault)

/-- Whether the innermost elements of a path have the given names, innermost first. -/
def endsWith (names : List (List Char)) (path : Path) : Bool := names.isPrefixOf path

end MessageQueue.Markup
