import MessageQueue.Json.Reader
import MessageQueue.Settings.Value

/-!
# Settings in TOML

A file is a sequence of lines: a header in brackets opens a table, and every other line gives a
value to a key of the table that is open.  Keys may be dotted.  Nothing may be given twice.

Strings recurse on the characters; values inside values, and the lines of the file, are read with a
bound that the length of the text supplies.
-/

namespace MessageQueue.Toml

open MessageQueue.Json (unit?)

/-! ## Blanks -/

/-- Whether a character is a blank within a line. -/
def isBlank (c : Char) : Bool := c = ' ' || c = '\t'

def skipBlanks (text : List Char) : List Char := text.dropWhile isBlank

/-- Whether a character may stand in a comment. -/
def isCommentChar (c : Char) : Bool := c = '\t' || (0x20 ≤ c.toNat && c.toNat ≠ 0x7F)

/-- The rest of a line that holds nothing more but a comment: what follows its end. -/
def lineEnd? (text : List Char) : Option (List Char) :=
  let rest := match skipBlanks text with
    | '#' :: comment => comment.dropWhile isCommentChar
    | other => other
  match rest with
  | [] => some []
  | '\n' :: rest => some rest
  | '\x0d' :: '\n' :: rest => some rest
  | _ => none

/-- Skips blanks, line ends and comments, as inside brackets. -/
def skipSpace : Nat → List Char → List Char
  | 0, text => text
  | fuel + 1, text =>
    match skipBlanks text with
    | '\n' :: rest => skipSpace fuel rest
    | '\x0d' :: '\n' :: rest => skipSpace fuel rest
    | '#' :: rest => skipSpace fuel (rest.dropWhile isCommentChar)
    | other => other

/-! ## Strings -/

/-- A character given by its number. -/
def scalar? (n : Nat) : Option Char :=
  if n < 0xD800 ∨ (0xDFFF < n ∧ n < 0x110000) then some (Char.ofNat n) else none

/-- The character that an escape of one letter stands for. -/
def escaped? (c : Char) : Option Char :=
  if c = 'e' then some '\x1b' else if c = '/' then none else Json.escaped? c

/-- Reads a quoted string on one line, behind its opening quote. -/
def basicString? (done : List Char) : List Char → Option (String × List Char)
  | [] => none
  | '"' :: rest => some (String.ofList done.reverse, rest)
  | '\\' :: 'u' :: a :: b :: c :: d :: rest =>
    match (unit? a b c d).bind scalar? with
    | some ch => basicString? (ch :: done) rest
    | none => none
  | '\\' :: 'U' :: a :: b :: c :: d :: e :: f :: g :: h :: rest =>
    match unit? a b c d, unit? e f g h with
    | some high, some low =>
      match scalar? (65536 * high + low) with
      | some ch => basicString? (ch :: done) rest
      | none => none
    | _, _ => none
  | '\\' :: e :: rest =>
    match escaped? e with
    | some ch => basicString? (ch :: done) rest
    | none => none
  | c :: rest => if isCommentChar c ∧ c ≠ '\\' then basicString? (c :: done) rest else none

/-- Reads a string between apostrophes on one line, behind the first of them. -/
def literalString? (done : List Char) : List Char → Option (String × List Char)
  | [] => none
  | c :: rest =>
    if c = '\x27' then some (String.ofList done.reverse, rest)
    else if isCommentChar c then literalString? (c :: done) rest
    else none

/-- Drops one line end at the start. -/
def dropLineEnd : List Char → List Char
  | '\n' :: rest => rest
  | '\x0d' :: '\n' :: rest => rest
  | rest => rest

/-- Reads a string between three quotes, behind the opening ones.  A backslash at the end of a line
joins it with the next one that is not blank; up to two quotes may stand before the closing ones. -/
def multilineString? : Nat → List Char → List Char → Option (String × List Char)
  | 0, _, _ => none
  | fuel + 1, done, text =>
    match text with
    | '"' :: '"' :: '"' :: '"' :: '"' :: rest =>
      some (String.ofList ('"' :: '"' :: done).reverse, rest)
    | '"' :: '"' :: '"' :: '"' :: rest => some (String.ofList ('"' :: done).reverse, rest)
    | '"' :: '"' :: '"' :: rest => some (String.ofList done.reverse, rest)
    | '\\' :: 'u' :: a :: b :: c :: d :: rest =>
      match (unit? a b c d).bind scalar? with
      | some ch => multilineString? fuel (ch :: done) rest
      | none => none
    | '\\' :: e :: rest =>
      if isBlank e || e = '\n' || e = '\x0d' then
        match lineEnd? (e :: rest) with
        | some rest =>
          multilineString? fuel done (rest.dropWhile fun c => isBlank c || c = '\n' || c = '\x0d')
        | none => none
      else match escaped? e with
        | some ch => multilineString? fuel (ch :: done) rest
        | none => none
    | c :: rest =>
      if isCommentChar c || c = '\n' || c = '\x0d' then multilineString? fuel (c :: done) rest
        else none
    | [] => none

/-- Reads a string between three apostrophes, behind the opening ones. -/
def multilineLiteral? (done : List Char) : List Char → Option (String × List Char)
  | '\x27' :: '\x27' :: '\x27' :: rest => some (String.ofList done.reverse, rest)
  | c :: rest =>
    if isCommentChar c || c = '\n' || c = '\x0d' then multilineLiteral? (c :: done) rest else none
  | [] => none

/-- Reads a string with any of the four kinds of quotes. -/
def string? (text : List Char) : Option (String × List Char) :=
  match text with
  | '"' :: '"' :: '"' :: rest => multilineString? (rest.length + 1) [] (dropLineEnd rest)
  | '"' :: rest => basicString? [] rest
  | '\x27' :: '\x27' :: '\x27' :: rest => multilineLiteral? [] (dropLineEnd rest)
  | '\x27' :: rest => literalString? [] rest
  | _ => none

/-! ## Numbers and dates -/

/-- Digits in a radix, with single low lines between them. -/
def digits? (radix value : Nat) (afterDigit : Bool) : List Char → Option Nat
  | [] => if afterDigit then some value else none
  | c :: rest =>
    if c = '_' then if afterDigit then digits? radix value false rest else none
    else match Bytes.hexValue? c with
      | some d => if d < radix then digits? radix (radix * value + d) true rest else none
      | none => none

/-- Whether the digits before a point are well formed: no zero in front of others. -/
def noLeadingZero : List Char → Bool
  | '0' :: c :: _ => !(c.isDigit || c = '_')
  | _ => true

/-- An integer of 64 bits. -/
def integer? (word : List Char) : Option Int :=
  let value : Option Int := match word with
    | '0' :: 'x' :: rest => (digits? 16 0 false rest).map Int.ofNat
    | '0' :: 'o' :: rest => (digits? 8 0 false rest).map Int.ofNat
    | '0' :: 'b' :: rest => (digits? 2 0 false rest).map Int.ofNat
    | '-' :: rest =>
      if noLeadingZero rest then (digits? 10 0 false rest).map fun n => -(n : Int) else none
    | '+' :: rest => if noLeadingZero rest then (digits? 10 0 false rest).map Int.ofNat else none
    | rest => if noLeadingZero rest then (digits? 10 0 false rest).map Int.ofNat else none
  value.bind fun n => if -Int.pow 2 63 ≤ n ∧ n < Int.pow 2 63 then some n else none

/-- Whether low lines stand between digits only, and digits on both sides of a point. -/
def separated (previous : Char) : List Char → Bool
  | [] => previous ≠ '_' && previous ≠ '.'
  | c :: rest =>
    (if c = '_' ∨ c = '.' then previous.isDigit else previous ≠ '_' && previous ≠ '.' || c.isDigit)
      && separated c rest

/-- A fraction. -/
def real? (word : List Char) : Option Float :=
  let (_, body) := Decimal.signed word
  if body = ['i', 'n', 'f'] ∨ body = ['n', 'a', 'n'] then Decimal.read? (String.ofList word)
  else if body.head?.any Char.isDigit ∧ noLeadingZero body ∧ separated '+' body
      ∧ body.any (fun c => c = '.' || c = 'e' || c = 'E') then
    Decimal.read? (String.ofList (word.filter (· ≠ '_')))
  else none

/-- Whether a word has the form of a date, a time or both. -/
def isDate (word : List Char) : Bool :=
  match word with
  | a :: b :: c :: d :: e :: rest =>
    ((a.isDigit && b.isDigit && c.isDigit && d.isDigit && e = '-') ||
      (a.isDigit && b.isDigit && c = ':' && d.isDigit && e.isDigit)) &&
      rest.all fun ch => ch.isDigit || ['-', ':', 'T', 't', 'Z', 'z', '+', '.', ' '].contains ch
  | _ => false

/-- Whether a character may stand in a word that is no string. -/
def isWordChar (c : Char) : Bool := c.isAlphanum || ['_', '+', '-', '.', ':'].contains c

/-- Reads a value that is a single word. -/
def word? (text : List Char) : Option (Setting × List Char) :=
  let word := text.takeWhile isWordChar
  let rest := text.drop word.length
  if word = ['t', 'r', 'u', 'e'] then some (.truth true, rest)
  else if word = ['f', 'a', 'l', 's', 'e'] then some (.truth false, rest)
  else match integer? word, real? word with
    | some n, _ => some (.integer n, rest)
    | none, some x => some (.real x, rest)
    | none, none => if isDate word then some (.text (String.ofList word), rest) else none

/-! ## Keys -/

/-- Whether a character may stand in a key without quotes. -/
def isKeyChar (c : Char) : Bool := c.isAlphanum || c = '_' || c = '-'

/-- Reads one part of a key. -/
def keyPart? (text : List Char) : Option (String × List Char) :=
  match text with
  | '"' :: rest => basicString? [] rest
  | '\x27' :: rest => literalString? [] rest
  | _ =>
    let name := text.takeWhile isKeyChar
    if name = [] then none else some (String.ofList name, text.drop name.length)

/-- Reads a key, dotted or not. -/
def key? : Nat → List Char → Option (List String × List Char)
  | 0, _ => none
  | fuel + 1, text =>
    match keyPart? (skipBlanks text) with
    | none => none
    | some (name, rest) =>
      match skipBlanks rest with
      | '.' :: rest => (key? fuel rest).map fun (names, rest) => (name :: names, rest)
      | rest => some ([name], rest)

/-! ## Tables -/

/-- Gives a value to a key that has none yet, making tables on the way. -/
def give? (members : List (String × Setting)) :
    List String → Setting → Option (List (String × Setting))
  | [], _ => none
  | [name], value =>
    if (Setting.member? name members).isSome then none else some (members ++ [(name, value)])
  | name :: rest, value =>
    match Setting.member? name members with
    | none => (give? [] rest value).map fun inner => members ++ [(name, .table inner)]
    | some (.table inner) => (give? inner rest value).map fun inner =>
        members.map fun m => if m.1 = name then (name, .table inner) else m
    | some _ => none

/-- Changes the table at a place, making tables on the way; of a list of tables the last one
counts. -/
def alter? (change : List (String × Setting) → Option (List (String × Setting))) :
    List String → List (String × Setting) → Option (List (String × Setting))
  | [], members => change members
  | name :: rest, members =>
    match Setting.member? name members with
    | none => (alter? change rest []).map fun inner => members ++ [(name, .table inner)]
    | some (.table inner) => (alter? change rest inner).map fun inner =>
        members.map fun m => if m.1 = name then (name, .table inner) else m
    | some (.list items) =>
      match items.reverse with
      | .table inner :: before => (alter? change rest inner).map fun inner =>
          members.map fun m =>
            if m.1 = name then (name, .list (.table inner :: before).reverse) else m
      | _ => none
    | some _ => none

/-! ## Values -/

mutual

/-- Reads a value. -/
def value? : Nat → List Char → Option (Setting × List Char)
  | 0, _ => none
  | fuel + 1, text =>
    match text with
    | '[' :: rest => (items? fuel [] rest).map fun (items, rest) => (.list items, rest)
    | '\x7b' :: rest =>
      match skipBlanks rest with
      | '\x7d' :: rest => some (.table [], rest)
      | rest => (inlineMembers? fuel [] rest).map fun (members, rest) => (.table members, rest)
    | _ =>
      match string? text with
      | some (s, rest) => some (.text s, rest)
      | none => word? text

/-- Reads the items of a list up to its bracket; those read are kept reversed. -/
def items? : Nat → List Setting → List Char → Option (List Setting × List Char)
  | 0, _, _ => none
  | fuel + 1, done, text =>
    match skipSpace (text.length + 1) text with
    | ']' :: rest => some (done.reverse, rest)
    | text =>
      match value? fuel text with
      | none => none
      | some (item, rest) =>
        match skipSpace (rest.length + 1) rest with
        | ',' :: rest => items? fuel (item :: done) rest
        | ']' :: rest => some ((item :: done).reverse, rest)
        | _ => none

/-- Reads the members of a table in braces. -/
def inlineMembers? :
    Nat → List (String × Setting) → List Char → Option (List (String × Setting) × List Char)
  | 0, _, _ => none
  | fuel + 1, done, text =>
    match key? (text.length + 1) text with
    | some (names, '=' :: rest) =>
      match value? fuel (skipBlanks rest) with
      | none => none
      | some (item, rest) =>
        match give? done names item with
        | none => none
        | some done =>
          match skipBlanks rest with
          | ',' :: rest => inlineMembers? fuel done rest
          | '\x7d' :: rest => some (done, rest)
          | _ => none
    | _ => none

end

/-! ## Files -/

/-- A file read up to some line. -/
structure Document where
  members : List (String × Setting)
  /-- The place of the table that is open. -/
  place : List String
  /-- The places that headers have opened. -/
  opened : List (List String)

/-- Opens a table by its header. -/
def Document.openTable? (d : Document) (place : List String) : Option Document :=
  if d.opened.contains place then none
  else (alter? some place d.members).map fun members => ⟨members, place, place :: d.opened⟩

/-- Opens a new table in a list of tables by its header. -/
def Document.openItem? (d : Document) (place : List String) : Option Document :=
  match place.reverse with
  | [] => none
  | name :: before =>
    let extend (members : List (String × Setting)) : Option (List (String × Setting)) :=
      match Setting.member? name members with
      | none => some (members ++ [(name, .list [.table []])])
      | some (.list items) =>
        some (members.map fun m => if m.1 = name then (name, .list (items ++ [.table []])) else m)
      | some _ => none
    (alter? extend before.reverse d.members).map fun members =>
      ⟨members, place, d.opened.filter fun p => !(place.isPrefixOf p)⟩

/-- Reads one line: the document with it, and what follows. -/
def line? (d : Document) (text : List Char) : Option (Document × List Char) :=
  match skipBlanks text with
  | '[' :: '[' :: rest =>
    match key? (rest.length + 1) rest with
    | some (names, ']' :: ']' :: rest) =>
      match d.openItem? names, lineEnd? rest with
      | some d, some rest => some (d, rest)
      | _, _ => none
    | _ => none
  | '[' :: rest =>
    match key? (rest.length + 1) rest with
    | some (names, ']' :: rest) =>
      match d.openTable? names, lineEnd? rest with
      | some d, some rest => some (d, rest)
      | _, _ => none
    | _ => none
  | '=' :: _ => none
  | text =>
    match lineEnd? text with
    | some rest => some (d, rest)
    | none =>
      match key? (text.length + 1) text with
      | some (names, '=' :: rest) =>
        match value? (2 * rest.length + 2) (skipBlanks rest) with
        | none => none
        | some (item, rest) =>
          match alter? (fun members => give? members names item) d.place d.members,
          lineEnd? rest with
          | some members, some rest => some ({ d with members }, rest)
          | _, _ => none
      | _ => none

/-- Reads lines to the end of the text; each takes at least one character away. -/
def lines? : Nat → Document → List Char → Option Document
  | _, d, [] => some d
  | 0, _, _ => none
  | fuel + 1, d, text =>
    match line? d text with
    | some (d, rest) => lines? fuel d rest
    | none => none

/-- The table that a TOML text holds. -/
def read? (text : String) : Option (List (String × Setting)) :=
  let chars := text.toList
  (lines? (chars.length + 1) ⟨[], [], []⟩ chars).map Document.members

end MessageQueue.Toml
