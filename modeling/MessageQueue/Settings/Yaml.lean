import MessageQueue.Json.Reader
import MessageQueue.Settings.Value
import MessageQueue.Text.Fields

/-!
# Settings in YAML

A file holds one value, laid out by indentation: a table has a key and a colon on each line, a list
has a hyphen, and what belongs to either stands farther to the right.  Inside brackets and braces,
and inside quotes, the layout does not matter.  A word without quotes is a number, a truth value or
nothing if it spells one, and a text otherwise.  Anchors, aliases, tags and several documents in one
file are refused.

A value is read from the lines that are left, with a bound on the nesting of calls that the length
of the text supplies.
-/

namespace MessageQueue.Yaml

open MessageQueue.Text (fields cut?)

/-! ## Words -/

/-- The value of a word without quotes. -/
def ofWord (word : List Char) : Setting :=
  let text := String.ofList word
  let decimal (digits : List Char) : Option Nat :=
    if digits ≠ [] ∧ digits.all Char.isDigit then some ((Decimal.digits 0 0 digits).1) else none
  let radix (base : Nat) (digits : List Char) : Option Nat :=
    if digits = [] then none
    else digits.foldl (fun n c => n.bind fun n => (Bytes.hexValue? c).bind fun d =>
      if d < base then some (base * n + d) else none) (some 0)
  let signed : Option Int := match word with
    | '0' :: 'x' :: rest => (radix 16 rest).map Int.ofNat
    | '0' :: 'o' :: rest => (radix 8 rest).map Int.ofNat
    | '+' :: rest => (decimal rest).map Int.ofNat
    | '-' :: rest => (decimal rest).map fun n => -(n : Int)
    | rest => (decimal rest).map Int.ofNat
  match signed.bind fun n => if -Int.pow 2 63 ≤ n ∧ n < Int.pow 2 63 then some n else none with
  | some n => .integer n
  | none =>
    if text = "" ∨ text = "~" ∨ text = "null" then .nothing
    else if text = "true" then .truth true
    else if text = "false" then .truth false
    else if [".inf", ".Inf", ".INF", "+.inf", "+.Inf", "+.INF"].contains text then .real (1.0 / 0.0)
    else if ["-.inf", "-.Inf", "-.INF"].contains text then .real (-1.0 / 0.0)
    else if [".nan", "NaN", ".NaN", ".NAN"].contains text then .real (0.0 / 0.0)
    else if word.any Char.isDigit then
      match Decimal.read? text with
      | some x => .real x
      | none => .text text
    else .text text

/-! ## Lines -/

/-- A line: how far it is indented, and what stands on it. -/
structure Line where
  indent : Nat
  text : List Char
deriving DecidableEq

/-- Text without blanks at its end. -/
def trimEnd (text : List Char) : List Char :=
  (text.reverse.dropWhile fun c => c = ' ' || c = '\t' || c = '\x0d').reverse

/-- A line taken apart. -/
def lineOf (text : List Char) : Line :=
  let indent := (text.takeWhile (· = ' ')).length
  ⟨indent, trimEnd (text.drop indent)⟩

/-- The lines of a text. -/
def linesOf (text : List Char) : List Line := (fields '\n' text).map lineOf

/-- Whether a line holds nothing but a comment. -/
def Line.isEmpty (l : Line) : Bool :=
  match l.text with
  | [] => true
  | c :: _ => c = '#'

/-- The lines from the first that is not empty on. -/
def skipEmpty (lines : List Line) : List Line := lines.dropWhile Line.isEmpty

/-- The lines as one text. -/
def Line.unread (lines : List Line) : List Char :=
  Text.joined '\n' (lines.map fun l => List.replicate l.indent ' ' ++ l.text)

/-- A word up to a comment. -/
def dropComment (previous : Char) : List Char → List Char
  | [] => []
  | c :: rest =>
    if c = '#' ∧ (previous = ' ' ∨ previous = '\t') then [] else c :: dropComment c rest

/-! ## Quotes -/

/-- The character that an escape of one letter stands for. -/
def escaped? (c : Char) : Option Char :=
  if c = '0' then some '\x00'
  else if c = 'a' then some '\x07'
  else if c = 'v' then some '\x0b'
  else if c = 'e' then some '\x1b'
  else if c = ' ' ∨ c = '\t' then some c
  else if c = 'N' then some (Char.ofNat 0x85)
  else if c = '_' then some (Char.ofNat 0xA0)
  else if c = 'L' then some (Char.ofNat 0x2028)
  else if c = 'P' then some (Char.ofNat 0x2029)
  else Json.escaped? c

/-- Line ends inside quotes: one is a blank, and of several the first is left out. -/
def folded (breaks : Nat) : List Char :=
  if breaks ≤ 1 then [' '] else List.replicate (breaks - 1) '\n'

/-- Reads over line ends and the blanks around them: how many there are, and what follows. -/
def breaksFrom (count : Nat) : List Char → Nat × List Char
  | [] => (count, [])
  | c :: rest =>
    if c = '\n' then breaksFrom (count + 1) rest
    else if c = ' ' ∨ c = '\t' ∨ c = '\x0d' then breaksFrom count rest
    else (count, c :: rest)

/-- Puts folded line ends behind what has been read, in place of the blanks before them. -/
def foldInto (done : List Char) (breaks : Nat) : List Char :=
  (folded breaks).reverse ++ done.dropWhile fun c => c = ' ' || c = '\t'

/-- Reads a string in double quotes, behind the first of them. -/
def doubleQuoted? : Nat → List Char → List Char → Option (String × List Char)
  | 0, _, _ => none
  | fuel + 1, done, text =>
    match text with
    | [] => none
    | '"' :: rest => some (String.ofList done.reverse, rest)
    | '\\' :: '\n' :: rest => doubleQuoted? fuel done (rest.dropWhile fun c => c = ' ' || c = '\t')
    | '\\' :: 'x' :: a :: b :: rest =>
      match Bytes.hexValue? a, Bytes.hexValue? b with
      | some h, some l => doubleQuoted? fuel (Char.ofNat (16 * h + l) :: done) rest
      | _, _ => none
    | '\\' :: 'u' :: a :: b :: c :: d :: rest =>
      match Json.unit? a b c d with
      | some n =>
        if n < 0xD800 ∨ 0xDFFF < n then doubleQuoted? fuel (Char.ofNat n :: done) rest else none
      | none => none
    | '\\' :: e :: rest =>
      match escaped? e with
      | some c => doubleQuoted? fuel (c :: done) rest
      | none => none
    | '\n' :: _ =>
      let (breaks, rest) := breaksFrom 0 text
      doubleQuoted? fuel (foldInto done breaks) rest
    | c :: rest => doubleQuoted? fuel (c :: done) rest

/-- Reads a string between apostrophes, behind the first of them; one inside is written twice. -/
def singleQuoted? : Nat → List Char → List Char → Option (String × List Char)
  | 0, _, _ => none
  | fuel + 1, done, text =>
    match text with
    | [] => none
    | '\x27' :: '\x27' :: rest => singleQuoted? fuel ('\x27' :: done) rest
    | '\x27' :: rest => some (String.ofList done.reverse, rest)
    | '\n' :: _ =>
      let (breaks, rest) := breaksFrom 0 text
      singleQuoted? fuel (foldInto done breaks) rest
    | c :: rest => singleQuoted? fuel (c :: done) rest

/-- Reads a string in quotes of either kind. -/
def quoted? (text : List Char) : Option (String × List Char) :=
  match text with
  | '"' :: rest => doubleQuoted? (rest.length + 1) [] rest
  | '\x27' :: rest => singleQuoted? (rest.length + 1) [] rest
  | _ => none

/-! ## Brackets and braces -/

/-- Skips blanks, line ends and comments. -/
def skipSpace : Nat → List Char → List Char
  | 0, text => text
  | fuel + 1, text =>
    match text.dropWhile fun c => c = ' ' || c = '\t' || c = '\x0d' || c = '\n' with
    | '#' :: rest => skipSpace fuel (rest.dropWhile (· ≠ '\n'))
    | rest => rest

/-- The word at the start of a text inside brackets. -/
def flowWord (done : List Char) : List Char → List Char × List Char
  | [] => (done.reverse, [])
  | c :: rest =>
    if [',', '[', ']', '\x7b', '\x7d', '\n'].contains c then (done.reverse, c :: rest)
    else if c = ':' ∧ rest.head?.all ([' ', '\t', '\n', ',', ']', '\x7d'].contains ·) then
      (done.reverse, c :: rest)
    else flowWord (c :: done) rest

/-- The text of a setting that serves as a key. -/
def keyText? : Setting → Option String
  | .text s => some s
  | .integer n => some (toString n)
  | .truth b => some (if b then "true" else "false")
  | .real x => some (Setting.realText x)
  | _ => none

/-- Whether a word may begin with a character. -/
def beginsWord (c : Char) : Bool :=
  !(['&', '*', '!', '|', '>', '%', '@', '\x60', '#', ',', ']', '\x7d', '[', '\x7b', '"',
    '\x27'].contains c)

mutual

/-- Reads a value inside brackets. -/
def flow? : Nat → List Char → Option (Setting × List Char)
  | 0, _ => none
  | fuel + 1, text =>
    match skipSpace (text.length + 1) text with
    | '[' :: rest => (flowItems? fuel [] rest).map fun (items, rest) => (.list items, rest)
    | '\x7b' :: rest =>
      (flowMembers? fuel [] rest).map fun (members, rest) => (.table members, rest)
    | text =>
      match quoted? text with
      | some (s, rest) => some (.text s, rest)
      | none =>
        if text.head?.all beginsWord then
          let (word, rest) := flowWord [] text
          some (ofWord (trimEnd (dropComment ' ' word)), rest)
        else none

/-- Reads items up to the closing bracket; those read are kept reversed. -/
def flowItems? : Nat → List Setting → List Char → Option (List Setting × List Char)
  | 0, _, _ => none
  | fuel + 1, done, text =>
    match skipSpace (text.length + 1) text with
    | ']' :: rest => some (done.reverse, rest)
    | [] => none
    | ',' :: _ => none
    | text =>
      match flow? fuel text with
      | none => none
      | some (item, rest) =>
        match skipSpace (rest.length + 1) rest with
        | ',' :: rest => flowItems? fuel (item :: done) rest
        | ']' :: rest => some ((item :: done).reverse, rest)
        | _ => none

/-- Reads members up to the closing brace; those read are kept reversed. -/
def flowMembers? :
    Nat → List (String × Setting) → List Char → Option (List (String × Setting) × List Char)
  | 0, _, _ => none
  | fuel + 1, done, text =>
    match skipSpace (text.length + 1) text with
    | '\x7d' :: rest => some (done.reverse, rest)
    | [] => none
    | ',' :: _ => none
    | text =>
      match flow? fuel text with
      | none => none
      | some (key, rest) =>
        match keyText? key with
        | none => none
        | some name =>
          let value : Option (Setting × List Char) :=
            match skipSpace (rest.length + 1) rest with
            | ':' :: rest =>
              match skipSpace (rest.length + 1) rest with
              | ',' :: rest => some (.nothing, ',' :: rest)
              | '\x7d' :: rest => some (.nothing, '\x7d' :: rest)
              | rest => flow? fuel rest
            | rest => some (.nothing, rest)
          match value with
          | none => none
          | some (item, rest) =>
            if (Setting.member? name done).isSome then none
            else match skipSpace (rest.length + 1) rest with
              | ',' :: rest => flowMembers? fuel ((name, item) :: done) rest
              | '\x7d' :: rest => some (((name, item) :: done).reverse, rest)
              | _ => none

end

/-! ## Blocks -/

/-- The key of a line and what follows its colon, if the line has a key. -/
def key? (text : List Char) : Option (String × List Char) :=
  match quoted? text with
  | some (name, rest) =>
    match rest.dropWhile (fun c => c = ' ') with
    | ':' :: rest => if rest = [] ∨ rest.head? = some ' ' then some (name, rest) else none
    | _ => none
  | none =>
    let rec go (previous : Char) (done : List Char) : List Char → Option (List Char × List Char)
      | [] => none
      | c :: rest =>
        if c = '#' ∧ previous = ' ' then none
        else if c = ':' ∧ (rest = [] ∨ rest.head? = some ' ' ∨ rest.head? = some '\t') then
          some (done.reverse, rest)
        else go c (c :: done) rest
    if text.head?.all beginsWord then
      (go ' ' [] text).bind fun (word, rest) =>
        (keyText? (ofWord (trimEnd word))).map fun name => (name, rest)
    else none

/-- Whether a line is an item of a list. -/
def Line.isItem (l : Line) : Bool :=
  match l.text with
  | ['-'] => true
  | '-' :: ' ' :: _ => true
  | _ => false

/-- The lines of a block of text, cut to its indentation. -/
def blockText (keepBreaks : Bool) (final : Char) (lines : List Line) : String :=
  let indent := match lines.find? (fun l => l.text ≠ []) with
    | some l => l.indent
    | none => 0
  let rows :=
    lines.map fun l => if l.text = [] then [] else List.replicate (l.indent - indent) ' ' ++ l.text
  let body := (rows.reverse.dropWhile (· = [])).reverse
  let tail := rows.length - body.length
  let rec folding : List (List Char) → List Char
    | [] => []
    | [row] => row
    | row :: next :: rest =>
      if row = [] then '\n' :: folding (next :: rest)
      else if next = [] ∨ next.head? = some ' ' ∨ row.head? = some ' ' then
        row ++ (if next = [] then [] else ['\n']) ++ folding (next :: rest)
      else row ++ ' ' :: folding (next :: rest)
  let text := if keepBreaks then Text.joined '\n' body else folding body
  let ending :=
    if final = '-' ∨ body = [] then [] else if final = '+' then List.replicate (tail + 1) '\n'
      else ['\n']
  String.ofList (text ++ ending)

/-- The rest of a line behind a closing quote or bracket, which may hold only a comment: the lines
that follow. -/
def afterValue? (rest : List Char) : Option (List Line) :=
  let line := rest.takeWhile (· ≠ '\n')
  if trimEnd (dropComment ' ' (line.dropWhile fun c => c = ' ' || c = '\t')) = [] then
    some (linesOf (rest.drop (line.length + 1)))
  else none

/-- Reads a value that begins on a line, of which deeper lines may be a part. -/
def inline? (indent : Nat) (text : List Char) (lines : List Line) : Option (Setting × List Line) :=
  let whole := text ++ '\n' :: Line.unread lines
  match text with
  | [] => none
  | c :: rest =>
    if c = '[' ∨ c = '\x7b' then
      (flow? (2 * whole.length + 2) whole).bind fun (s, rest) =>
        (afterValue? rest).map fun lines => (s, lines)
    else if c = '"' ∨ c = '\x27' then
      (quoted? whole).bind fun (s, rest) => (afterValue? rest).map fun lines => (.text s, lines)
    else if c = '|' ∨ c = '>' then
      let marks := trimEnd (dropComment ' ' rest)
      if marks = [] ∨ marks = ['-'] ∨ marks = ['+'] then
        let block := lines.takeWhile fun l => l.text = [] || indent ≤ l.indent
        some (.text (blockText (c = '|') (marks.headD ' ') block), lines.drop block.length)
      else none
    else if beginsWord c then
      let first := trimEnd (dropComment c (c :: rest))
      let more := lines.takeWhile fun l => !l.isEmpty && indent ≤ l.indent
      if more.any (fun l => (key? l.text).isSome) then none
      else
        let parts := first :: more.map fun l => trimEnd (dropComment ' ' l.text)
        some (ofWord (Text.joined ' ' parts), lines.drop more.length)
    else none

mutual

/-- Reads the value on the lines that are indented at least so far; nothing, if there is none. -/
def node? : Nat → Nat → List Line → Option (Setting × List Line)
  | 0, _, _ => none
  | fuel + 1, indent, lines =>
    match skipEmpty lines with
    | [] => some (.nothing, [])
    | l :: rest =>
      if l.indent < indent then some (.nothing, l :: rest)
      else if l.text.head? = some '\t' then none
      else if l.isItem
        then (items? fuel l.indent [] (l :: rest)).map fun (items, rest) => (.list items, rest)
      else if (key? l.text).isSome then
        (members? fuel l.indent [] (l :: rest)).map fun (members, rest) => (.table members, rest)
      else inline? indent l.text rest

/-- Reads the items of a list at an indentation; those read are kept reversed. -/
def items? : Nat → Nat → List Setting → List Line → Option (List Setting × List Line)
  | 0, _, _, _ => none
  | fuel + 1, indent, done, lines =>
    match skipEmpty lines with
    | [] => some (done.reverse, [])
    | l :: rest =>
      if l.indent < indent then some (done.reverse, l :: rest)
      else if l.indent = indent ∧ l.isItem then
        let inner := l.text.drop 1
        let blanks := (inner.takeWhile (· = ' ')).length
        match node? fuel (indent + 1) (⟨indent + 1 + blanks, inner.drop blanks⟩ :: rest) with
        | some (item, rest) => items? fuel indent (item :: done) rest
        | none => none
      else if l.indent = indent then some (done.reverse, l :: rest)
      else none

/-- Reads the members of a table at an indentation; those read are kept reversed. -/
def members? :
    Nat → Nat → List (String × Setting) → List Line → Option (List (String × Setting) × List Line)
  | 0, _, _, _ => none
  | fuel + 1, indent, done, lines =>
    match skipEmpty lines with
    | [] => some (done.reverse, [])
    | l :: rest =>
      if l.indent < indent then some (done.reverse, l :: rest)
      else if l.indent = indent then
        match key? l.text with
        | none => none
        | some (name, after) =>
          if (Setting.member? name done).isSome then none
          else
            let after := trimEnd (after.dropWhile fun c => c = ' ' || c = '\t')
            let value : Option (Setting × List Line) :=
              if after = [] ∨ after.head? = some '#' then
                match skipEmpty rest with
                | next :: _ => if next.indent = indent ∧ next.isItem
                    then (items? fuel indent [] rest).map fun (items, rest) => (.list items, rest)
                    else node? fuel (indent + 1) rest
                | [] => some (.nothing, [])
              else if (key? after).isSome then none
              else inline? (indent + 1) after rest
            match value with
            | some (item, rest) => members? fuel indent ((name, item) :: done) rest
            | none => none
      else none

end

/-! ## Files -/

/-- Whether a line begins or ends a document. -/
def Line.isMark (mark : Char) (l : Line) : Bool :=
  l.indent = 0 && l.text.take 3 = [mark, mark, mark]

/-- The lines of the only document of a file, and whether it was opened by a mark. -/
def document? (lines : List Line) : Option (List Line × Bool) :=
  let body := lines.dropWhile fun l => l.isEmpty || l.text.head? = some '%'
  let marked := body.head?.any (Line.isMark '-')
  let body : List Line := match body with
    | l :: rest => if l.isMark '-' then ⟨3, l.text.drop 3⟩ :: rest else l :: rest
    | [] => []
  let inside := body.takeWhile fun l => !(l.isMark '-') && !(l.isMark '.')
  let outside := (body.drop inside.length).filter fun l => !(l.isMark '.') && !l.isEmpty
  if outside = [] then
    some (inside.map fun l =>
      let blanks := (l.text.takeWhile (· = ' ')).length
      ⟨l.indent + blanks, l.text.drop blanks⟩, marked)
  else none

/-- The table that a YAML text holds. -/
def read? (text : String) : Option (List (String × Setting)) :=
  let chars := text.toList
  match document? (linesOf chars) with
  | none => none
  | some (lines, marked) =>
    match node? (4 * chars.length + 8) 0 lines with
    | some (value, rest) =>
      if (skipEmpty rest).isEmpty then
        match value with
        | .table members => some members
        | .nothing => if marked ∨ (skipEmpty lines).length ≠ 0 then none else some []
        | _ => none
      else none
    | none => none

end MessageQueue.Yaml
