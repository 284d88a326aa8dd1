import MessageQueue.Url.Basic
import MessageQueue.Url.Domain

/-!
# Reading URLs

Blanks and controls around a URL, and tabs and line breaks anywhere in it, are passed over.  A URL
is then cut from the left: the scheme up to its colon, the authority up to the path, a query behind
the first question mark and a fragment behind the first number sign.  In the well known schemes a
backslash counts as a solidus.  Dots in the path are resolved as it is read.
-/

namespace MessageQueue.Url

open MessageQueue.Text

/-! ## Characters that are escaped -/

/-- Controls and everything beyond ASCII are escaped everywhere. -/
def isPlain (b : UInt8) : Bool := 0x20 ≤ b.toNat && b.toNat < 0x7F

/-- Escapes all octets of a part but the plain ones that are not singled out. -/
def escapePart (escaped : List Char) (text : List Char) : List Char :=
  Percent.encodeBytes (fun b => isPlain b && !(escaped.contains (Char.ofNat b.toNat)))
    (Utf8.encode (String.ofList text))

/-- What is escaped in a fragment. -/
def fragmentEscapes : List Char := [' ', '"', '<', '>', '\x60']

/-- What is escaped in a path. -/
def pathEscapes : List Char := fragmentEscapes ++ ['#', '?', '\x7b', '\x7d']

/-- What is escaped in a user's name and password. -/
def userEscapes : List Char := pathEscapes ++ ['/', ':', ';', '=', '@', '[', '\\', ']', '^', '|']

/-- What is escaped in a query; an apostrophe only in the well known schemes. -/
def queryEscapes (special : Bool) : List Char :=
  [' ', '"', '#', '<', '>'] ++ if special then ['\x27'] else []

/-! ## Parts -/

/-- Whether a character ends the authority. -/
def endsAuthority (special : Bool) (c : Char) : Bool :=
  c = '/' || c = '?' || c = '#' || (special && c = '\\')

/-- The text without blanks and controls at its ends, and without tabs and line breaks. -/
def trimmed (text : List Char) : List Char :=
  let outside (c : Char) : Bool := c.toNat ≤ 0x20
  let inner := ((text.dropWhile outside).reverse.dropWhile outside).reverse
  inner.filter fun c => c ≠ '\t' && c ≠ '\n' && c ≠ '\r'

/-- Whether a character may stand in a scheme. -/
def isSchemeChar (c : Char) : Bool := c.isAlphanum || c = '+' || c = '-' || c = '.'

/-- The scheme, and what follows its colon. -/
def scheme? (text : List Char) : Option (List Char × List Char) :=
  match text with
  | c :: _ =>
    if c.isAlpha then
      match cut? ':' text with
      | some (scheme, rest) =>
        if scheme.all isSchemeChar then some (scheme.map Char.toLower, rest) else none
      | none => none
    else none
  | [] => none

/-- The last at sign of an authority: what stands before and after it. -/
def cutUser? (authority : List Char) : Option (List Char × List Char) :=
  let back := authority.reverse
  match back.dropWhile (· ≠ '@') with
  | [] => none
  | _ :: before => some (before.reverse, (back.takeWhile (· ≠ '@')).reverse)

/-- The end of a host: the first colon outside brackets. -/
def cutPort (inside : Bool) (host : List Char) : List Char → List Char × Option (List Char)
  | [] => (host.reverse, none)
  | ':' :: rest => if inside then cutPort inside (':' :: host) rest else (host.reverse, some rest)
  | c :: rest =>
    cutPort (if c = '[' then true else if c = ']' then false else inside) (c :: host) rest

/-- An address in brackets. -/
def bracketed (text : List Char) : Except UrlError (List Char) :=
  if text.getLast? = some ']' then
    match Address.ipv6? (text.dropLast.drop 1) with
    | some groups => .ok ('[' :: Address.ipv6Text groups ++ [']'])
    | none => .error .invalidIpv6
  else .error .invalidIpv6

/-- The characters that no host may hold. -/
def forbiddenInHost : List Char :=
  ['\x00', '\t', '\n', '\x0d', ' ', '#', '/', ':', '<', '>', '?', '@', '[', '\\', ']', '^', '|']

/-- A host of the well known schemes: an address or a domain name. -/
def specialHost (text : List Char) : Except UrlError (List Char) :=
  if text.head? = some '[' then bracketed text
  else
    match Domain.toAscii? (Percent.decodeBytes (Utf8.encode (String.ofList text))) with
    | none => .error .invalidInternationalName
    | some [] => .error .emptyHost
    | some name =>
      if Address.endsInNumber name then
        match Address.ipv4? name with
        | some address => .ok (Address.ipv4Text address)
        | none => .error .invalidIpv4
      else .ok name

/-- A host of any other scheme: an address in brackets, or text. -/
def otherHost (text : List Char) : Except UrlError (List Char) :=
  if text.head? = some '[' then bracketed text
  else if text.any (forbiddenInHost.contains ·) then .error .invalidDomainCharacter
  else .ok (escapePart [] text)

/-- A port.  None is read from no digits, and the one that the scheme implies is left out. -/
def port? (scheme text : List Char) : Except UrlError (Option Nat) :=
  if text.all Char.isDigit then
    match text with
    | [] => .ok none
    | _ =>
      match Address.numberIn? 10 text with
      | some n => if 65535 < n then .error .invalidPort
        else .ok (if impliedPort? scheme = some n then none else some n)
      | none => .error .invalidPort
  else .error .invalidPort

/-- The user's name and password. -/
def userOf (text : List Char) : List Char × List Char :=
  match cut? ':' text with
  | some (name, password) => (escapePart userEscapes name, escapePart userEscapes password)
  | none => (escapePart userEscapes text, [])

/-! ## Paths -/

/-- Whether a segment of a path means the directory above. -/
def isDouble (segment : List Char) : Bool :=
  let s := segment.map Char.toLower
  s = ['.', '.'] || s = ['.', '%', '2', 'e'] || s = ['%', '2', 'e', '.'] ||
    s = ['%', '2', 'e', '%', '2', 'e']

/-- Whether a segment of a path means the directory itself. -/
def isSingle (segment : List Char) : Bool :=
  let s := segment.map Char.toLower
  s = ['.'] || s = ['%', '2', 'e']

/-- Takes one segment; `last` says that nothing follows it. -/
def pushSegment (done : List (List Char)) (segment : List Char) (last : Bool) : List (List Char) :=
  if isDouble segment then if last then [] :: done.drop 1 else done.drop 1
  else if isSingle segment then if last then [] :: done else done
  else segment :: done

/-- Resolves the segments of a path, keeping those done reversed. -/
def resolve (done : List (List Char)) : List (List Char) → List (List Char)
  | [] => done.reverse
  | [segment] => (pushSegment done segment true).reverse
  | segment :: rest => resolve (pushSegment done segment false) rest

/-- A path from the text behind the authority, whose first solidus may be missing. -/
def pathOf (special : Bool) (text : List Char) : List Char :=
  let text := if special then text.map fun c => if c = '\\' then '/' else c else text
  let text := match text with | '/' :: rest => rest | _ => text
  let segments := (fields '/' text).map (escapePart pathEscapes)
  '/' :: joined '/' (resolve [] segments)

/-- The path, the query and the fragment apart. -/
def cutTail (text : List Char) : List Char × Option (List Char) × Option (List Char) :=
  let (front, fragment) := match cut? '#' text with
    | some (f, rest) => (f, some rest)
    | none => (text, none)
  match cut? '?' front with
  | some (path, query) => (path, some query, fragment)
  | none => (front, none, fragment)

/-! ## The whole -/

/-- A user, a host and a port. -/
structure Authority where
  username : List Char
  password : List Char
  host : List Char
  port : Option Nat

namespace Authority

/-- The user's name and password, and what follows them.  `followed` says that a path, a query or a
fragment stands behind the authority. -/
def readUser (text : List Char) (followed : Bool) :
    Except UrlError (List Char × List Char × List Char) :=
  match cutUser? text with
  | none => .ok ([], [], text)
  | some ([], rest) => if rest = [] ∧ followed then .error .emptyHost else .ok ([], [], rest)
  | some (user, rest) => .ok ((userOf user).1, (userOf user).2, rest)

/-- A host, which only the well known schemes need. -/
def readHost (special : Bool) (text : List Char) : Except UrlError (List Char) :=
  if special then if text = [] then .error .emptyHost else specialHost text
  else otherHost text

/-- The port of a host, if there is one. -/
def readPort (scheme host : List Char) : Option (List Char) → Except UrlError (Option Nat)
  | none => .ok none
  | some text => if host = [] then .error .emptyHost else port? scheme text

/-- Reads the authority of a scheme other than that of files. -/
def parse (scheme text : List Char) (followed : Bool) : Except UrlError Authority := do
  let (username, password, hostAndPort) ← readUser text followed
  let (hostPart, portPart) := cutPort false [] hostAndPort
  let host ← readHost (isSpecial scheme) hostPart
  let port ← readPort scheme host portPart
  if host = [] ∧ (username ≠ [] ∨ password ≠ []) then .error .emptyHost
  else .ok ⟨username, password, host, port⟩

/-- Reads the host of a URL of local files, which may be missing or mean the machine itself. -/
def ofFile (text : List Char) : Except UrlError Authority := do
  let host ← if text = [] then pure [] else specialHost text
  pure ⟨[], [], if host = "localhost".toList then [] else host, none⟩

end Authority

/-- A URL with an authority, from the text behind the two solidi. -/
def withAuthority (scheme text : List Char) : Except UrlError Url := do
  let special := isSpecial scheme
  let authority := text.takeWhile fun c => !endsAuthority special c
  let rest := text.drop authority.length
  let a ← if isFile scheme then Authority.ofFile authority
    else Authority.parse scheme authority (rest ≠ [])
  let (path, query, fragment) := cutTail rest
  pure {
    scheme
    hasAuthority := true
    username := a.username
    password := a.password
    host := a.host
    port := a.port
    path := if special ∨ path ≠ [] then pathOf special path else []
    query := query.map (escapePart (queryEscapes special))
    fragment := fragment.map (escapePart fragmentEscapes) }

/-- A URL without an authority. -/
def withoutAuthority (scheme text : List Char) : Url :=
  let (path, query, fragment) := cutTail text
  { scheme
    hasAuthority := false
    username := []
    password := []
    host := []
    port := none
    path := if path.head? = some '/' then pathOf false path else escapePart [] path
    query := query.map (escapePart (queryEscapes false))
    fragment := fragment.map (escapePart fragmentEscapes) }

/-- What follows the two solidi of a URL of local files; both may be missing, and backslashes count
as solidi. -/
def fileRest : List Char → List Char
  | a :: b :: rest =>
    let isSlash (c : Char) : Bool := c = '/' || c = '\\'
    if isSlash a && isSlash b then rest else if isSlash a then a :: b :: rest
      else '/' :: a :: b :: rest
  | ['\\'] => ['/']
  | ['/'] => ['/']
  | text => '/' :: text

/-- Reads a URL. -/
def parse (text : String) : Except UrlError Url :=
  match scheme? (trimmed text.toList) with
  | none => .error .relativeWithoutBase
  | some (scheme, rest) =>
    if isFile scheme then withAuthority scheme (fileRest rest)
    else if isSpecial scheme then
      withAuthority scheme (rest.dropWhile fun c => c = '/' || c = '\\')
    else
      match rest with
      | '/' :: '/' :: rest => withAuthority scheme rest
      | _ => .ok (withoutAuthority scheme rest)

end MessageQueue.Url
