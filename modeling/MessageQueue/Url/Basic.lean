import MessageQueue.Text.Percent
import MessageQueue.Url.Address

/-!
# URLs

A URL has a scheme, and either an authority (a user, a host and a port) with a path, or a path
alone.  All parts are kept in the form in which they are written: characters that may not stand in a
part are escaped, the host is in ASCII or numeric, and a port that the scheme implies is left out.
-/

namespace MessageQueue

/-- Why a text is no URL. -/
inductive UrlError where
  | relativeWithoutBase
  | emptyHost
  | invalidPort
  | invalidIpv4
  | invalidIpv6
  | invalidInternationalName
  | invalidDomainCharacter
deriving DecidableEq, Repr

/-- What an error says. -/
def UrlError.message : UrlError → String
  | .relativeWithoutBase => "relative URL without a base"
  | .emptyHost => "empty host"
  | .invalidPort => "invalid port number"
  | .invalidIpv4 => "invalid IPv4 address"
  | .invalidIpv6 => "invalid IPv6 address"
  | .invalidInternationalName => "invalid international domain name"
  | .invalidDomainCharacter => "invalid domain character"

/-- A URL. -/
structure Url where
  /-- In small letters. -/
  scheme : List Char
  /-- Whether two solidi and an authority follow the scheme. -/
  hasAuthority : Bool
  username : List Char
  /-- Absent if empty. -/
  password : List Char
  /-- Absent if empty. -/
  host : List Char
  port : Option Nat
  path : List Char
  query : Option (List Char)
  fragment : Option (List Char)
deriving DecidableEq, Repr

namespace Url

/-- The schemes whose URLs always have a host and a path, with the ports they imply. -/
def impliedPort? (scheme : List Char) : Option Nat :=
  if scheme = ['h', 't', 't', 'p'] ∨ scheme = ['w', 's'] then some 80
  else if scheme = ['h', 't', 't', 'p', 's'] ∨ scheme = ['w', 's', 's'] then some 443
  else if scheme = ['f', 't', 'p'] then some 21
  else none

/-- Whether a scheme names local files. -/
def isFile (scheme : List Char) : Bool := scheme = ['f', 'i', 'l', 'e']

/-- Whether a scheme follows the rules of the well known ones. -/
def isSpecial (scheme : List Char) : Bool := (impliedPort? scheme).isSome || isFile scheme

/-- The user as written in front of a host. -/
def userText (u : Url) : List Char :=
  if u.username = [] ∧ u.password = [] then []
  else u.username ++ (if u.password = [] then [] else ':' :: u.password) ++ ['@']

/-- The port as written behind a host. -/
def portText (u : Url) : List Char :=
  match u.port with
  | none => []
  | some p => ':' :: Nat.toDigits 10 p

/-- The host with its port, as it stands in a request. -/
def hostText (u : Url) : List Char := u.host ++ u.portText

/-- The whole URL as text. -/
def text (u : Url) : String :=
  String.ofList <|
    u.scheme ++ [':']
      ++ (if u.hasAuthority then ['/', '/'] ++ u.userText ++ u.hostText else [])
      ++ u.path
      ++ (match u.query with | none => [] | some q => '?' :: q)
      ++ (match u.fragment with | none => [] | some f => '#' :: f)

end Url
end MessageQueue
