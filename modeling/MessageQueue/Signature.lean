import MessageQueue.Calendar
import MessageQueue.Hash.Hmac
import MessageQueue.Text.Utf8

/-!
# Signed requests

A request is signed with a secret that never leaves the client.  The parts of the request are
written in a canonical form; its digest, together with the time and the scope (day, region and
service) of the signature, is signed with a key that is derived from the secret step by step for
that scope.  The signature goes out in a header, beside the time and, if there is one, the token of
the session.

The hash is a parameter of everything here, so that the form of what is signed can be studied apart
from it.
-/

namespace MessageQueue

/-- Who signs: a key and its secret, the token of a session, and the region of the service. -/
structure Signer where
  accessKey : String
  secretKey : String
  sessionToken : Option String
  region : String
deriving DecidableEq, Repr

/-- What is signed. -/
structure SignedRequest where
  method : String
  /-- The host, with its port if there is one. -/
  host : String
  path : String
  query : String
  body : String
  time : Timestamp
deriving DecidableEq, Repr

namespace Signer

/-- The name of the service in scopes. -/
def service : String := "sqs"

/-- The digest of a text in hexadecimal. -/
def hexDigest (hash : Bytes → Bytes) (text : String) : String :=
  Bytes.toHex (hash (Utf8.encode text))

/-- The day of the signature. -/
def day (r : SignedRequest) : String := String.ofList r.time.dateText

/-- The time of the signature. -/
def stamp (r : SignedRequest) : String := String.ofList r.time.text

/-- The scope of the signature. -/
def scope (s : Signer) (r : SignedRequest) : String :=
  day r ++ "/" ++ s.region ++ "/" ++ service ++ "/aws4_request"

/-- The headers that are signed, a line each. -/
def canonicalHeaders (s : Signer) (r : SignedRequest) : String :=
  "host:" ++ r.host ++ "\n" ++ "x-amz-date:" ++ stamp r ++ "\n" ++
    match s.sessionToken with
    | some token => "x-amz-security-token:" ++ token ++ "\n"
    | none => ""

/-- The names of the headers that are signed. -/
def signedHeaders (s : Signer) : String :=
  "host;x-amz-date" ++ if s.sessionToken.isSome then ";x-amz-security-token" else ""

/-- The request in the form in which it is signed. -/
def canonicalRequest (hash : Bytes → Bytes) (s : Signer) (r : SignedRequest) : String :=
  String.intercalate "\n"
    [r.method, r.path, r.query, s.canonicalHeaders r, s.signedHeaders, hexDigest hash r.body]

/-- The text that is signed. -/
def stringToSign (hash : Bytes → Bytes) (s : Signer) (r : SignedRequest) : String :=
  String.intercalate "\n"
    ["AWS4-HMAC-SHA256", stamp r, s.scope r, hexDigest hash (s.canonicalRequest hash r)]

/-- The key for the scope of a signature. -/
def signingKey (hash : Bytes → Bytes) (s : Signer) (r : SignedRequest) : Bytes :=
  let under (key : Bytes) (text : String) : Bytes := Hmac.digest hash key (Utf8.encode text)
  under (under (under (under (Utf8.encode ("AWS4" ++ s.secretKey)) (day r)) s.region) service)
    "aws4_request"

/-- The signature in hexadecimal. -/
def signature (hash : Bytes → Bytes) (s : Signer) (r : SignedRequest) : String :=
  Bytes.toHex (Hmac.digest hash (s.signingKey hash r) (Utf8.encode (s.stringToSign hash r)))

/-- The header that carries the signature. -/
def authorization (hash : Bytes → Bytes) (s : Signer) (r : SignedRequest) : String :=
  "AWS4-HMAC-SHA256 Credential=" ++ s.accessKey ++ "/" ++ s.scope r ++ ", SignedHeaders=" ++
    s.signedHeaders ++
    ", Signature=" ++ s.signature hash r

/-- The headers that are added to a request, in order. -/
def headers (hash : Bytes → Bytes) (s : Signer) (r : SignedRequest) : List (String × String) :=
  [("Authorization", s.authorization hash r), ("x-amz-date", stamp r)] ++
    match s.sessionToken with
    | some token => [("x-amz-security-token", token)]
    | none => []

end Signer
end MessageQueue
