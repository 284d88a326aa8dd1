import MessageQueue.Proofs.Calendar
import MessageQueue.Signature
import Mathlib.Data.List.DropRight
import Mathlib.Data.List.Destutter

/-!
# The signature scheme

The scheme is defined for any request with any headers.  The names of the headers that are signed
are written in lower case, the spaces in their values are made regular, and the headers are sorted
by name.  They are then written once as lines and once as a list of names.  The day, which is a part
of the scope and the first step from the secret to the key, is what stands before the `T` in the
header with the time.

A signer knows none of this: it writes out the lines, the list of names and the day each in its own
place.  `Signer.headers_follow_scheme` shows that the headers it gives are those of the scheme for
the host and the headers themselves.  This needs only that the spaces in the host and in the token
are regular already; those in the time always are, because it is made of digits, signs, `T` and `Z`
in every year.
-/

namespace MessageQueue

/-! ## Regular spaces -/

/-- A text without spaces around it and without two spaces in a row. -/
structure Regular (text : List Char) : Prop where
  start : text.head? ≠ some ' '
  stop : text.getLast? ≠ some ' '
  single : text.IsChain fun a b => a ≠ ' ' ∨ b ≠ ' '

instance (text : List Char) : Decidable (Regular text) :=
  decidable_of_iff
    (text.head? ≠ some ' ' ∧ text.getLast? ≠ some ' ' ∧ text.IsChain fun a b => a ≠ ' ' ∨ b ≠ ' ')
    ⟨fun ⟨start, stop, single⟩ => ⟨start, stop, single⟩,
      fun ⟨start, stop, single⟩ => ⟨start, stop, single⟩⟩

/-- The text without the spaces around it, and with one space for several in a row. -/
def regular (text : List Char) : List Char :=
  ((text.dropWhile (· = ' ')).rdropWhile (· = ' ')).destutter fun a b => a ≠ ' ' ∨ b ≠ ' '

example : regular "  a  b ".toList = "a b".toList := by decide

/-- A text whose spaces are regular stays as it is. -/
theorem Regular.regular_eq {text : List Char} (tidy : Regular text) : regular text = text := by
  have front : text.dropWhile (· = ' ') = text := by
    rw [List.dropWhile_eq_self_iff]
    intro long
    simpa [List.head?_eq_getElem?, long] using tidy.start
  have back : text.rdropWhile (· = ' ') = text := by
    rw [List.rdropWhile_eq_self_iff]
    intro filled
    simpa [List.getLast?_eq_getLast_of_ne_nil filled] using tidy.stop
  rw [regular, front, back]
  exact List.destutter_of_isChain _ _ tidy.single

/-- A text without spaces is regular. -/
theorem Regular.of_not_mem {text : List Char} (free : ' ' ∉ text) : Regular text where
  start := fun first => free (List.mem_of_head? first)
  stop := fun last => free (List.mem_of_getLast? last)
  single := by
    rw [List.isChain_iff_forall_rel_of_append_cons_cons]
    rintro a b before after rfl
    left
    rintro rfl
    simp at free

/-! ## The scheme -/

/-- Whose signature it is, and for which service. -/
structure Identity where
  accessKey : String
  secretKey : String
  region : String
  service : String

/-- A request as it is described when it is signed: only the headers that are signed are in it. -/
structure Described where
  method : String
  path : String
  query : String
  headers : List (String × String)
  body : String

namespace Described

/-- A header with its name in lower case and regular spaces in its value. -/
def plain (header : String × String) : String × String :=
  (String.ofList (header.1.toList.map Char.toLower), String.ofList (regular header.2.toList))

theorem plain_eq {header : String × String}
    (lower : header.1.toList.map Char.toLower = header.1.toList)
    (value : Regular header.2.toList) : plain header = header := by
  rw [plain, lower, value.regular_eq, String.ofList_toList, String.ofList_toList]

/-- The request with its headers made plain and sorted by name. -/
def normal (d : Described) : Described :=
  { d with headers := (d.headers.map plain).mergeSort fun a b => decide (a.1 ≤ b.1) }

/-- Headers that are plain and in order stay as they are. -/
theorem normal_eq {d : Described} (plain : ∀ header ∈ d.headers, plain header = header)
    (sorted : d.headers.Pairwise fun a b => a.1 ≤ b.1) : d.normal = d := by
  have same : d.headers.map Described.plain = d.headers :=
    (List.map_congr_left plain).trans (List.map_id _)
  rw [normal, same, List.mergeSort_of_pairwise (sorted.imp decide_eq_true)]

/-- The headers, a line each. -/
def lines (d : Described) : String :=
  String.join (d.headers.map fun (name, value) => name ++ ":" ++ value ++ "\n")

/-- The names of the headers. -/
def names (d : Described) : String := String.intercalate ";" (d.headers.map Prod.fst)

/-- The description as a text. -/
def text (hash : Bytes → Bytes) (d : Described) : String :=
  String.intercalate "\n"
    [d.method, d.path, d.query, d.lines, d.names, Bytes.toHex (hash (Utf8.encode d.body))]

/-- When the request is signed. -/
def stamp (d : Described) : String := (d.headers.lookup "x-amz-date").getD ""

/-- The day on which it is signed. -/
def day (d : Described) : String := String.ofList (d.stamp.toList.takeWhile (· ≠ 'T'))

end Described

namespace Scheme

variable (hash : Bytes → Bytes) (who : Identity) (d : Described)

/-- What a signature is restricted to, from the widest to the narrowest. -/
def restriction : List String := [d.normal.day, who.region, who.service, "aws4_request"]

/-- The restriction as a text. -/
def scope : String := String.intercalate "/" (restriction who d)

/-- The text that is signed. -/
def stringToSign : String :=
  String.intercalate "\n"
    ["AWS4-HMAC-SHA256", d.normal.stamp, scope who d,
      Bytes.toHex (hash (Utf8.encode (d.normal.text hash)))]

/-- The key: the secret, restricted step by step. -/
def key : Bytes :=
  (restriction who d).foldl (fun key part => Hmac.digest hash key (Utf8.encode part))
    (Utf8.encode ("AWS4" ++ who.secretKey))

/-- The signature. -/
def signature : String :=
  Bytes.toHex (Hmac.digest hash (key hash who d) (Utf8.encode (stringToSign hash who d)))

/-- The signature with what is needed to check it. -/
def authorization : String :=
  "AWS4-HMAC-SHA256 Credential=" ++ who.accessKey ++ "/" ++ scope who d ++ ", SignedHeaders=" ++
    d.normal.names ++
    ", Signature=" ++ signature hash who d

end Scheme

/-! ## Signatures as digits -/

namespace Bytes

/-- Octets take two digits each. -/
theorem length_toHex (bytes : Bytes) : (toHex bytes).length = 2 * bytes.length := by
  rw [toHex, String.length_ofList]
  induction bytes with
  | nil => rfl
  | cons b bytes ih =>
    rw [List.flatMap_cons, List.length_append, ih, length_hexPair, List.length_cons]
    omega

/-- Octets are written in the digits up to nine and the first six letters in lower case. -/
theorem mem_toHex {bytes : Bytes} {c : Char} (member : c ∈ (toHex bytes).toList) :
    c ∈ "0123456789abcdef".toList := by
  have digit : ∀ n < 16, hexDigit n ∈ "0123456789abcdef".toList := by decide
  rw [toHex, String.toList_ofList, List.mem_flatMap] at member
  obtain ⟨b, -, pair⟩ := member
  have small := b.toNat_lt
  rw [hexPair, List.mem_cons, List.mem_singleton] at pair
  obtain rfl | rfl := pair
  · exact digit _ (by omega)
  · exact digit _ (by omega)

end Bytes

/-! ## Signers -/

namespace Signer

/-- A signer signs for the queue service. -/
def identity (s : Signer) : Identity := ⟨s.accessKey, s.secretKey, s.region, service⟩

/-- What a signer adds to a request beside the signature itself. -/
def added (s : Signer) (r : SignedRequest) : List (String × String) :=
  ("x-amz-date", stamp r) ::
    (s.sessionToken.map fun token => ("x-amz-security-token", token)).toList

/-- The request that a signer signs: its headers are the host and those that the signer adds. -/
def described (s : Signer) (r : SignedRequest) : Described :=
  ⟨r.method, r.path, r.query, ("host", r.host) :: s.added r, r.body⟩

theorem headers_eq (hash : Bytes → Bytes) (s : Signer) (r : SignedRequest) :
    s.headers hash r = ("Authorization", s.authorization hash r) :: s.added r := by
  rw [headers, added]
  cases s.sessionToken <;> rfl

/-- The lines that a signer writes are those of the headers. -/
theorem lines_described (s : Signer) (r : SignedRequest) :
    (s.described r).lines = s.canonicalHeaders r := by
  obtain ⟨accessKey, secretKey, token, region⟩ := s
  rw [← String.toList_inj]
  cases token with
  | none => simp [Described.lines, canonicalHeaders, described, added, String.join]
  | some token => simp [Described.lines, canonicalHeaders, described, added, String.join]

/-- The list of names that a signer writes is that of the headers. -/
theorem names_described (s : Signer) (r : SignedRequest) :
    (s.described r).names = s.signedHeaders := by
  obtain ⟨accessKey, secretKey, token, region⟩ := s
  cases token <;> simp [Described.names, signedHeaders, described, added]

/-- What a signer signs is the description of the request. -/
theorem canonicalRequest_eq (hash : Bytes → Bytes) (s : Signer) (r : SignedRequest) :
    s.canonicalRequest hash r = (s.described r).text hash := by
  rw [canonicalRequest, Described.text, lines_described, names_described]
  rfl

/-- With regular spaces in the host and the token, the headers are plain and in order as a signer
has them. -/
theorem normal_described (s : Signer) (r : SignedRequest) (host : Regular r.host.toList)
    (token : ∀ token ∈ s.sessionToken, Regular token.toList) :
    (s.described r).normal = s.described r := by
  have time : Regular (stamp r).toList := by
    rw [stamp, String.toList_ofList]
    exact .of_not_mem r.time.not_mem_text
  have values : ∀ header ∈ (s.described r).headers, Regular header.2.toList := by
    simpa [described, added, host, time] using token
  have names : ∀ header ∈ (s.described r).headers,
      header.1.toList.map Char.toLower = header.1.toList := by
    cases session : s.sessionToken <;> simp [described, added, session]
  apply Described.normal_eq
  · exact fun header member => Described.plain_eq (names header member) (values header member)
  · cases session : s.sessionToken <;> simp [described, added, session]

/-- The time in the description is that of the signature. -/
theorem stamp_described (s : Signer) (r : SignedRequest) : (s.described r).stamp = stamp r := rfl

/-- The day in the description is that of the signature. -/
theorem day_described (s : Signer) (r : SignedRequest) : (s.described r).day = day r := by
  rw [Described.day, stamp_described, stamp, String.toList_ofList, Timestamp.takeWhile_text, day]

/-- The header with the signature is that of the scheme for the request as it is described. -/
theorem authorization_eq (hash : Bytes → Bytes) (s : Signer) (r : SignedRequest)
    (same : (s.described r).normal = s.described r) :
    s.authorization hash r = Scheme.authorization hash s.identity (s.described r) := by
  have restricted : Scheme.restriction s.identity (s.described r) =
      [day r, s.region, service, "aws4_request"] := by
    rw [Scheme.restriction, same, day_described]
    rfl
  have within : Scheme.scope s.identity (s.described r) = s.scope r := by
    rw [Scheme.scope, restricted, ← String.toList_inj]
    simp [scope]
  have derived : Scheme.key hash s.identity (s.described r) = s.signingKey hash r := by
    rw [Scheme.key, restricted]
    rfl
  have written : Scheme.stringToSign hash s.identity (s.described r) = s.stringToSign hash r := by
    rw [Scheme.stringToSign, within, same, stamp_described, ← canonicalRequest_eq, stringToSign,
      hexDigest]
  have signed : Scheme.signature hash s.identity (s.described r) = s.signature hash r := by
    rw [Scheme.signature, derived, written, signature]
  unfold authorization Scheme.authorization
  rw [within, signed, same, names_described, identity]

/-- The headers of a signer are the signature, the time and, exactly if there is a session, its
token.  The signature is that of the scheme for the host and the other headers that are given, for
the day before the `T` of the time, and it is sixty-four digits long. -/
theorem headers_follow_scheme (hash : Bytes → Bytes)
    (length : ∀ message, (hash message).length = 32)
    (s : Signer) (r : SignedRequest) (host : Regular r.host.toList)
    (token : ∀ token ∈ s.sessionToken, Regular token.toList) :
    let headers := s.headers hash r
    let others := headers.filter (·.1 ≠ "Authorization")
    let d : Described := ⟨r.method, r.path, r.query, ("host", r.host) :: others, r.body⟩
    headers = ("Authorization", Scheme.authorization hash s.identity d) ::
      ("x-amz-date", stamp r) ::
        (s.sessionToken.map fun token => ("x-amz-security-token", token)).toList ∧
      Scheme.restriction s.identity d =
        [String.ofList ((stamp r).toList.takeWhile (· ≠ 'T')), s.region, "sqs", "aws4_request"] ∧
      (Scheme.signature hash s.identity d).length = 64 ∧
      ∀ c ∈ (Scheme.signature hash s.identity d).toList, c ∈ "0123456789abcdef".toList := by
  intro headers others d
  have rest : others = s.added r := by
    cases session : s.sessionToken <;> simp [others, headers, headers_eq, added, session]
  have described : d = s.described r := by
    simp only [d, rest]
    rfl
  have same := s.normal_described r host token
  refine ⟨?_, ?_, ?_, fun c member => Bytes.mem_toHex member⟩
  · rw [described, ← authorization_eq hash s r same]
    exact headers_eq hash s r
  · rw [Scheme.restriction, described, same]
    rfl
  · rw [Scheme.signature, Bytes.length_toHex, Hmac.digest, length]

/-- The scheme is followed in the year ten thousand, when a day has a sign and nine digits. -/
theorem scheme_followed_in_five_digit_year :
    let s : Signer := ⟨"AKID", "secret", some "of the session", "eu-west-1"⟩
    let r : SignedRequest :=
      ⟨"POST", "localhost:9324", "/queue", "", "Action=SendMessage", ⟨253402300800⟩⟩
    let d : Described := ⟨"POST", "/queue", "",
      [("host", "localhost:9324"), ("x-amz-date", "+100000101T000000Z"),
        ("x-amz-security-token", "of the session")],
      "Action=SendMessage"⟩
    s.headers Sha256.digest r =
        [("Authorization", Scheme.authorization Sha256.digest s.identity d),
          ("x-amz-date", "+100000101T000000Z"), ("x-amz-security-token", "of the session")] ∧
      Scheme.restriction s.identity d = ["+100000101", "eu-west-1", "sqs", "aws4_request"] ∧
      (Scheme.signature Sha256.digest s.identity d).length = 64 := by
  intro s r d
  have time : stamp r = "+100000101T000000Z" := by decide
  have given := headers_follow_scheme Sha256.digest Sha256.length_digest s r (by decide)
    (by rintro token ⟨⟩; decide)
  have same : ("host", r.host) :: (s.headers Sha256.digest r).filter (·.1 ≠ "Authorization") =
      d.headers := by
    simp [headers_eq, added, time, s, r, d]
  simp only [same, time] at given
  exact ⟨given.1, given.2.1, given.2.2.1⟩

end Signer
end MessageQueue
