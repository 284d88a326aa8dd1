import MessageQueue.Proofs.Signature.Scheme
import MessageQueue.Text.Fields
import Mathlib.Data.List.Basic

/-!
# What a signature is bound to

The request is written as lines before it is hashed, one for each of its parts, and one more for the
token if there is one.  The lines are known from the text because none of them has a line break in
it (`requestLines_injective`).

The text that is signed has the time in its second line, the hash of the request in its last line,
and the scope between them.  The region may be any text, line breaks included: the scope begins with
the day, which is known from the time, and its end is always the same.  So two texts that are signed
agree exactly if the regions, the tokens and the requests are the same, as long as the hash tells
the requests and the bodies apart (`stringToSign_eq_iff`).
-/

namespace MessageQueue

/-! ## Parts of a text -/

namespace Text

variable {c : Char} {first second rest other : List Char}

/-- A text is cut at the first separator in one way only. -/
theorem append_cons_inj (free : c ∉ first) (freeToo : c ∉ second)
    (same : first ++ c :: rest = second ++ c :: other) : first = second ∧ rest = other := by
  have cut := cut?_append c first rest free
  rw [same, cut?_append c second other freeToo] at cut
  exact ⟨(Prod.mk.inj (Option.some.inj cut)).1.symm, (Prod.mk.inj (Option.some.inj cut)).2.symm⟩

/-- A text is cut at the last separator in one way only. -/
theorem append_cons_inj' (free : c ∉ rest) (freeToo : c ∉ other)
    (same : first ++ c :: rest = second ++ c :: other) : first = second ∧ rest = other := by
  have reversed := congrArg List.reverse same
  simp only [List.reverse_append, List.reverse_cons, List.append_assoc,
    List.singleton_append] at reversed
  obtain ⟨back, front⟩ := append_cons_inj (by simpa using free) (by simpa using freeToo) reversed
  exact ⟨List.reverse_injective front, List.reverse_injective back⟩

end Text

/-! ## Hexadecimal digits -/

namespace Bytes

theorem hexPair_injective {b c : UInt8} (same : hexPair b = hexPair c) : b = c := by
  have digit {m n : Nat} (small : m < 16) (smallToo : n < 16) (same : hexDigit m = hexDigit n) :
      m = n := by
    have value := hexValue?_hexDigit small
    rw [same, hexValue?_hexDigit smallToo] at value
    exact (Option.some.inj value).symm
  obtain ⟨high, rest⟩ := List.cons.inj same
  have low := (List.cons.inj rest).1
  have bound := b.toNat_lt
  have boundToo := c.toNat_lt
  have high := digit (by omega) (by omega) high
  have low := digit (by omega) (by omega) low
  exact UInt8.toNat_inj.mp (by omega)

/-- Octets are known from their digits. -/
theorem toHex_injective {bytes others : Bytes} (same : toHex bytes = toHex others) :
    bytes = others := by
  have digits := String.ofList_injective same
  clear same
  induction bytes generalizing others with
  | nil =>
    cases others with
    | nil => rfl
    | cons c others => cases digits
  | cons b bytes ih =>
    cases others with
    | nil => cases digits
    | cons c others =>
      obtain ⟨pair, rest⟩ := List.append_inj digits rfl
      rw [hexPair_injective pair, ih rest]

end Bytes

/-! ## Lines -/

/-- A text without a line break. -/
def SingleLine (text : String) : Prop := '\n' ∉ text.toList

instance : DecidablePred SingleLine := fun text => inferInstanceAs (Decidable ('\n' ∉ text.toList))

/-- Lines are known from the text that they make. -/
theorem intercalate_injective {lines others : List String} (filled : lines ≠ [])
    (filledToo : others ≠ [])
    (single : ∀ line ∈ lines, SingleLine line) (singleToo : ∀ line ∈ others, SingleLine line)
    (same : String.intercalate "\n" lines = String.intercalate "\n" others) : lines = others := by
  have split {ls : List String} (nonempty : ls ≠ []) (lined : ∀ line ∈ ls, SingleLine line) :
      List.splitOn '\n' (String.intercalate "\n" ls).toList = ls.map String.toList := by
    rw [String.toList_intercalate]
    refine List.splitOn_intercalate '\n' (fun part member => ?_) (by simpa using nonempty)
    obtain ⟨line, stands, rfl⟩ := List.mem_map.mp member
    exact lined line stands
  have parts := split filled single
  rw [same, split filledToo singleToo] at parts
  exact (List.map_injective_iff.mpr (fun _ _ => String.toList_inj.mp) parts).symm

theorem SingleLine.append {front back : String} (single : SingleLine front)
    (singleToo : SingleLine back) :
    SingleLine (front ++ back) := by
  rw [SingleLine, String.toList_append, List.mem_append, not_or]
  exact ⟨single, singleToo⟩

/-! ## Requests that are signed -/

namespace Signer

/-- No part of a request that makes a line has a line break in it. -/
structure Lined (s : Signer) (r : SignedRequest) : Prop where
  method : SingleLine r.method
  host : SingleLine r.host
  path : SingleLine r.path
  query : SingleLine r.query
  token : ∀ token ∈ s.sessionToken, SingleLine token

section Lines

variable (hash : Bytes → Bytes) (s : Signer) (r : SignedRequest)

/-- The line of the token, if there is one. -/
def tokenLine : List String :=
  (s.sessionToken.map fun token => "x-amz-security-token:" ++ token).toList

/-- The lines of a request. -/
def requestLines : List String :=
  [r.method, r.path, r.query, "host:" ++ r.host, "x-amz-date:" ++ stamp r] ++
    (s.tokenLine ++ ["", s.signedHeaders, hexDigest hash r.body])

theorem canonicalRequest_eq_lines :
    s.canonicalRequest hash r = String.intercalate "\n" (s.requestLines hash r) := by
  rw [← String.toList_inj]
  cases session : s.sessionToken <;>
      simp [canonicalRequest, requestLines, tokenLine, canonicalHeaders, session]

theorem singleLine_stamp : SingleLine (stamp r) := by
  rw [SingleLine, stamp, String.toList_ofList]
  exact fun member => absurd (Timestamp.mem_text member) (by decide)

theorem singleLine_hexDigest (text : String) : SingleLine (hexDigest hash text) :=
  fun member => absurd (Bytes.mem_toHex member) (by decide)

theorem singleLine_signedHeaders : SingleLine s.signedHeaders := by
  rw [signedHeaders]
  split <;> decide

variable {s r}

theorem Lined.requestLines (lined : Lined s r) :
    ∀ line ∈ s.requestLines hash r, SingleLine line := by
  have host : SingleLine ("host:" ++ r.host) := .append (by decide) lined.host
  have date : SingleLine ("x-amz-date:" ++ stamp r) := .append (by decide) (singleLine_stamp r)
  have token : ∀ line ∈ s.tokenLine, SingleLine line := by
    intro line member
    obtain ⟨token, stands, rfl⟩ := Option.map_eq_some_iff.mp (Option.mem_toList.mp member)
    exact .append (by decide) (lined.token token stands)
  have last : SingleLine "" := by decide
  simp only [Signer.requestLines, List.forall_mem_append, List.forall_mem_cons]
  exact ⟨⟨lined.method, lined.path, lined.query, host, date, nofun⟩, token,
    ⟨last, singleLine_signedHeaders s, singleLine_hexDigest hash r.body, nofun⟩⟩

end Lines

section Binding

variable {hash : Bytes → Bytes} {s s' : Signer} {r r' : SignedRequest}

theorem hexDigest_injective {text other : String}
    (apart : hash (Utf8.encode text) = hash (Utf8.encode other) → text = other)
    (same : hexDigest hash text = hexDigest hash other) : text = other :=
  apart (Bytes.toHex_injective same)

theorem stamp_injective (same : stamp r = stamp r') : r.time = r'.time :=
  Timestamp.text_injective (String.ofList_injective same)

/-- A request is known from its lines, but for the body, of which the hash is known. -/
theorem requestLines_injective (same : s.requestLines hash r = s'.requestLines hash r') :
    s.sessionToken = s'.sessionToken ∧ r.method = r'.method ∧ r.host = r'.host ∧ r.path = r'.path ∧
      r.query = r'.query ∧
      r.time = r'.time ∧ hexDigest hash r.body = hexDigest hash r'.body := by
  obtain ⟨front, back⟩ := List.append_inj same rfl
  simp only [List.cons.injEq, String.append_right_inj, and_true] at front
  obtain ⟨method, path, query, host, time⟩ := front
  obtain ⟨line, last⟩ := List.append_inj' back rfl
  have token : s.sessionToken = s'.sessionToken := by
    unfold tokenLine at line
    cases session : s.sessionToken <;> cases session' : s'.sessionToken <;>
        simp [session, session'] at line ⊢
    exact line
  simp only [List.cons.injEq, and_true] at last
  exact ⟨token, method, host, path, query, stamp_injective time, last.2.2⟩

/-- The time, the region and the digest of the request are known from the text that is signed. -/
theorem stringToSign_inv (same : s.stringToSign hash r = s'.stringToSign hash r') :
    r.time = r'.time ∧ s.region = s'.region ∧
      hexDigest hash (s.canonicalRequest hash r) =
        hexDigest hash (s'.canonicalRequest hash r') := by
  have text (s : Signer) (r : SignedRequest) : (s.stringToSign hash r).toList =
      "AWS4-HMAC-SHA256\n".toList ++ ((stamp r).toList ++ '\n' ::
        ((s.scope r).toList ++ '\n' :: (hexDigest hash (s.canonicalRequest hash r)).toList)) := by
    simp [stringToSign]
  have chars := congrArg String.toList same
  rw [text, text] at chars
  obtain ⟨time, rest⟩ :=
    Text.append_cons_inj (singleLine_stamp r) (singleLine_stamp r') (List.append_cancel_left chars)
  obtain ⟨scope, digest⟩ :=
    Text.append_cons_inj' (singleLine_hexDigest hash _) (singleLine_hexDigest hash _) rest
  have instant := stamp_injective (String.toList_inj.mp time)
  refine ⟨instant, ?_, String.toList_inj.mp digest⟩
  -- The day in front of the region is that of the time, and what is behind the region never
  -- changes.
  have parts : day r ++ "/" ++ s.region ++ "/" ++ service ++ "/aws4_request" =
      day r' ++ "/" ++ s'.region ++ "/" ++ service ++ "/aws4_request" := String.toList_inj.mp scope
  rw [day, day, instant] at parts
  simpa using parts

/-- The texts that are signed are the same exactly for the same region, the same token and the same
request, if the hash tells the two requests and the two bodies apart and no part of a request has a
line break in it. -/
theorem stringToSign_eq_iff (lined : Lined s r) (lined' : Lined s' r')
    (requests : hash (Utf8.encode (s.canonicalRequest hash r)) =
      hash (Utf8.encode (s'.canonicalRequest hash r')) →
      s.canonicalRequest hash r = s'.canonicalRequest hash r')
    (bodies : hash (Utf8.encode r.body) = hash (Utf8.encode r'.body) → r.body = r'.body) :
    s.stringToSign hash r = s'.stringToSign hash r' ↔
      s.region = s'.region ∧ s.sessionToken = s'.sessionToken ∧ r = r' := by
  constructor
  · intro same
    obtain ⟨-, region, digest⟩ := stringToSign_inv same
    have whole := hexDigest_injective requests digest
    rw [canonicalRequest_eq_lines, canonicalRequest_eq_lines] at whole
    have lines := intercalate_injective (List.cons_ne_nil _ _) (List.cons_ne_nil _ _)
        (lined.requestLines hash)
      (lined'.requestLines hash) whole
    obtain ⟨token, method, host, path, query, time, digest⟩ := requestLines_injective lines
    have body := hexDigest_injective bodies digest
    cases r
    cases r'
    simp only at method host path query time body
    exact ⟨region, token, by rw [method, host, path, query, time, body]⟩
  · rintro ⟨region, token, rfl⟩
    have headers : s.canonicalHeaders r = s'.canonicalHeaders r := by
      rw [canonicalHeaders, canonicalHeaders, token]
    have names : s.signedHeaders = s'.signedHeaders := by rw [signedHeaders, signedHeaders, token]
    rw [stringToSign, stringToSign, scope, scope, canonicalRequest, canonicalRequest, region,
      headers, names]

/-- With a token another text is signed than without one, also in a region whose name has a line
break in it. -/
theorem stringToSign_ne_without_token :
    let s : Signer := ⟨"AKID", "secret", some "of the session", "eu\nwest"⟩
    let s' : Signer := ⟨"AKID", "secret", none, "eu\nwest"⟩
    let r : SignedRequest :=
      ⟨"POST", "localhost:9324", "/queue", "", "Action=SendMessage", ⟨253402300800⟩⟩
    let digest := fun text => Sha256.digest (Utf8.encode text)
    Lined s r ∧ Lined s' r ∧
      digest (s.canonicalRequest Sha256.digest r) ≠ digest (s'.canonicalRequest Sha256.digest r) ∧
      s.stringToSign Sha256.digest r ≠ s'.stringToSign Sha256.digest r := by
  intro s s' r digest
  have lined : Lined s r := ⟨by decide, by decide, by decide, by decide, by rintro token ⟨⟩; decide⟩
  have lined' : Lined s' r := ⟨by decide, by decide, by decide, by decide, nofun⟩
  have apart : digest (s.canonicalRequest Sha256.digest r) ≠
      digest (s'.canonicalRequest Sha256.digest r) := by
    decide +kernel
  refine ⟨lined, lined', apart, fun same => ?_⟩
  have parts :=
    (stringToSign_eq_iff lined lined' (fun collision => absurd collision apart) fun _ => rfl).mp
      same
  exact absurd parts.2.1 (by decide)

end Binding
end Signer
end MessageQueue
