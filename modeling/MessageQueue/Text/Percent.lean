import MessageQueue.Text.Utf8

/-!
# Percent encoding

An octet outside a chosen set is written as a percent sign and two upper case hexadecimal digits.
Decoding accepts either case, and leaves a percent sign that two digits do not follow as it stands.
-/

namespace MessageQueue.Percent

/-- The upper case hexadecimal digit of a number below sixteen. -/
def upperDigit (n : Nat) : Char :=
  if n < 10 then Char.ofNat ('0'.toNat + n) else Char.ofNat ('A'.toNat + (n - 10))

/-- An octet written as three characters. -/
def escape (b : UInt8) : List Char := ['%', upperDigit (b.toNat / 16), upperDigit (b.toNat % 16)]

/-- An octet, as the ASCII character it is where it may stay and escaped where it may not. -/
def encodeByte (keep : UInt8 → Bool) (b : UInt8) : List Char :=
  if keep b then [Char.ofNat b.toNat] else escape b

/-- Octets, escaped but for those that may stay. -/
def encodeBytes (keep : UInt8 → Bool) (bytes : Bytes) : List Char :=
  bytes.flatMap (encodeByte keep)

/-- Whether an octet is a letter, a digit, a hyphen, a low line, a full stop or a tilde. -/
def isUnreserved (b : UInt8) : Bool :=
  let c := Char.ofNat b.toNat
  b.toNat < 128 && (c.isAlphanum || c = '-' || c = '_' || c = '.' || c = '~')

/-- A text whose octets other than unreserved ones are escaped. -/
def encode (text : String) : String :=
  String.ofList (encodeBytes isUnreserved (Utf8.encode text))

/-- Decodes octets, keeping what is done so far reversed. -/
def decodeFrom (done : Bytes) : Bytes → Bytes
  | [] => done.reverse
  | [a] => (a :: done).reverse
  | [a, b] => (b :: a :: done).reverse
  | a :: b :: c :: rest =>
    if a = 0x25 then
      match Bytes.hexValue? (Char.ofNat b.toNat), Bytes.hexValue? (Char.ofNat c.toNat) with
      | some h, some l => decodeFrom (UInt8.ofNat (16 * h + l) :: done) rest
      | _, _ => decodeFrom (a :: done) (b :: c :: rest)
    else decodeFrom (a :: done) (b :: c :: rest)

/-- Octets with every escape replaced by the octet it stands for. -/
def decodeBytes (bytes : Bytes) : Bytes := decodeFrom [] bytes

/-- The text whose escaped form this is, if its octets are UTF-8. -/
def decode? (text : String) : Option String := Utf8.decode? (decodeBytes (Utf8.encode text))

end MessageQueue.Percent
