import MessageQueue.Bytes

/-!
# SHA-256

A message is padded with a one bit, zeros and its length to whole blocks of sixteen words.  Each
block is stretched to sixty-four words, and these are mixed one by one into eight words of state,
which are then added to those from before the block.  The digest is the state after the last block.
-/

namespace MessageQueue.Sha256

/-- The eight words of state. -/
structure State where
  a : UInt32
  b : UInt32
  c : UInt32
  d : UInt32
  e : UInt32
  f : UInt32
  g : UInt32
  h : UInt32
deriving DecidableEq, Repr

/-- The state before the first block. -/
def start : State :=
  ⟨0x6a09e667, 0xbb67ae85, 0x3c6ef372, 0xa54ff53a, 0x510e527f, 0x9b05688c, 0x1f83d9ab, 0x5be0cd19⟩

/-- The constant of each round. -/
def constants : List UInt32 := [
  0x428a2f98, 0x71374491, 0xb5c0fbcf, 0xe9b5dba5, 0x3956c25b, 0x59f111f1, 0x923f82a4, 0xab1c5ed5,
  0xd807aa98, 0x12835b01, 0x243185be, 0x550c7dc3, 0x72be5d74, 0x80deb1fe, 0x9bdc06a7, 0xc19bf174,
  0xe49b69c1, 0xefbe4786, 0x0fc19dc6, 0x240ca1cc, 0x2de92c6f, 0x4a7484aa, 0x5cb0a9dc, 0x76f988da,
  0x983e5152, 0xa831c66d, 0xb00327c8, 0xbf597fc7, 0xc6e00bf3, 0xd5a79147, 0x06ca6351, 0x14292967,
  0x27b70a85, 0x2e1b2138, 0x4d2c6dfc, 0x53380d13, 0x650a7354, 0x766a0abb, 0x81c2c92e, 0x92722c85,
  0xa2bfe8a1, 0xa81a664b, 0xc24b8b70, 0xc76c51a3, 0xd192e819, 0xd6990624, 0xf40e3585, 0x106aa070,
  0x19a4c116, 0x1e376c08, 0x2748774c, 0x34b0bcb5, 0x391c0cb3, 0x4ed8aa4a, 0x5b9cca4f, 0x682e6ff3,
  0x748f82ee, 0x78a5636f, 0x84c87814, 0x8cc70208, 0x90befffa, 0xa4506ceb, 0xbef9a3f7, 0xc67178f2]

/-- A word turned right. -/
def turn (x n : UInt32) : UInt32 := (x >>> n) ||| (x <<< (32 - n))

/-- The number as octets, most significant first. -/
def octets (count n : Nat) : Bytes :=
  (List.range count).reverse.map fun i => UInt8.ofNat (n / Nat.pow 256 i % 256)

/-- The message with its padding, a whole number of blocks of sixty-four octets. -/
def padded (message : Bytes) : Bytes :=
  let n := message.length
  message ++ 0x80 :: (List.replicate ((119 - n % 64) % 64) 0 ++ octets 8 (8 * n))

/-- Octets as words, four to a word; `done` holds the words so far, reversed. -/
def wordsFrom (done : List UInt32) : Bytes → List UInt32
  | a :: b :: c :: d :: rest =>
    wordsFrom
      ((a.toUInt32 <<< 24 ||| b.toUInt32 <<< 16 ||| c.toUInt32 <<< 8 ||| d.toUInt32) :: done) rest
  | _ => done.reverse

/-- The word that follows sixteen others, given last first, in a stretched block. -/
def nextWord (back : List UInt32) : UInt32 :=
  match back with
  | w1 :: w2 :: _ :: _ :: _ :: _ :: w7 :: _ :: _ :: _ :: _ :: _ :: _ :: _ :: w15 :: w16 :: _ =>
    let s0 := turn w15 7 ^^^ turn w15 18 ^^^ (w15 >>> 3)
    let s1 := turn w2 17 ^^^ turn w2 19 ^^^ (w2 >>> 10)
    let _ := w1
    w16 + s0 + w7 + s1
  | _ => 0

/-- A block with so many words more, last first. -/
def stretch (back : List UInt32) : Nat → List UInt32
  | 0 => back
  | n + 1 => stretch (nextWord back :: back) n

/-- Mixes one word, with the constant of its round, into the state. -/
def mix (s : State) (kw : UInt32 × UInt32) : State :=
  let s1 := turn s.e 6 ^^^ turn s.e 11 ^^^ turn s.e 25
  let choice := (s.e &&& s.f) ^^^ ((~~~s.e) &&& s.g)
  let t1 := s.h + s1 + choice + kw.1 + kw.2
  let s0 := turn s.a 2 ^^^ turn s.a 13 ^^^ turn s.a 22
  let majority := (s.a &&& s.b) ^^^ (s.a &&& s.c) ^^^ (s.b &&& s.c)
  ⟨t1 + (s0 + majority), s.a, s.b, s.c, s.d + t1, s.e, s.f, s.g⟩

/-- Adds two states word by word. -/
def add (s t : State) : State :=
  ⟨s.a + t.a, s.b + t.b, s.c + t.c, s.d + t.d, s.e + t.e, s.f + t.f, s.g + t.g, s.h + t.h⟩

/-- The state after a block. -/
def compress (s : State) (block : List UInt32) : State :=
  add s ((constants.zip (stretch block.reverse 48).reverse).foldl mix s)

/-- The state after so many blocks. -/
def compressAll (s : State) (words : List UInt32) : Nat → State
  | 0 => s
  | n + 1 => compressAll (compress s (words.take 16)) (words.drop 16) n

/-- The state after a message. -/
def final (message : Bytes) : State :=
  let words := wordsFrom [] (padded message)
  compressAll start words (words.length / 16)

/-- The digest of a message: thirty-two octets. -/
def digest (message : Bytes) : Bytes :=
  let s := final message
  [s.a, s.b, s.c, s.d, s.e, s.f, s.g, s.h].flatMap fun w => octets 4 w.toNat

theorem length_octets (count n : Nat) : (octets count n).length = count := by simp [octets]

/-- A digest is thirty-two octets long. -/
theorem length_digest (message : Bytes) : (digest message).length = 32 := by
  simp [digest, length_octets]

end MessageQueue.Sha256
