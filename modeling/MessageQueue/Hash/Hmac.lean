import MessageQueue.Hash.Sha256

/-!
# Keyed digests

The digest of a message under a key is a digest of the key and a digest of the key and the message,
with the key brought to the length of a block and masked in two ways.  The hash is a parameter.
-/

namespace MessageQueue.Hmac

/-- A key as long as a block: a longer one is replaced by its digest, and zeros fill up the rest. -/
def blockKey (hash : Bytes → Bytes) (key : Bytes) : Bytes :=
  let short := if 64 < key.length then hash key else key
  short ++ List.replicate (64 - short.length) 0

/-- The digest of a message under a key. -/
def digest (hash : Bytes → Bytes) (key message : Bytes) : Bytes :=
  let k := blockKey hash key
  hash (k.map (· ^^^ 0x5c) ++ hash (k.map (· ^^^ 0x36) ++ message))

end MessageQueue.Hmac
