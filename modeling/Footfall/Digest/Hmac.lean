import Footfall.Digest.Sha256

/-!
# Keyed digests

A message is authenticated by hashing it together with a key twice. A key longer than a block is
replaced by its digest, and every key is filled up to a block with zeros.
-/

namespace Footfall.Digest

/-- The key as one block of 64 bytes. -/
def keyBlock (key : Bytes) : Bytes :=
  let k := if 64 < key.length then digest key else key
  k ++ List.replicate (64 - k.length) 0

/-- The HMAC of a message under a key, with SHA-256. -/
def hmac (key message : Bytes) : Bytes :=
  let k := keyBlock key
  digest (k.map (· ^^^ 0x5c) ++ digest (k.map (· ^^^ 0x36) ++ message))

end Footfall.Digest
