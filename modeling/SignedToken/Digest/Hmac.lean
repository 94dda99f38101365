import SignedToken.Digest.Sha2

/-!
# HMAC

Keyed digests by RFC 2104: the key, filled up to one block, goes in front of the message and once
more in front of the inner digest, each time under another mask.
-/

namespace SignedToken.Hmac

open Sha2 (Size hash)

/-- The key as one block: a longer key counts by its digest, a shorter one is filled with zeros. -/
def keyBlock (size : Size) (key : List UInt8) : List UInt8 :=
  let key := if key.length ≤ size.blockBytes then key else hash size key
  key ++ List.replicate (size.blockBytes - key.length) 0

def code (size : Size) (key message : List UInt8) : List UInt8 :=
  let block := keyBlock size key
  hash size (block.map (· ^^^ 0x5c) ++ hash size (block.map (· ^^^ 0x36) ++ message))

end SignedToken.Hmac
