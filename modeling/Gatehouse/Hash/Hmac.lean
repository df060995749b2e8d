import Gatehouse.Hash.Sha256

/-! # HMAC with SHA-256

The keyed digest of a message. The key is brought to one block, by hashing if it is longer and by
zeros if it is shorter, and enters an inner and an outer digest under two masks. -/

namespace Gatehouse.Hmac

/-- The key as one block. -/
def keyBlock (key : Bytes) : Bytes :=
  let k := if key.length > Sha256.blockBytes then Sha256.digest key else key
  k ++ List.replicate (Sha256.blockBytes - k.length) 0

/-- A block with every byte under a mask. -/
def masked (mask : UInt8) (block : Bytes) : Bytes := block.map (· ^^^ mask)

/-- The keyed digest. -/
def sha256 (key message : Bytes) : Bytes :=
  let block := keyBlock key
  Sha256.digest (masked 0x5c block ++ Sha256.digest (masked 0x36 block ++ message))

@[simp] theorem length_sha256 (key message : Bytes) :
    (sha256 key message).length = Sha256.digestBytes := by
  simp [sha256]

end Gatehouse.Hmac
