import Gatehouse.Calendar.Instant
import Gatehouse.Table

/-! # The blacklist of access tokens

A token that was logged out stays refused until it would have expired anyway. The blacklist holds
the ids of such tokens with their expiry; every entry that has become needless is dropped when the
next one is made. -/

namespace Gatehouse

/-- Refused token ids with the instant from which the refusal is needless. -/
structure Blacklist where
  entries : Table String Instant
  deriving DecidableEq, Repr

namespace Blacklist

/-- The blacklist without entries. -/
def empty : Blacklist := ⟨.empty⟩

/-- Refuse a token id until its expiry, and drop what has expired. -/
def revoke (b : Blacklist) (tokenId : String) (expiresAt now : Instant) : Blacklist :=
  let kept := b.entries.filter fun _ expiry => decide (now < expiry)
  ⟨if now < expiresAt then kept.insert tokenId expiresAt else kept⟩

/-- The token id is refused. -/
def isRevoked (b : Blacklist) (tokenId : String) (now : Instant) : Bool :=
  (b.entries.get? tokenId).any fun expiry => decide (now < expiry)

/-- The number of entries. -/
def size (b : Blacklist) : Nat := b.entries.size

end Blacklist

end Gatehouse
