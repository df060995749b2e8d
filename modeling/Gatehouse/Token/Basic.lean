import Gatehouse.Calendar.Instant
import Gatehouse.Identity
import Gatehouse.Permission
import Gatehouse.Token.Claims

/-! # Verified and unverified views of a token

A *principal* is what an accepted token says. A *token view* is what can be read without a key; it
is advice and grants nothing. A *fault* is the reason for which a token is not accepted: the log
knows it, a client never does. -/

namespace Gatehouse

/-- A verified caller. The user id is missing where the claim is missing or is no identifier. -/
structure Principal where
  subject : String
  userId : Option Uuid
  name : String
  email : String
  tokenId : String
  roles : List String
  permissions : List String
  expiresAt : Instant
  deriving DecidableEq, Repr

/-- The token said that its holder has the permission. -/
def Principal.hasPermission (p : Principal) (permission : String) : Bool :=
  p.permissions.contains permission

/-- What a token says of itself, unverified. -/
structure TokenView where
  tokenId : Option String
  userId : Option Uuid
  userName : Option String
  issuedAt : Option Instant
  expiresAt : Option Instant
  isExpired : Bool
  deriving DecidableEq, Repr

/-- Why a token is not accepted. -/
inductive TokenFault where
  | malformed
  | expired
  | notYetValid
  | badSignature
  | issuerMismatch
  | audienceMismatch
  deriving DecidableEq, Repr

/-- What the log says of a fault. -/
def TokenFault.message : TokenFault → String
  | malformed => "token is malformed"
  | expired => "token has expired"
  | notYetValid => "token is not yet valid"
  | badSignature => "token signature is invalid"
  | issuerMismatch => "token issuer does not match"
  | audienceMismatch => "token audience does not match"

/-- A token that was issued. -/
structure IssuedToken where
  token : String
  tokenId : String
  /-- The expiry that the token carries: a whole second. -/
  expiresAt : Instant
  deriving DecidableEq, Repr

end Gatehouse
