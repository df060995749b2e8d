import Gatehouse.Hash.Bcrypt
import Gatehouse.Service.Basic
import Gatehouse.Validation

/-! # Checking passwords

An identity is found by the normal form of its address. The password is compared with the stored
hash, or with a placeholder if there is no such identity, so both cases cost one comparison and end
the same way. Only who knows the password learns that an account is disabled. -/

namespace Gatehouse

/-- A way to hash passwords. -/
structure PasswordHasher where
  /-- The hash of a password under a salt. -/
  hash (salt : Bytes) (password : String) : Except Cause String
  /-- The password has the hash. -/
  verify (password hash : String) : Bool

/-- The hasher of a cost. -/
def PasswordHasher.bcrypt (cost : Nat) : PasswordHasher where
  hash salt password := (Bcrypt.hash cost salt password).mapError fun message =>
    (Cause.root message).within "failed to hash password"
  verify := Bcrypt.verify

/-- The cost in production. -/
def PasswordHasher.defaultCost : Nat := 12

/-- A hasher with the hash that unknown addresses are compared with. -/
structure Credentials where
  hasher : PasswordHasher
  placeholderHash : String

namespace Credentials

/-- The password behind the placeholder. -/
def placeholderPassword : String := "umbral-placeholder-password"

/-- The credentials of a hasher, with a placeholder under a salt. -/
def ofHasher (hasher : PasswordHasher) (salt : Bytes) : Except Cause Credentials := do
  pure ⟨hasher, ← hasher.hash salt placeholderPassword⟩

/-- The enabled identity that an address and a password name. -/
def verify (c : Credentials) (email password : String) : Service Identity := do
  let found ← Service.store (.findByEmail (Email.normalize email))
  let hash := found.elim c.placeholderHash (·.passwordHash)
  let identity ← Service.require .invalidCredentials
    (found.filter fun _ => c.hasher.verify password hash)
  if identity.enabled then pure identity else Service.refuse .inactiveUser

end Credentials

end Gatehouse
