import Gatehouse.Failure
import Gatehouse.Identity
import Gatehouse.Program
import Gatehouse.Session.Basic

/-! # What the services need from below

The services read a clock, call a store, keep a list of refused tokens, and ask after the health of
the database. A store call is answered, or there is trouble: it fails with a cause, it never
answers, or it meets a record that cannot be read. -/

namespace Gatehouse

/-- Why a store call has no answer. -/
inductive Trouble where
  /-- The call failed. -/
  | failed (cause : Cause)
  /-- The call never answers. -/
  | stalled
  /-- A record is not of the declared form. -/
  | unreadable
  deriving DecidableEq, Repr

/-- What is said of trouble in a few words. -/
def Trouble.outermost : Trouble → String
  | failed cause => cause.outermost
  | stalled => "the store does not answer"
  | unreadable => "a record cannot be read"

/-- A call of the store: the sessions, and the graph of identities, roles and grants. -/
inductive StoreCall where
  /-- Revoke what a scope covers and store a session, both or neither. -/
  | rotate (r : Rotation)
  | findByTokenHash (hash : Bytes)
  | findSession (id : Uuid)
  | revoke (id : Uuid) (reason : String) (now : Instant)
  /-- Revoke every session of an identity; the answer is how many. -/
  | revokeAll (userId : Uuid) (reason : String) (now : Instant)
  /-- The active sessions of an identity, the last used first. -/
  | listActive (userId : Uuid) (now : Instant)
  | touch (id : Uuid) (now : Instant)
  /-- The identity with an address in its normal form. -/
  | findByEmail (email : String)
  | findIdentity (id : Uuid)
  /-- The roles that an identity holds, enabled or not, with their grants. -/
  | roleAssignments (userId : Uuid)
  /-- The declared modules and permission types. -/
  | catalog
  deriving DecidableEq, Repr

/-- What a store call is answered. -/
abbrev StoreCall.Reply : StoreCall → Type
  | rotate _ => RotationOutcome
  | findByTokenHash _ => Option Session
  | findSession _ => Option Session
  | revoke .. => RevokeOutcome
  | revokeAll .. => Nat
  | listActive .. => List Session
  | touch .. => Unit
  | findByEmail _ => Option Identity
  | findIdentity _ => Option Identity
  | roleAssignments _ => List RoleAssignment
  | catalog => Declarations

/-- How the storage is. -/
inductive StorageHealth where
  /-- Everything is held in memory. -/
  | memory
  /-- The database answers. -/
  | reachable
  /-- The database does not answer. -/
  | unreachable
  deriving DecidableEq, Repr

namespace Backend

/-- A call of the services. -/
inductive Op where
  /-- Read the clock. -/
  | now
  | store (call : StoreCall)
  /-- Refuse a token until it expires. -/
  | refuse (tokenId : String) (expiresAt now : Instant)
  /-- Ask whether a token is refused. -/
  | isRefused (tokenId : String) (now : Instant)
  | health
  deriving DecidableEq, Repr

/-- What a call is answered. -/
abbrev Answer : Op → Type
  | .now => Instant
  | .store call => Except Trouble call.Reply
  | .refuse .. => Unit
  | .isRefused .. => Bool
  | .health => StorageHealth

end Backend

/-- The interface of the services. -/
def Backend : Interface := ⟨Backend.Op, Backend.Answer⟩

end Gatehouse
