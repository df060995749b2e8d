import Gatehouse.Calendar.Instant
import Gatehouse.Client
import Gatehouse.Uuid

/-! # Sessions

A session is opened by a login, belongs to one identity and one device, and is found by the digest
of its refresh token. It is *active* until it is revoked or its time has passed, and neither is ever
undone: the first revocation stands. A device of an identity holds at most one session that is not
revoked, so opening one revokes those in its *scope* in the same write. -/

namespace Gatehouse

/-- A session record. -/
structure Session where
  id : Uuid
  userId : Uuid
  tokenHash : Bytes
  flavor : Flavor
  issuedAt : Instant
  expiresAt : Instant
  lastUsed : Instant
  revoked : Bool
  revokedReason : Option String
  revokedAt : Option Instant
  deviceId : String
  deviceName : String
  platform : String
  appVersion : Option String
  userAgent : Option String
  ipAddress : Option String
  deriving DecidableEq, Repr

namespace Session

/-- The time of the session has passed; at its last instant it has not. -/
def isExpired (s : Session) (now : Instant) : Bool := s.expiresAt < now

/-- The session is neither revoked nor past its time. -/
def isActive (s : Session) (now : Instant) : Bool := !s.revoked && !s.isExpired now

/-- The session revoked for a reason. The first revocation stands. -/
def revoke (s : Session) (reason : String) (now : Instant) : Session :=
  if s.revoked then s
  else { s with revoked := true, revokedReason := some reason, revokedAt := some now }

/-- The session used now. -/
def touch (s : Session) (now : Instant) : Session := { s with lastUsed := now }

end Session

/-- Which sessions of an identity a new one supersedes: those on a device. -/
structure Scope where
  deviceId : String
  deriving DecidableEq, Repr

/-- The session falls into the scope. -/
def Scope.covers (scope : Scope) (s : Session) : Bool := s.deviceId == scope.deviceId

/-- A request to revoke what a scope covers and to store a session, both or neither. -/
structure Rotation where
  scope : Scope
  reason : String
  session : Session
  now : Instant
  /-- The session that must still be active for the new one to take its place. -/
  replaces : Option Uuid
  deriving DecidableEq, Repr

/-- What became of a rotation. -/
inductive RotationOutcome where
  /-- The session is stored and these were revoked. -/
  | committed (revoked : List Uuid)
  /-- The session to be replaced was not active any more; nothing was written. -/
  | superseded
  deriving DecidableEq, Repr

/-- What became of a revocation. -/
inductive RevokeOutcome where
  | revoked
  | alreadyRevoked
  | notFound
  deriving DecidableEq, Repr

/-- A line of the list of places where an identity is logged in. -/
structure SessionSummary where
  deviceId : String
  deviceName : String
  platform : String
  lastUsed : Instant
  /-- The session is on the device that asks. -/
  isCurrent : Bool
  deriving DecidableEq, Repr

/-- The summary of a session for a caller on a device. -/
def Session.summary (s : Session) (currentDevice : String) : SessionSummary :=
  ⟨s.deviceId, s.deviceName, s.platform, s.lastUsed, s.deviceId == currentDevice⟩

end Gatehouse
