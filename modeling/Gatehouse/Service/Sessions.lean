import Gatehouse.Service.Basic
import Gatehouse.Session.Opening

/-! # Session services

A session is prepared without touching the store and committed in one call, which revokes what it
supersedes. The services below are the only ones that write sessions. -/

namespace Gatehouse.Sessions

/-- Build the session of a login. -/
def prepare (l : Lifetimes) (seed : SessionSeed) (userId : Uuid) (client : ClientInfo) :
    Service PendingSession := do
  let now ← Service.now
  Service.inCalendar (PendingSession.ofLogin l seed now userId client)

/-- Build the successor of a session. -/
def prepareRotation (l : Lifetimes) (seed : SessionSeed) (current : Session) :
    Service PendingSession := do
  let now ← Service.now
  Service.inCalendar (PendingSession.ofRefresh l seed now current)

/-- Write a prepared session. If the session that it replaces is no longer active, the token behind
that session is not accepted any more. -/
def commit (pending : PendingSession) : Service Session := do
  let now ← Service.now
  match ← Service.store (.rotate (pending.rotation now)) with
  | .committed _ => pure pending.session
  | .superseded => Service.refuse .unauthenticated

/-- Prepare and commit the session of a login. -/
def start (l : Lifetimes) (seed : SessionSeed) (userId : Uuid) (client : ClientInfo) :
    Service (Session × String) := do
  let pending ← prepare l seed userId client
  let session ← commit pending
  pure (session, pending.refreshToken)

/-- The active sessions of an identity, those on a device flagged. -/
def list (userId : Uuid) (currentDevice : String) : Service (List SessionSummary) := do
  let now ← Service.now
  let sessions ← Service.store (.listActive userId now)
  pure (sessions.map (·.summary currentDevice))

/-- Revoke a session; one that is revoked already stays as it is. -/
def revoke (id : Uuid) (reason : String) : Service Unit := do
  let now ← Service.now
  match ← Service.store (.revoke id reason now) with
  | .revoked | .alreadyRevoked => pure ()
  | .notFound => Service.refuse (.notFound "Session")

/-- Revoke every session of an identity. -/
def revokeAll (userId : Uuid) (reason : String) : Service Nat := do
  let now ← Service.now
  Service.store (.revokeAll userId reason now)

/-- The session of a refresh token, whatever its state. -/
def findByToken (token : String) : Service (Option Session) :=
  Service.store (.findByTokenHash (refreshTokenHash token))

/-- The session of a refresh token, if it is active at the time of the question. -/
def findActiveByToken (token : String) : Service (Option Session) := do
  let now ← Service.now
  let found ← findByToken token
  pure (found.filter (·.isActive now))

/-- Note the use of a session. -/
def touch (id : Uuid) : Service Unit := do
  let now ← Service.now
  Service.store (.touch id now) (some "failed to touch session")

/-- Note the use of the active session on a device, and tell whether there is one. -/
def touchDevice (userId : Uuid) (deviceId : String) : Service Bool := do
  let now ← Service.now
  let sessions ← Service.store (.listActive userId now)
  match sessions.find? (·.deviceId == deviceId) with
  | some session => do
    touch session.id
    pure true
  | none => pure false

end Gatehouse.Sessions
