import Gatehouse.Session.Basic

/-! # Opening and renewing sessions

A session is built before it is written. A *login* takes the device from the classified caller and
supersedes what the identity holds on that device; a *refresh* carries the device over from the
session it replaces. The lifetime starts anew in both. The raw refresh token exists only here and in
the answer to the client: the record holds its digest. -/

namespace Gatehouse

/-- The reason for which a login from an application revokes sessions on its device. -/
def reasonMobileLogin : String := "New login on same device"

/-- The reason for which a login from a browser revokes sessions on its device. -/
def reasonWebLogin : String := "New web login"

/-- The reason for which a refresh revokes the session that it replaces. -/
def reasonRotated : String := "Rotated"

/-- The reason for which a logout revokes its session. -/
def reasonLogout : String := "Logout"

/-- The reason for which a login of a flavor supersedes sessions. -/
def Flavor.loginReason : Flavor → String
  | .mobile => reasonMobileLogin
  | .web => reasonWebLogin

/-- The application version of a mobile client that names none. -/
def defaultAppVersion : String := "1.0.0"

/-- The digest under which a refresh token is stored. -/
def refreshTokenHash (token : String) : Bytes := Sha256.digest (Bytes.ofText token)

/-- How long sessions live. -/
structure Lifetimes where
  webDays : Nat
  deriving DecidableEq, Repr

namespace Lifetimes

/-- The days of a mobile session. -/
def mobileDays : Nat := 60

/-- The days of a web session where none are configured. -/
def defaultWebDays : Nat := 30

/-- The lifetimes with the configured days of a web session, zero meaning the default. -/
def ofWebDays (days : Nat) : Lifetimes := ⟨if days = 0 then defaultWebDays else days⟩

/-- The lifetime of a flavor. -/
def ofFlavor (l : Lifetimes) : Flavor → Duration
  | .mobile => .ofDays mobileDays
  | .web => .ofDays l.webDays

end Lifetimes

/-- The random values of a new session: its id and the raw refresh token. -/
structure SessionSeed where
  id : Uuid
  refreshToken : String
  deriving DecidableEq, Repr

/-- A session that is built but not written. -/
structure PendingSession where
  session : Session
  refreshToken : String
  scope : Scope
  reason : String
  replaces : Option Uuid
  deriving DecidableEq, Repr

namespace PendingSession

/-- The session of a login, unless its end lies outside the calendar. A mobile session records the
application version, a web session the user agent and the address. -/
def ofLogin (l : Lifetimes) (seed : SessionSeed) (now : Instant) (userId : Uuid)
    (client : ClientInfo) : Option PendingSession := do
  let expiresAt ← now.add? (l.ofFlavor client.flavor)
  let session : Session :=
    { id := seed.id, userId, tokenHash := refreshTokenHash seed.refreshToken
      flavor := client.flavor, issuedAt := now, expiresAt, lastUsed := now
      revoked := false, revokedReason := none, revokedAt := none
      deviceId := client.deviceId, deviceName := client.deviceName, platform := client.platform
      appVersion :=
        match client.flavor with
        | .mobile => some (client.appVersion.getD defaultAppVersion)
        | .web => none
      userAgent :=
        match client.flavor with
        | .mobile => none
        | .web => some (client.userAgent.getD "")
      ipAddress :=
        match client.flavor with
        | .mobile => none
        | .web => client.ipAddress }
  pure ⟨session, seed.refreshToken, ⟨client.deviceId⟩, client.flavor.loginReason, none⟩

/-- The successor of a session, unless its end lies outside the calendar. -/
def ofRefresh (l : Lifetimes) (seed : SessionSeed) (now : Instant) (current : Session) :
    Option PendingSession := do
  let expiresAt ← now.add? (l.ofFlavor current.flavor)
  let session : Session :=
    { current with
      id := seed.id, tokenHash := refreshTokenHash seed.refreshToken
      issuedAt := now, expiresAt, lastUsed := now
      revoked := false, revokedReason := none, revokedAt := none }
  pure ⟨session, seed.refreshToken, ⟨current.deviceId⟩, reasonRotated, some current.id⟩

/-- The write that makes the session durable. -/
def rotation (p : PendingSession) (now : Instant) : Rotation :=
  ⟨p.scope, p.reason, p.session, now, p.replaces⟩

end PendingSession

end Gatehouse
