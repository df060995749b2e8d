import Gatehouse.Proofs.Session
import Gatehouse.Session.Opening

/-! # What a prepared session is

A prepared session lies under the drawn id, holds the digest of the drawn token, is issued and last
used now, expires a lifetime later, and is not revoked.  A login takes the rest of it from the
identity and the client (`ofLogin_eq_some`), a refresh from the session that it replaces
(`ofRefresh_eq_some`). -/

namespace Gatehouse.PendingSession

variable {l : Lifetimes} {seed : SessionSeed} {now : Instant} {p : PendingSession}

/-- What is prepared for a login: the session of the identity on the client's device, which is to
supersede what the identity has there. -/
theorem ofLogin_eq_some {userId : Uuid} {client : ClientInfo}
    (h : ofLogin l seed now userId client = some p) :
    now.add? (l.ofFlavor client.flavor) = some p.session.expiresAt ∧
      p.session.id = seed.id ∧ p.session.userId = userId ∧
      p.session.tokenHash = refreshTokenHash seed.refreshToken ∧
      p.session.flavor = client.flavor ∧ p.session.issuedAt = now ∧ p.session.lastUsed = now ∧
      p.session.revoked = false ∧ p.session.deviceId = client.deviceId ∧
      p.session.deviceName = client.deviceName ∧ p.session.platform = client.platform ∧
      p.refreshToken = seed.refreshToken ∧ p.scope = ⟨client.deviceId⟩ ∧
      p.reason = client.flavor.loginReason ∧ p.replaces = none := by
  obtain ⟨expiresAt, ha, hp⟩ := Option.bind_eq_some_iff.mp h
  cases hp
  exact ⟨ha, rfl, rfl, rfl, rfl, rfl, rfl, rfl, rfl, rfl, rfl, rfl, rfl, rfl, rfl⟩

/-- What is prepared for a refresh: the session renewed in all that belongs to one token, which is
to take the place of the session. -/
theorem ofRefresh_eq_some {current : Session} (h : ofRefresh l seed now current = some p) :
    ∃ expiresAt, now.add? (l.ofFlavor current.flavor) = some expiresAt ∧
      p.session = { current with
        id := seed.id, tokenHash := refreshTokenHash seed.refreshToken
        issuedAt := now, expiresAt, lastUsed := now
        revoked := false, revokedReason := none, revokedAt := none } ∧
      p.refreshToken = seed.refreshToken ∧ p.scope = ⟨current.deviceId⟩ ∧
      p.reason = reasonRotated ∧ p.replaces = some current.id := by
  obtain ⟨expiresAt, ha, hp⟩ := Option.bind_eq_some_iff.mp h
  cases hp
  exact ⟨expiresAt, ha, rfl, rfl, rfl, rfl, rfl⟩

end Gatehouse.PendingSession
