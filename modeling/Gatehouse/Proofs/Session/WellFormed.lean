import Gatehouse.Proofs.Calendar
import Gatehouse.Proofs.Session.Opening

/-! # Well-formed sessions

A session is *well formed* at a time if what it records of its life fits together: it expires its
lifetime after its issue, was used between its issue and now, is revoked if and only if it has a
reason and a time of revocation, which lies between its issue and now, and has what its flavor calls
for of its client (`Session.WellFormed`).  A session that a login prepares is well formed, and so is
the successor of one that has what its flavor calls for (`wellFormed_of_ofLogin`,
`wellFormed_of_ofRefresh`); revoking and touching a session after its issue leave it well formed
(`WellFormed.revoke`, `WellFormed.touch`), and so does the passing of time (`WellFormed.later`). -/

namespace Gatehouse

namespace Session

/-- The session records of its client what its flavor calls for. -/
def FitsFlavor (s : Session) : Prop :=
  match s.flavor with
  | .mobile => s.appVersion.isSome = true ∧ s.userAgent = none ∧ s.ipAddress = none
  | .web => s.userAgent.isSome = true ∧ s.appVersion = none

/-- What the session records of its life fits together, and fits the time. -/
structure WellFormed (l : Lifetimes) (now : Instant) (s : Session) : Prop where
  lifetime : s.issuedAt.add? (l.ofFlavor s.flavor) = some s.expiresAt
  issued : s.issuedAt ≤ s.lastUsed
  used : s.lastUsed ≤ now
  reason : s.revoked = s.revokedReason.isSome
  time : s.revoked = s.revokedAt.isSome
  revokedIn : ∀ t, s.revokedAt = some t → s.issuedAt ≤ t ∧ t ≤ now
  fits : s.FitsFlavor
  hash : s.tokenHash.length = 32

namespace WellFormed

variable {l : Lifetimes} {now t : Instant} {s : Session}

/-- Time passes. -/
theorem later (h : s.WellFormed l now) (ht : now ≤ t) : s.WellFormed l t where
  lifetime := h.lifetime
  issued := h.issued
  used := Instant.le_trans h.used ht
  reason := h.reason
  time := h.time
  revokedIn := fun u hu => ⟨(h.revokedIn u hu).1, Instant.le_trans (h.revokedIn u hu).2 ht⟩
  fits := h.fits
  hash := h.hash

theorem revoke (h : s.WellFormed l now) (hissued : s.issuedAt ≤ t) (ht : t ≤ now)
    (reason : String) : (s.revoke reason t).WellFormed l now := by
  cases hr : s.revoked with
  | true =>
      rw [revoke_of_revoked hr]
      exact h
  | false =>
      rw [revoke_of_not_revoked hr]
      refine ⟨h.lifetime, h.issued, h.used, rfl, rfl, ?_, h.fits, h.hash⟩
      intro u hu
      obtain rfl : t = u := Option.some.inj hu
      exact ⟨hissued, ht⟩

theorem touch (h : s.WellFormed l now) (hissued : s.issuedAt ≤ t) (ht : t ≤ now) :
    (s.touch t).WellFormed l now where
  lifetime := h.lifetime
  issued := hissued
  used := ht
  reason := h.reason
  time := h.time
  revokedIn := h.revokedIn
  fits := h.fits
  hash := h.hash

end WellFormed

end Session

namespace PendingSession

variable {l : Lifetimes} {seed : SessionSeed} {now : Instant} {p : PendingSession}

/-- The digest of a refresh token has as many bytes as every digest. -/
theorem length_refreshTokenHash (token : String) : (refreshTokenHash token).length = 32 :=
  Sha256.length_digest _

theorem wellFormed_of_ofLogin {userId : Uuid} {client : ClientInfo}
    (h : ofLogin l seed now userId client = some p) : p.session.WellFormed l now := by
  obtain ⟨expiresAt, ha, hp⟩ := Option.bind_eq_some_iff.mp h
  cases hp
  refine ⟨ha, Instant.le_refl now, Instant.le_refl now, rfl, rfl, nofun, ?_,
    length_refreshTokenHash _⟩
  unfold Session.FitsFlavor
  cases client.flavor with
  | mobile => exact ⟨rfl, rfl, rfl⟩
  | web => exact ⟨rfl, rfl⟩

/-- The successor of a session takes over what the session records of its client. -/
theorem wellFormed_of_ofRefresh {current : Session} (hfits : current.FitsFlavor)
    (h : ofRefresh l seed now current = some p) : p.session.WellFormed l now := by
  obtain ⟨expiresAt, ha, hp⟩ := Option.bind_eq_some_iff.mp h
  cases hp
  exact ⟨ha, Instant.le_refl now, Instant.le_refl now, rfl, rfl, nofun, hfits,
    length_refreshTokenHash _⟩

end PendingSession

end Gatehouse
