import Gatehouse.Session.Basic
import Gatehouse.Proofs.Calendar
import Gatehouse.Proofs.Table

/-! # Sessions move onward

`s.Onward s'` says how a stored session may change: its last use may be noted, and it may be revoked
while it is not revoked yet; all else stays, and a revocation stays with its reason and its time.
Revoking and touching move a session onward (`onward_revoke`, `onward_touch`), and moves compose
(`Onward.trans`).  What is not active now will never be (`Onward.isActive`).  A table of sessions
moves onward if each of its sessions is still there and has moved onward
(`Table.SessionsOnward`). -/

namespace Gatehouse

namespace Session

theorem isActive_iff {session : Session} {now : Instant} :
    session.isActive now = true ↔ session.revoked = false ∧ ¬ session.expiresAt < now := by
  simp [isActive, isExpired]

theorem isActive_eq_false_iff {session : Session} {now : Instant} :
    session.isActive now = false ↔ session.revoked = true ∨ session.expiresAt < now := by
  rw [isActive, Bool.and_eq_false_iff, Bool.not_eq_false', Bool.not_eq_false', isExpired,
    decide_eq_true_eq]

/-- The session may have become the other one. -/
structure Onward (s s' : Session) : Prop where
  /-- Nothing but the last use and the revocation has changed. -/
  fixed : s' = { s with
    lastUsed := s'.lastUsed, revoked := s'.revoked, revokedReason := s'.revokedReason
    revokedAt := s'.revokedAt }
  /-- A revocation stands. -/
  stands : s.revoked = true →
    s'.revoked = true ∧ s'.revokedReason = s.revokedReason ∧ s'.revokedAt = s.revokedAt

theorem Onward.refl (s : Session) : s.Onward s := ⟨rfl, fun h => ⟨h, rfl, rfl⟩⟩

theorem Onward.trans {s₁ s₂ s₃ : Session} (h₁ : s₁.Onward s₂) (h₂ : s₂.Onward s₃) :
    s₁.Onward s₃ := by
  constructor
  · have h := h₂.fixed
    rw [h₁.fixed] at h
    exact h
  · intro hr
    obtain ⟨hr₂, hreason, hat⟩ := h₁.stands hr
    obtain ⟨hr₃, hreason', hat'⟩ := h₂.stands hr₂
    exact ⟨hr₃, hreason'.trans hreason, hat'.trans hat⟩

namespace Onward

variable {s s' : Session} (h : s.Onward s')
include h

theorem id_eq : s'.id = s.id := by rw [h.fixed]
theorem userId_eq : s'.userId = s.userId := by rw [h.fixed]
theorem tokenHash_eq : s'.tokenHash = s.tokenHash := by rw [h.fixed]
theorem deviceId_eq : s'.deviceId = s.deviceId := by rw [h.fixed]
theorem issuedAt_eq : s'.issuedAt = s.issuedAt := by rw [h.fixed]
theorem expiresAt_eq : s'.expiresAt = s.expiresAt := by rw [h.fixed]

/-- A session that is not revoked never was. -/
theorem not_revoked (hr : s'.revoked = false) : s.revoked = false := by
  cases hs : s.revoked with
  | false => rfl
  | true =>
      rw [(h.stands hs).1] at hr
      cases hr

/-- A session that is active was active before. -/
theorem isActive {t t' : Instant} (ht : t ≤ t') (ha : s'.isActive t' = true) :
    s.isActive t = true := by
  rw [isActive_iff] at ha ⊢
  obtain ⟨hr, he⟩ := ha
  rw [h.expiresAt_eq] at he
  exact ⟨h.not_revoked hr, fun hexpired => he (Instant.lt_of_lt_of_le hexpired ht)⟩

end Onward

theorem onward_revoke (s : Session) (reason : String) (now : Instant) :
    s.Onward (s.revoke reason now) := by
  unfold revoke
  by_cases h : s.revoked = true
  · rw [if_pos h]
    exact Onward.refl s
  · rw [if_neg h]
    exact ⟨rfl, fun hr => absurd hr h⟩

theorem onward_touch (s : Session) (now : Instant) : s.Onward (s.touch now) :=
  ⟨rfl, fun h => ⟨h, rfl, rfl⟩⟩

@[simp] theorem revoked_revoke (s : Session) (reason : String) (now : Instant) :
    (s.revoke reason now).revoked = true := by
  unfold revoke
  by_cases h : s.revoked = true
  · rw [if_pos h, h]
  · rw [if_neg h]

/-- A session that is revoked stays as it is. -/
theorem revoke_of_revoked {s : Session} (h : s.revoked = true) (reason : String) (now : Instant) :
    s.revoke reason now = s := by
  rw [revoke, if_pos h]

/-- The session as its revocation leaves it, if it was not revoked. -/
theorem revoke_of_not_revoked {s : Session} (h : s.revoked = false) (reason : String)
    (now : Instant) : s.revoke reason now =
      { s with revoked := true, revokedReason := some reason, revokedAt := some now } := by
  rw [revoke, h]
  rfl

end Session

namespace Table

/-- Every session of the table is in the other one, where it has moved onward. -/
def SessionsOnward (t t' : Table Uuid Session) : Prop :=
  ∀ id s, t.get? id = some s → ∃ s', t'.get? id = some s' ∧ s.Onward s'

namespace SessionsOnward

theorem refl (t : Table Uuid Session) : t.SessionsOnward t :=
  fun _ s h => ⟨s, h, Session.Onward.refl s⟩

theorem trans {t₁ t₂ t₃ : Table Uuid Session} (h₁ : t₁.SessionsOnward t₂)
    (h₂ : t₂.SessionsOnward t₃) : t₁.SessionsOnward t₃ := by
  intro id s hs
  obtain ⟨s₂, hs₂, ho₂⟩ := h₁ id s hs
  obtain ⟨s₃, hs₃, ho₃⟩ := h₂ id s₂ hs₂
  exact ⟨s₃, hs₃, ho₂.trans ho₃⟩

theorem map {t : Table Uuid Session} {f : Uuid → Session → Session}
    (hf : ∀ k (s : Session), s.Onward (f k s)) : t.SessionsOnward (t.map f) := by
  intro id s hs
  refine ⟨f id s, ?_, hf id s⟩
  rw [get?_map, hs]
  rfl

theorem insert {t : Table Uuid Session} {id : Uuid} (h : t.get? id = none) (s : Session) :
    t.SessionsOnward (t.insert id s) := by
  intro id' s' hs'
  have hne : id ≠ id' := by
    rintro rfl
    rw [h] at hs'
    cases hs'
  refine ⟨s', ?_, Session.Onward.refl s'⟩
  rw [get?_insert, if_neg hne]
  exact hs'

end SessionsOnward

end Table

end Gatehouse
