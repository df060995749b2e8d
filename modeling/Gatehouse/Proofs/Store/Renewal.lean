import Gatehouse.Proofs.Session.Opening
import Gatehouse.Proofs.Store.Orderly

/-! # Renewing a session

`Renewable` says which sessions can be renewed by a token: the active ones that have its digest and
whose account exists.  In an orderly store there is at most one, the one that the digest finds
(`renewable_iff`), and it is the only one on its device that is not revoked, so a rotation that
replaces it revokes no other (`replaces_afterRotation`).  A rotation whose scope is the device of
its session is carried out if the session has a new digest and what it replaces is still active
(`rotate_of_scope`). -/

namespace Gatehouse

namespace MemoryStore

variable {st : MemoryStore} {token : String} {now : Instant} {session : Session}
  {identity : Identity}

/-! ### Sessions that can be renewed -/

/-- The session behind a token is active, and the account that holds it exists. -/
structure Renewable (st : MemoryStore) (token : String) (now : Instant) (session : Session)
    (identity : Identity) : Prop where
  stored : st.sessions.get? session.id = some session
  tokenHash : session.tokenHash = Sha256.digest (Bytes.ofText token)
  not_revoked : session.revoked = false
  not_expired : ¬ session.expiresAt < now
  holder : st.identities.get? session.userId = some identity

/-- The active session behind a token. -/
def activeByToken (st : MemoryStore) (token : String) (now : Instant) : Option Session :=
  (st.findByTokenHash (refreshTokenHash token)).filter (·.isActive now)

/-- A session that is active behind a token was active there before. -/
theorem activeByToken_of_le {st : MemoryStore} {token : String} {session : Session}
    {t t' : Instant} (hle : t ≤ t') (h : st.activeByToken token t' = some session) :
    st.activeByToken token t = some session := by
  unfold activeByToken at h ⊢
  rw [Option.filter_eq_some_iff] at h ⊢
  exact ⟨h.1, (Session.Onward.refl session).isActive hle h.2⟩

/-- An active session of the token's digest is the one that is found. -/
theorem Orderly.activeByToken_eq_some (h : st.Orderly) :
    st.activeByToken token now = some session ↔
      st.sessions.get? session.id = some session ∧
        session.tokenHash = Sha256.digest (Bytes.ofText token) ∧ session.isActive now = true := by
  unfold activeByToken
  rw [Option.filter_eq_some_iff]
  constructor
  · rintro ⟨hfound, hactive⟩
    obtain ⟨hstored, hhash⟩ := h.findByTokenHash_eq_some hfound
    exact ⟨hstored, hhash, hactive⟩
  · rintro ⟨hstored, hhash, hactive⟩
    refine ⟨?_, hactive⟩
    rw [refreshTokenHash, ← hhash]
    exact h.findByTokenHash_of_stored hstored

theorem Orderly.renewable_iff (h : st.Orderly) :
    st.Renewable token now session identity ↔ st.activeByToken token now = some session ∧
      st.identities.get? session.userId = some identity := by
  rw [h.activeByToken_eq_some, Session.isActive_iff]
  constructor
  · intro hr
    exact ⟨⟨hr.stored, hr.tokenHash, hr.not_revoked, hr.not_expired⟩, hr.holder⟩
  · rintro ⟨⟨hstored, hhash, hrevoked, hexpired⟩, hholder⟩
    exact ⟨hstored, hhash, hrevoked, hexpired, hholder⟩

/-- Whatever is renewed by a token, one account holds it. -/
theorem Orderly.renewable_unique (h : st.Orderly) {session' : Session} {identity' : Identity}
    (hr : st.Renewable token now session identity)
    (hr' : st.Renewable token now session' identity') : identity' = identity := by
  obtain ⟨hactive, hholder⟩ := h.renewable_iff.mp hr
  obtain ⟨hactive', hholder'⟩ := h.renewable_iff.mp hr'
  have hsame : session' = session := Option.some.inj (hactive'.symm.trans hactive)
  rw [hsame] at hholder'
  exact Option.some.inj (hholder'.symm.trans hholder)

/-! ### The rotation of a renewal -/

/-- A session takes the place of another one, which is revoked as rotated; nothing else changes. -/
structure Replaces (st st' : MemoryStore) (old new : Session) (now : Instant) : Prop where
  stored : st.sessions.get? old.id = some old
  free : st.sessions.get? new.id = none
  added : st'.sessions.get? new.id = some new
  rotated : st'.sessions.get? old.id =
    some { old with revoked := true, revokedReason := some "Rotated", revokedAt := some now }
  others : ∀ id, id ≠ old.id → id ≠ new.id → st'.sessions.get? id = st.sessions.get? id
  rest : st' = { st with sessions := st'.sessions }

section

variable {r : Rotation} {old : Session}

/-- In an orderly store a rotation that replaces a session on its device revokes no other. -/
theorem replaces_afterRotation (h : st.Orderly) (hstored : st.sessions.get? old.id = some old)
    (hrevoked : old.revoked = false) (hfree : st.sessions.get? r.session.id = none)
    (huser : r.session.userId = old.userId) (hscope : r.scope = ⟨old.deviceId⟩)
    (hreason : r.reason = reasonRotated) (hreplaces : r.replaces = some old.id) :
    st.Replaces (st.afterRotation r) old r.session r.now := by
  have hne : r.session.id ≠ old.id := by
    intro heq
    rw [heq, hstored] at hfree
    cases hfree
  refine ⟨hstored, hfree, ?_, ?_, ?_, rfl⟩
  · rw [get?_afterRotation, if_pos rfl]
  · have hsupersedes : supersedes r old = true :=
      supersedes_iff.mpr ⟨huser.symm, hrevoked, .inr hreplaces.symm⟩
    rw [get?_afterRotation, if_neg hne, hstored, Option.map_some, MemoryStore.rotated,
      if_pos hsupersedes, Session.revoke_of_not_revoked hrevoked, hreason]
    rfl
  · intro id hold hnew
    rw [get?_afterRotation, if_neg (Ne.symm hnew)]
    cases hs : st.sessions.get? id with
    | none => rfl
    | some s =>
        -- Beside `old` its device has no session that is not revoked.
        have hsupersedes : ¬ supersedes r s = true := by
          rw [supersedes_iff, huser, hscope, hreplaces, h.own_id hs]
          rintro ⟨hu, hr, hd | hid⟩
          · exact hold (h.device_unique hs hstored hr hrevoked hu hd)
          · exact hold (Option.some.inj hid)
        rw [Option.map_some, MemoryStore.rotated, if_neg hsupersedes]

/-- A rotation whose scope is the device of its session, which has a new digest, is carried out
unless what it replaces is not active any more: whatever is in its way it supersedes. -/
theorem rotate_of_scope (hreplaced : st.replacedIsActive r = true)
    (hhash : st.findByTokenHash r.session.tokenHash = none)
    (hscope : r.scope = ⟨r.session.deviceId⟩) :
    st.rotate r = .ok (.committed (st.supersededIds r), st.afterRotation r) := by
  rcases st.rotate_cases r with ⟨hr, _⟩ | ⟨_, hr, _⟩ | ⟨_, _, hr, _⟩ | ⟨_, _, _, hr⟩
  · rw [hreplaced] at hr
    cases hr
  · obtain ⟨s, hs, hp⟩ := List.any_eq_true.mp hr
    exact absurd hp (List.find?_eq_none.mp hhash s hs)
  · obtain ⟨s, _, hp⟩ := List.any_eq_true.mp hr
    rw [Bool.and_eq_true, Bool.not_eq_true', collides_iff] at hp
    obtain ⟨⟨hu, hn, hd⟩, hs⟩ := hp
    have hsupersedes : supersedes r s = true :=
      supersedes_iff.mpr ⟨hu, hn, .inl (by rw [hscope, hd])⟩
    rw [hsupersedes] at hs
    cases hs
  · exact hr

end

end MemoryStore

end Gatehouse
