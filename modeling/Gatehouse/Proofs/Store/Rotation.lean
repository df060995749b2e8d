import Gatehouse.Proofs.Session
import Gatehouse.Store.Memory

/-! # What a rotation does

`MemoryStore.rotate` has four ends (`rotate_cases`).  If the session to be replaced is not active any
more, it answers *superseded* and leaves the store; if the token digest is taken, or a session that
the rotation does not supersede holds the device, it fails; else the store becomes
`afterRotation`, in which every superseded session is revoked and the new one is stored. -/

namespace Gatehouse.MemoryStore

variable {st : MemoryStore} {r : Rotation}

/-- The session as a rotation leaves it. -/
def rotated (r : Rotation) (s : Session) : Session :=
  if supersedes r s then s.revoke r.reason r.now else s

/-- The store after a rotation that is carried out. -/
def afterRotation (st : MemoryStore) (r : Rotation) : MemoryStore :=
  { st with sessions := (st.sessions.map fun _ s => rotated r s).insert r.session.id r.session }

/-- The ids of the sessions that a rotation supersedes. -/
def supersededIds (st : MemoryStore) (r : Rotation) : List Uuid :=
  (st.sessions.values.filter (supersedes r)).map (·.id)

theorem supersedes_iff {s : Session} :
    supersedes r s = true ↔ s.userId = r.session.userId ∧ s.revoked = false ∧
      (s.deviceId = r.scope.deviceId ∨ some s.id = r.replaces) := by
  simp [supersedes, Scope.covers, and_assoc]

theorem collides_iff {s : Session} :
    collides r s = true ↔
      s.userId = r.session.userId ∧ s.revoked = false ∧ s.deviceId = r.session.deviceId := by
  simp [collides, and_assoc]

theorem onward_rotated (r : Rotation) (s : Session) : s.Onward (rotated r s) := by
  unfold rotated
  by_cases h : supersedes r s = true
  · rw [if_pos h]
    exact s.onward_revoke r.reason r.now
  · rw [if_neg h]
    exact Session.Onward.refl s

/-- A session that is not revoked after a rotation was not superseded by it. -/
theorem not_supersedes_of_rotated {s : Session} (h : (rotated r s).revoked = false) :
    supersedes r s = false := by
  unfold rotated at h
  cases hs : supersedes r s with
  | false => rfl
  | true =>
      rw [hs, if_pos rfl, Session.revoked_revoke] at h
      cases h

/-- The sessions after a rotation that is carried out, key by key. -/
theorem get?_afterRotation (st : MemoryStore) (r : Rotation) (id : Uuid) :
    (st.afterRotation r).sessions.get? id =
      if r.session.id = id then some r.session else (st.sessions.get? id).map (rotated r) := by
  unfold afterRotation
  rw [Table.get?_insert, Table.get?_map]

/-- **The ends of a rotation.** -/
theorem rotate_cases (st : MemoryStore) (r : Rotation) :
    (st.replacedIsActive r = false ∧ st.rotate r = .ok (.superseded, st)) ∨
    (st.replacedIsActive r = true ∧ st.sessions.any (·.tokenHash = r.session.tokenHash) = true ∧
      st.rotate r = .error (.root "refresh token hash collision")) ∨
    (st.replacedIsActive r = true ∧ st.sessions.any (·.tokenHash = r.session.tokenHash) = false ∧
      (st.sessions.any fun s => collides r s && !supersedes r s) = true ∧
      st.rotate r =
        .error (.root "an active session outside the rotation scope holds this device id")) ∨
    (st.replacedIsActive r = true ∧ st.sessions.any (·.tokenHash = r.session.tokenHash) = false ∧
      (st.sessions.any fun s => collides r s && !supersedes r s) = false ∧
      st.rotate r = .ok (.committed (st.supersededIds r), st.afterRotation r)) := by
  unfold rotate
  cases hr : st.replacedIsActive r with
  | false => exact .inl ⟨rfl, rfl⟩
  | true =>
      cases hh : st.sessions.any (·.tokenHash = r.session.tokenHash) with
      | true => exact .inr (.inl ⟨rfl, rfl, rfl⟩)
      | false =>
          cases hc : st.sessions.any fun s => collides r s && !supersedes r s with
          | true => exact .inr (.inr (.inl ⟨rfl, rfl, rfl, rfl⟩))
          | false => exact .inr (.inr (.inr ⟨rfl, rfl, rfl, rfl⟩))

/-- A rotation that is committed met no obstacle. -/
theorem rotate_committed {ids : List Uuid} {st' : MemoryStore}
    (h : st.rotate r = .ok (.committed ids, st')) :
    st.replacedIsActive r = true ∧ st.sessions.any (·.tokenHash = r.session.tokenHash) = false ∧
      (st.sessions.any fun s => collides r s && !supersedes r s) = false ∧
      ids = st.supersededIds r ∧ st' = st.afterRotation r := by
  rcases st.rotate_cases r with ⟨_, h'⟩ | ⟨_, _, h'⟩ | ⟨_, _, _, h'⟩ | ⟨h₁, h₂, h₃, h'⟩
  · rw [h'] at h
    cases h
  · rw [h'] at h
    cases h
  · rw [h'] at h
    cases h
  · rw [h'] at h
    cases h
    exact ⟨h₁, h₂, h₃, rfl, rfl⟩

/-- A rotation that is carried out stores a token digest that was not there. -/
theorem sessions_afterRotation_ne {ids : List Uuid} {st' : MemoryStore}
    (h : st.rotate r = .ok (.committed ids, st')) : st'.sessions ≠ st.sessions := by
  obtain ⟨_, hhash, _, _, rfl⟩ := rotate_committed h
  intro heq
  have hnew : st.sessions.get? r.session.id = some r.session := by
    rw [← heq, get?_afterRotation, if_pos rfl]
  have hmem : r.session ∈ st.sessions.values :=
    List.mem_map.mpr ⟨_, Table.mem_entries_of_get? hnew, rfl⟩
  have hany : st.sessions.any (·.tokenHash = r.session.tokenHash) = true :=
    List.any_eq_true.mpr ⟨_, hmem, by simp⟩
  rw [hhash] at hany
  cases hany

/-- A rotation that is answered leaves the store or carries out all of it. -/
theorem rotate_ok {outcome : RotationOutcome} {st' : MemoryStore}
    (h : st.rotate r = .ok (outcome, st')) :
    outcome = .superseded ∧ st' = st ∨
      outcome = .committed (st.supersededIds r) ∧ st' = st.afterRotation r := by
  rcases st.rotate_cases r with ⟨_, h'⟩ | ⟨_, _, h'⟩ | ⟨_, _, _, h'⟩ | ⟨_, _, _, h'⟩
  · rw [h'] at h
    cases h
    exact .inl ⟨rfl, rfl⟩
  · rw [h'] at h
    cases h
  · rw [h'] at h
    cases h
  · rw [h'] at h
    cases h
    exact .inr ⟨rfl, rfl⟩

end Gatehouse.MemoryStore
