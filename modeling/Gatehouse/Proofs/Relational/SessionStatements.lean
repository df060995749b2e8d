import Gatehouse.Proofs.Database.Condition
import Gatehouse.Proofs.Relational.SessionRow

/-! # Which sessions statements are about

The relational store leaves to the database which rows a statement is about and what becomes of
them.  For a row that is read as a session this is what the store in memory does with the session: a
rotation locks the session that it replaces as long as it is active, and revokes what it supersedes
(`rotation_statements`); the other statements about sessions look at the same things
(`session_statements`).  Times are compared and kept to the microsecond. -/

namespace Gatehouse.Relational

open Database

variable {row : Row} {s : Session} (hrow : session row = .ok s)
include hrow

/-! ### Selected rows -/

theorem selects_lockActive_iff (id : Uuid) (now : Instant) :
    (Statements.lockActive id now).Selects row ↔
      s.id = id ∧ s.isActive now.truncateToMicros = true := by
  simp only [session_eq_ok_iff, sessionRow, Statements.sessionColumns, Statements.sessionValues,
    List.zip_cons_cons, List.forall_mem_cons] at hrow
  unfold Statements.lockActive
  rw [Statement.selects_iff (c := .and (.equals "id" 0) (.and (.not (.holds "is_revoked"))
    (.atLeast "expires_at" 1))) String.toList_ofList (by decide +kernel)]
  simp [hrow, bool?, Value.kept, Session.isActive, Session.isExpired, Instant.not_lt]

theorem selects_revokeScope_iff (r : Rotation) :
    (Statements.revokeScope r).Selects row ↔ MemoryStore.supersedes r s = true := by
  simp only [session_eq_ok_iff, sessionRow, Statements.sessionColumns, Statements.sessionValues,
    List.zip_cons_cons, List.forall_mem_cons] at hrow
  unfold Statements.revokeScope
  rw [Statement.selects_iff (c := .and (.equals "user_id" 0) (.and (.not (.holds "is_revoked"))
    (.or (.equals "device_id" 1) (.equals "id" 4)))) (toList_parts _ _) (by decide +kernel)]
  -- A rotation that replaces no session binds a null, and no id is equal to that.
  cases hreplaces : r.replaces <;>
    simp [hrow, hreplaces, bool?, Value.kept, Value.ofOption, MemoryStore.supersedes, Scope.covers,
      and_assoc]

theorem selects_revokeAll_iff (userId : Uuid) (reason : String) (now : Instant) :
    (Statements.revokeAll userId reason now).Selects row ↔
      s.userId = userId ∧ s.revoked = false := by
  simp only [session_eq_ok_iff, sessionRow, Statements.sessionColumns, Statements.sessionValues,
    List.zip_cons_cons, List.forall_mem_cons] at hrow
  unfold Statements.revokeAll
  rw [Statement.selects_iff (c := .and (.equals "user_id" 0) (.not (.holds "is_revoked")))
    (toList_parts _ _) (by decide +kernel)]
  simp [hrow, bool?, Value.kept]

theorem selects_activeSessions_iff (userId : Uuid) (now : Instant) :
    (Statements.activeSessions userId now).Selects row ↔
      s.userId = userId ∧ s.isActive now.truncateToMicros = true := by
  simp only [session_eq_ok_iff, sessionRow, Statements.sessionColumns, Statements.sessionValues,
    List.zip_cons_cons, List.forall_mem_cons] at hrow
  unfold Statements.activeSessions
  rw [Statement.selects_iff (c := .and (.equals "user_id" 0) (.and (.not (.holds "is_revoked"))
    (.atLeast "expires_at" 1))) (toList_columns _ _ _) (by decide +kernel)]
  simp [hrow, bool?, Value.kept, Session.isActive, Session.isExpired, Instant.not_lt]

theorem selects_touch_iff (id : Uuid) (now : Instant) :
    (Statements.touch id now).Selects row ↔ s.id = id := by
  simp only [session_eq_ok_iff, sessionRow, Statements.sessionColumns, Statements.sessionValues,
    List.zip_cons_cons, List.forall_mem_cons] at hrow
  unfold Statements.touch
  rw [Statement.selects_iff (c := .equals "id" 0) String.toList_ofList (by decide +kernel)]
  simp [hrow, Value.kept]

/-! ### Updated rows -/

/-- The columns of a revocation with what they are set to. -/
def revocation (reason : String) (now : Instant) : Row :=
  [("is_revoked", .bool true), ("revoked_reason", .text reason), ("revoked_at", .instant now)]

theorem session_set_revocation (hs : s.revoked = false) (reason : String) (now : Instant) :
    session (row.set (revocation reason now)) = .ok (s.revoke reason now) := by
  simp only [session_eq_ok_iff, sessionRow, Statements.sessionColumns, Statements.sessionValues,
    List.zip_cons_cons, List.forall_mem_cons] at hrow ⊢
  simp [Row.lookup_set, revocation, hrow, Session.revoke, hs, List.lookup_cons, Value.ofOption]

theorem updatedRow?_revokeScope (hs : s.revoked = false) (r : Rotation) :
    ∃ updated, (Statements.revokeScope r).updatedRow? row = some updated ∧
      session updated = .ok (s.revoke r.reason r.now.truncateToMicros) := by
  refine ⟨_, ?_, session_set_revocation hrow hs _ _⟩
  exact Statement.updatedRow?_eq [("is_revoked", .truth), ("revoked_reason", .parameter 2),
    ("revoked_at", .parameter 3)] _ (toList_parts _ _) (by decide +kernel) rfl row

theorem updatedRow?_revokeAll (hs : s.revoked = false) (userId : Uuid) (reason : String)
    (now : Instant) :
    ∃ updated, (Statements.revokeAll userId reason now).updatedRow? row = some updated ∧
      session updated = .ok (s.revoke reason now.truncateToMicros) := by
  refine ⟨_, ?_, session_set_revocation hrow hs _ _⟩
  exact Statement.updatedRow?_eq [("is_revoked", .truth), ("revoked_reason", .parameter 1),
    ("revoked_at", .parameter 2)] _ (toList_parts _ _) (by decide +kernel) rfl row

theorem updatedRow?_touch (id : Uuid) (now : Instant) :
    ∃ updated, (Statements.touch id now).updatedRow? row = some updated ∧
      session updated = .ok (s.touch now.truncateToMicros) := by
  refine ⟨_, Statement.updatedRow?_eq [("last_used", .parameter 1)]
    [("last_used", .instant now.truncateToMicros)] String.toList_ofList (by decide +kernel) rfl row,
    ?_⟩
  simp only [session_eq_ok_iff, sessionRow, Statements.sessionColumns, Statements.sessionValues,
    List.zip_cons_cons, List.forall_mem_cons] at hrow ⊢
  simp [Row.lookup_set, hrow, Session.touch, List.lookup_cons]

/-! ### What the store asks of the database -/

/-- **What a rotation asks of the database is what it does in memory.**  The lookup finds the session
that is replaced if and only if it is active, and the update is about the sessions that the rotation
supersedes, which it revokes for the reason and at the time of the rotation. -/
theorem rotation_statements (r : Rotation) :
    (∀ id, (Statements.lockActive id r.now).Selects row ↔
      s.id = id ∧ s.isActive r.now.truncateToMicros = true) ∧
    ((Statements.revokeScope r).Selects row ↔ MemoryStore.supersedes r s = true) ∧
    (MemoryStore.supersedes r s = true →
      ∃ updated, (Statements.revokeScope r).updatedRow? row = some updated ∧
        session updated = .ok (s.revoke r.reason r.now.truncateToMicros)) := by
  refine ⟨fun id => selects_lockActive_iff hrow id r.now, selects_revokeScope_iff hrow r, ?_⟩
  intro h
  simp only [MemoryStore.supersedes, Bool.and_eq_true, Bool.not_eq_true'] at h
  exact updatedRow?_revokeScope hrow h.1.2 r

/-- **What else is asked of the sessions.**  All sessions of an identity are revoked that were not
before, the active ones are listed, and a use is noted of one session. -/
theorem session_statements (userId id : Uuid) (reason : String) (now : Instant) :
    ((Statements.revokeAll userId reason now).Selects row ↔
      s.userId = userId ∧ s.revoked = false) ∧
    (s.revoked = false →
      ∃ updated, (Statements.revokeAll userId reason now).updatedRow? row = some updated ∧
        session updated = .ok (s.revoke reason now.truncateToMicros)) ∧
    ((Statements.activeSessions userId now).Selects row ↔
      s.userId = userId ∧ s.isActive now.truncateToMicros = true) ∧
    ((Statements.touch id now).Selects row ↔ s.id = id) ∧
    ∃ updated, (Statements.touch id now).updatedRow? row = some updated ∧
      session updated = .ok (s.touch now.truncateToMicros) :=
  ⟨selects_revokeAll_iff hrow userId reason now,
    fun hs => updatedRow?_revokeAll hrow hs userId reason now,
    selects_activeSessions_iff hrow userId now, selects_touch_iff hrow id now,
    updatedRow?_touch hrow id now⟩

end Gatehouse.Relational
