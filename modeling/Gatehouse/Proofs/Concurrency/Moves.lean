import Gatehouse.Proofs.Calendar
import Gatehouse.Proofs.Concurrency.Calls
import Gatehouse.Proofs.Store.Reachable

/-! # How calls move the world

Whatever an operation calls, the world *moves*: the clock does not go back, the faults stay, the
store stays orderly, sessions move onward, and ids that other operations have drawn for new sessions
stay free (`World.Moves`).  A call that adds no session does so whatever its arguments
(`NoRotation.moves`); a rotation does if the id of its session is free (`World.moves_rotate`). -/

namespace Gatehouse

/-- The sessions of a world. -/
abbrev World.sessions (w : World FaultyStore) : Table Uuid Session := w.stored.store.sessions

/-! ### Moves -/

/-- The world may have become the other one while certain ids were kept free. -/
structure World.Moves (kept : Uuid → Prop) (w w' : World FaultyStore) : Prop where
  clock : w.now ≤ w'.now
  faults : w'.stored.faults = w.stored.faults
  orderly : w.stored.store.Orderly → w'.stored.store.Orderly
  onward : w.sessions.SessionsOnward w'.sessions
  free : ∀ id, kept id → w.sessions.get? id = none → w'.sessions.get? id = none

namespace World.Moves

variable {kept kept' : Uuid → Prop} {w w' w'' : World FaultyStore}

theorem refl (kept : Uuid → Prop) (w : World FaultyStore) : w.Moves kept w :=
  ⟨Instant.le_refl w.now, rfl, id, Table.SessionsOnward.refl _, fun _ _ h => h⟩

theorem trans (h : w.Moves kept w') (h' : w'.Moves kept w'') : w.Moves kept w'' where
  clock := Instant.le_trans h.clock h'.clock
  faults := h'.faults.trans h.faults
  orderly ho := h'.orderly (h.orderly ho)
  onward := h.onward.trans h'.onward
  free id hk hn := h'.free id hk (h.free id hk hn)

theorem mono (h : w.Moves kept w') (hk : ∀ id, kept' id → kept id) : w.Moves kept' w' :=
  { h with free := fun id hid hn => h.free id (hk id hid) hn }

/-- A session that was revoked is there, revoked. -/
theorem revoked (h : w.Moves kept w') {id : Uuid} {c : Session} (hc : w.sessions.get? id = some c)
    (hr : c.revoked = true) :
    ∃ c', w'.sessions.get? id = some c' ∧ c'.tokenHash = c.tokenHash ∧ c'.revoked = true := by
  obtain ⟨c', hc', ho⟩ := h.onward id c hc
  exact ⟨c', hc', ho.tokenHash_eq, (ho.stands hr).1⟩

end World.Moves

/-- A call changes the store as the store says, or not at all. -/
theorem FaultyStore.answer_store (call : StoreCall) (st : FaultyStore) :
    (answer call st).2 = st ∨ (answer call st).2 = { st with store := st.store.after call } := by
  cases hf : st.faults.lookup call.label with
  | some fault =>
      rw [answer_faulted hf]
      exact .inl rfl
  | none =>
      cases ha : st.store.answer call with
      | error cause =>
          rw [answer_refused hf ha]
          exact .inl rfl
      | ok result =>
          rw [answer_ok hf ha, MemoryStore.after_of_answer ha]
          exact .inr rfl

/-- Without faults a call changes the store as the store says. -/
theorem FaultyStore.answer_of_sound {st : FaultyStore} (h : st.faults = []) (call : StoreCall) :
    (answer call st).2 = { st with store := st.store.after call } := by
  have hf := lookup_of_sound h call.label
  cases ha : st.store.answer call with
  | error cause => rw [answer_refused hf ha, MemoryStore.after_of_failure ha]
  | ok result => rw [answer_ok hf ha, MemoryStore.after_of_answer ha]

/-- Calls do not bring the store into trouble, nor out of it. -/
theorem World.faults_handler (op : Backend.Op) (w : World FaultyStore) :
    (World.handler FaultyStore.storage op w).2.stored.faults = w.stored.faults := by
  cases op with
  | store call =>
      change (FaultyStore.answer call w.stored).2.faults = w.stored.faults
      rcases FaultyStore.answer_store call w.stored with h | h <;> rw [h]
  | _ => rfl

/-- The world moves at a store call if the sessions do. -/
theorem World.moves_store {kept : Uuid → Prop} (w : World FaultyStore) (call : StoreCall)
    (hcall : w.sessions.SessionsOnward (w.stored.store.after call).sessions)
    (hfree : ∀ id, kept id → w.sessions.get? id = none →
      (w.stored.store.after call).sessions.get? id = none) :
    w.Moves kept (World.handler FaultyStore.storage (.store call) w).2 := by
  change w.Moves kept { w with stored := (FaultyStore.answer call w.stored).2 }
  rcases FaultyStore.answer_store call w.stored with h | h
  · rw [h]
    exact Moves.refl kept w
  · rw [h]
    exact ⟨Instant.le_refl w.now, rfl, fun ho => ho.after call, hcall, hfree⟩

/-- A call that adds no session keeps every id free. -/
theorem Backend.Op.NoRotation.moves {op : Backend.Op} (h : op.NoRotation)
    (kept : Uuid → Prop) (w : World FaultyStore) :
    w.Moves kept (World.handler FaultyStore.storage op w).2 := by
  cases op with
  | now => exact World.Moves.refl kept w
  | store call =>
      obtain ⟨f, hf, heq⟩ := w.stored.store.after_other call fun r hr => h r (by rw [hr])
      refine w.moves_store call ?_ ?_
      · rw [heq]
        exact Table.SessionsOnward.map hf
      · intro id _ hn
        rw [heq]
        change (Table.map _ f).get? id = none
        rw [Table.get?_map, hn]
        rfl
  | refuse tokenId expiresAt now =>
      exact ⟨Instant.le_refl w.now, rfl, id, Table.SessionsOnward.refl _, fun _ _ hn => hn⟩
  | isRefused tokenId now => exact World.Moves.refl kept w
  | health => exact World.Moves.refl kept w

/-- A rotation under an id that is free keeps every other id free. -/
theorem World.moves_rotate (w : World FaultyStore) (r : Rotation)
    (h : w.sessions.get? r.session.id = none) :
    w.Moves (· ≠ r.session.id) (World.handler FaultyStore.storage (.store (.rotate r)) w).2 := by
  refine w.moves_store _ ?_ ?_
  · rcases w.stored.store.after_rotate r with heq | ⟨_, _, heq⟩
    · rw [heq]
      exact Table.SessionsOnward.refl _
    · rw [heq]
      refine Table.SessionsOnward.trans
        (Table.SessionsOnward.map fun _ s => MemoryStore.onward_rotated r s)
        (Table.SessionsOnward.insert ?_ r.session)
      rw [Table.get?_map, h]
      rfl
  · intro id hid hn
    rcases w.stored.store.after_rotate r with heq | ⟨_, _, heq⟩
    · rw [heq]
      exact hn
    · rw [heq, MemoryStore.get?_afterRotation, if_neg (Ne.symm hid)]
      change ((World.sessions w).get? id).map _ = none
      rw [hn]
      rfl

end Gatehouse
