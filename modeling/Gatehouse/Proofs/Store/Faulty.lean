import Gatehouse.Proofs.Store.Rotation
import Gatehouse.Store.Faulty

/-! # Faults of the store

A call in the table of faults does nothing, and so does a call that the store refuses: whatever the
answer is, an error leaves the storage as it was (`answer_error_unchanged`).  Calls that only read
leave it in any case (`answer_of_read`).  To *mend* a call is to strike it from the table; no other
call sees that (`answer_mend`). -/

namespace Gatehouse

/-- The call may change the store. -/
def StoreCall.writes : StoreCall → Bool
  | rotate _ | revoke .. | revokeAll .. | touch .. => true
  | _ => false

theorem MemoryStore.answer_of_read {st st' : MemoryStore} {call : StoreCall} {reply : call.Reply}
    (hc : call.writes = false) (h : st.answer call = .ok (reply, st')) : st' = st := by
  cases call <;> cases hc <;> cases h <;> rfl

namespace FaultyStore

variable {st : FaultyStore} {call : StoreCall}

/-- Without faults no call is faulted. -/
theorem lookup_of_sound (h : st.faults = []) (label : String) : st.faults.lookup label = none := by
  rw [h]
  rfl

theorem answer_faulted {fault : StoreFault} (h : st.faults.lookup call.label = some fault) :
    answer call st = (.error fault.trouble, st) := by
  rw [answer, h]

theorem answer_ok {reply : call.Reply} {store : MemoryStore}
    (hf : st.faults.lookup call.label = none) (h : st.store.answer call = .ok (reply, store)) :
    answer call st = (.ok reply, { st with store }) := by
  rw [answer, hf, h]

theorem answer_refused {cause : Cause} (hf : st.faults.lookup call.label = none)
    (h : st.store.answer call = .error cause) : answer call st = (.error (.failed cause), st) := by
  rw [answer, hf, h]

/-- A call without an answer changed nothing. -/
theorem answer_error_unchanged {trouble : Trouble} (h : (answer call st).1 = .error trouble) :
    (answer call st).2 = st := by
  unfold answer at h ⊢
  cases hf : st.faults.lookup call.label with
  | some fault => rfl
  | none =>
      cases ha : st.store.answer call with
      | error cause => rfl
      | ok result =>
          rw [hf, ha] at h
          cases h

/-- A call that is answered is answered by the store. -/
theorem answer_eq_ok {reply : call.Reply} (h : (answer call st).1 = .ok reply) :
    ∃ store, st.store.answer call = .ok (reply, store) ∧
      (answer call st).2 = { st with store } := by
  cases hf : st.faults.lookup call.label with
  | some fault =>
      rw [answer_faulted hf] at h
      cases h
  | none =>
      cases ha : st.store.answer call with
      | error cause =>
          rw [answer_refused hf ha] at h
          cases h
      | ok result =>
          rw [answer_ok hf ha] at h ⊢
          cases h
          exact ⟨result.2, rfl, rfl⟩

theorem answer_of_read (hc : call.writes = false) : (answer call st).2 = st := by
  cases hf : st.faults.lookup call.label with
  | some fault => rw [answer_faulted hf]
  | none =>
      cases ha : st.store.answer call with
      | error cause => rw [answer_refused hf ha]
      | ok result =>
          rw [answer_ok hf ha, MemoryStore.answer_of_read hc ha]

/-! ### Mending a call -/

/-- The storage with a call struck from the table of faults. -/
def mend (label : String) (st : FaultyStore) : FaultyStore :=
  { st with faults := st.faults.filter (·.1 ≠ label) }

theorem lookup_filter_ne {α : Type} {label l : String} (h : l ≠ label) :
    ∀ faults : List (String × α), (faults.filter (·.1 ≠ label)).lookup l = faults.lookup l
  | [] => rfl
  | (k, a) :: rest => by
      by_cases hk : k = label
      · have hl : (l == k) = false := beq_eq_false_iff_ne.mpr (hk ▸ h)
        rw [List.filter_cons_of_neg (by simp [hk]), List.lookup_cons, hl]
        exact lookup_filter_ne h rest
      · rw [List.filter_cons_of_pos (by simp [hk]), List.lookup_cons, List.lookup_cons,
          lookup_filter_ne h rest]

theorem lookup_filter_self {α : Type} (label : String) (faults : List (String × α)) :
    (faults.filter (·.1 ≠ label)).lookup label = none := by
  rw [List.lookup_eq_none_iff]
  intro e he
  rw [List.mem_filter, decide_eq_true_eq] at he
  exact bne_iff_ne.mpr (Ne.symm he.2)

/-- A call that was not mended is answered as before. -/
theorem answer_mend {label : String} (h : call.label ≠ label) (st : FaultyStore) :
    answer call (st.mend label) = ((answer call st).1, (answer call st).2.mend label) := by
  have hl : (st.mend label).faults.lookup call.label = st.faults.lookup call.label :=
    lookup_filter_ne h st.faults
  cases hf : st.faults.lookup call.label with
  | some fault => rw [answer_faulted hf, answer_faulted (hl.trans hf)]
  | none =>
      cases ha : st.store.answer call with
      | error cause => rw [answer_refused hf ha, answer_refused (hl.trans hf) ha]
      | ok result => rw [answer_ok hf ha, answer_ok (hl.trans hf) ha]; rfl

end FaultyStore

end Gatehouse
