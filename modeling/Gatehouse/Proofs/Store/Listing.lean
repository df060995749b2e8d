import Gatehouse.Proofs.Store.Orderly

/-! # Noting the use of a device's session, and listing the sessions

`t.usedOn userId device asked used` is the session `t` after its user has asked for the sessions
from a device: it was used then if it is the user's, on the device, and active when it was looked
for.  In an orderly store this is what it means to touch the session that is found for the device
(`Orderly.touch_eq_usedOn`).  A use leaves the order of the store, and it makes no session active or
inactive (`isActive_usedOn`).  The sessions are listed with the last used first
(`pairwise_listActive`). -/

namespace Gatehouse

variable {st : MemoryStore} {userId : Uuid} {device : String} {asked used now : Instant}

/-! ### The use of a session -/

/-- The session after its user has used the session on a device that was active when asked for. -/
def Session.usedOn (userId : Uuid) (device : String) (asked used : Instant) (t : Session) :
    Session :=
  if t.userId = userId ∧ t.deviceId = device ∧ t.isActive asked = true then t.touch used else t

namespace Session

theorem onward_usedOn (t : Session) : t.Onward (t.usedOn userId device asked used) := by
  unfold usedOn
  split_ifs
  · exact t.onward_touch used
  · exact .refl t

theorem isActive_usedOn (t : Session) :
    (t.usedOn userId device asked used).isActive now = t.isActive now := by
  unfold usedOn
  split_ifs <;> rfl

/-- A session of the user on the device was used if it was active when asked for. -/
theorem lastUsed_usedOn {t : Session} (huser : t.userId = userId) (hdevice : t.deviceId = device)
    (hactive : t.isActive asked = true) : (t.usedOn userId device asked used).lastUsed = used := by
  rw [usedOn, if_pos ⟨huser, hdevice, hactive⟩]
  rfl

/-- No session was used later than the use, if none was before. -/
theorem lastUsed_usedOn_le {t : Session} (h : t.lastUsed ≤ used) :
    (t.usedOn userId device asked used).lastUsed ≤ used := by
  unfold usedOn
  split_ifs
  · exact Instant.le_refl used
  · exact h

end Session

namespace MemoryStore

/-- The store after the use of the user's session on a device, if one was active when asked for. -/
def usedOn (st : MemoryStore) (userId : Uuid) (device : String) (asked used : Instant) :
    MemoryStore :=
  { st with sessions := st.sessions.map fun _ t => t.usedOn userId device asked used }

theorem get?_usedOn (id : Uuid) : (st.usedOn userId device asked used).sessions.get? id =
    (st.sessions.get? id).map (·.usedOn userId device asked used) :=
  Table.get?_map _ _ id

namespace Orderly

theorem usedOn (h : st.Orderly) : (st.usedOn userId device asked used).Orderly :=
  h.map fun _ t => t.onward_usedOn

/-- To touch the session that is found for a device is to use the one that is active there. -/
theorem touch_eq_usedOn (h : st.Orderly) {s : Session}
    (hfound : (st.listActive userId asked).find? (·.deviceId == device) = some s) :
    st.touch s.id used = st.usedOn userId device asked used := by
  obtain ⟨hstored, huser, hdevice, hactive⟩ := h.find?_listActive_eq_some hfound
  have hsessions : st.sessions.modify s.id (·.touch used) =
      st.sessions.map fun _ t => t.usedOn userId device asked used := by
    refine Table.map_congr fun k t ht => ?_
    have ht := Table.get?_of_mem_entries h.distinct ht
    by_cases hk : k = s.id
    · rw [hk, hstored] at ht
      cases ht
      rw [if_pos hk, Session.usedOn, if_pos ⟨huser, hdevice, hactive⟩]
    · -- Another session is not on the device, or not active there.
      rw [if_neg hk, Session.usedOn, if_neg]
      rintro ⟨huser', hdevice', hactive'⟩
      exact hk (h.device_unique ht hstored (Session.isActive_iff.mp hactive').1
        (Session.isActive_iff.mp hactive).1 (huser'.trans huser.symm)
        (hdevice'.trans hdevice.symm))
  rw [touch, hsessions]
  rfl

end Orderly

/-- If no session is found for a device, none was used. -/
theorem usedOn_eq_self
    (hnone : (st.listActive userId asked).find? (·.deviceId == device) = none) :
    st.usedOn userId device asked used = st := by
  have hsessions :
      (st.sessions.map fun _ t => t.usedOn userId device asked used) = st.sessions := by
    refine Table.map_eq_self fun k t ht => if_neg ?_
    rintro ⟨huser, hdevice, hactive⟩
    have hmem : t ∈ st.sessions.values := List.mem_map_of_mem (f := (·.2)) ht
    have hlisted := mem_listActive.mpr ⟨hmem, huser, hactive⟩
    exact List.find?_eq_none.mp hnone t hlisted (beq_iff_eq.mpr hdevice)
  rw [usedOn, hsessions]

/-- The sessions after a use are those before it, each after the use. -/
theorem mem_values_usedOn {t : Session} :
    t ∈ (st.usedOn userId device asked used).sessions.values ↔
      ∃ t₀ ∈ st.sessions.values, t₀.usedOn userId device asked used = t := by
  unfold usedOn Table.map Table.values
  rw [List.map_map, List.mem_map]
  simp only [List.mem_map, exists_exists_and_eq_and]
  rfl

/-! ### The list -/

/-- The last used is listed first. -/
theorem pairwise_listActive (st : MemoryStore) (userId : Uuid) (now : Instant) :
    (st.listActive userId now).Pairwise fun t t' => t'.lastUsed ≤ t.lastUsed := by
  refine List.Pairwise.imp of_decide_eq_true (List.pairwise_mergeSort ?_ ?_ _)
  · intro a b c hab hbc
    exact decide_eq_true (Instant.le_trans (of_decide_eq_true hbc) (of_decide_eq_true hab))
  · intro a b
    rw [Bool.or_eq_true, decide_eq_true_eq, decide_eq_true_eq]
    exact Instant.le_total b.lastUsed a.lastUsed

end MemoryStore

end Gatehouse
