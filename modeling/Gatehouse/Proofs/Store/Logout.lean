import Gatehouse.Proofs.Store.Orderly
import Gatehouse.Session.Opening

/-! # Logged-out sessions

A logout revokes the session of a token digest, if there is one.  In an orderly store that is the
only session with the digest, so the store becomes `afterLogout`, in which every session with it is
revoked and all others are as they were (`Orderly.revoke_eq_afterLogout`).  From then on the digest
has *ended*: none of its sessions is active at any time (`Ended.filter_findByTokenHash`), a second
logout leaves the store (`Ended.afterLogout`), and so does every other call leave it ended, unless
it is the first to store a session with the digest (`Ended.after`). -/

namespace Gatehouse.MemoryStore

variable {st : MemoryStore} {hash : Bytes} {c : Session}

/-- The session as the logout of a digest leaves it. -/
def loggedOut (hash : Bytes) (t : Instant) (c : Session) : Session :=
  if c.tokenHash = hash then c.revoke reasonLogout t else c

/-- The store after the logout of a digest. -/
def afterLogout (st : MemoryStore) (hash : Bytes) (t : Instant) : MemoryStore :=
  { st with sessions := st.sessions.map fun _ c => loggedOut hash t c }

/-- Every session with the digest is revoked. -/
def Ended (st : MemoryStore) (hash : Bytes) : Prop :=
  ∀ id c, st.sessions.get? id = some c → c.tokenHash = hash → c.revoked = true

theorem onward_loggedOut (hash : Bytes) (t : Instant) (c : Session) :
    c.Onward (loggedOut hash t c) := by
  unfold loggedOut
  split_ifs
  · exact c.onward_revoke reasonLogout t
  · exact Session.Onward.refl c

/-! ### The logout of a digest -/

/-- To revoke the session of a digest is to log the digest out. -/
theorem Orderly.revoke_eq_afterLogout (h : st.Orderly) (hf : st.findByTokenHash hash = some c)
    (t : Instant) : st.revoke c.id reasonLogout t =
      (if c.revoked then .alreadyRevoked else .revoked, st.afterLogout hash t) := by
  obtain ⟨hstored, hhash⟩ := h.findByTokenHash_eq_some hf
  have hsessions : (st.sessions.modify c.id fun s => s.revoke reasonLogout t) =
      st.sessions.map fun _ s => loggedOut hash t s := by
    refine Table.map_congr fun id s hs => ?_
    have hs : st.sessions.get? id = some s := (Table.mem_entries h.distinct).mp hs
    have hiff : id = c.id ↔ s.tokenHash = hash := by
      constructor
      · rintro rfl
        rw [Option.some.inj (hs.symm.trans hstored), hhash]
      · intro hs'
        exact h.hash_unique hs hstored (hs'.trans hhash.symm)
    unfold loggedOut
    simp only [hiff]
  unfold revoke
  rw [hstored]
  dsimp only
  rw [hsessions]
  rfl

/-- After its logout the digest has ended. -/
theorem ended_afterLogout (st : MemoryStore) (hash : Bytes) (t : Instant) :
    (st.afterLogout hash t).Ended hash := by
  intro id c' hc' hhash
  unfold afterLogout at hc'
  rw [Table.get?_map, Option.map_eq_some_iff] at hc'
  obtain ⟨c, _, rfl⟩ := hc'
  rw [(onward_loggedOut hash t c).tokenHash_eq] at hhash
  rw [loggedOut, if_pos hhash]
  exact c.revoked_revoke reasonLogout t

/-! ### Digests that have ended -/

namespace Ended

/-- To log out once more leaves the store: the first revocation stands. -/
theorem afterLogout (h : st.Ended hash) (hst : st.Orderly) (t : Instant) :
    st.afterLogout hash t = st := by
  have hsessions : (st.sessions.map fun _ c => loggedOut hash t c) = st.sessions := by
    refine Table.map_eq_self fun id c hc => ?_
    unfold loggedOut
    split_ifs with hhash
    · have hc : st.sessions.get? id = some c := (Table.mem_entries hst.distinct).mp hc
      exact Session.revoke_of_revoked (h id c hc hhash) reasonLogout t
    · rfl
  unfold MemoryStore.afterLogout
  rw [hsessions]

end Ended

/-- Where no session has the digest it has ended. -/
theorem Orderly.ended_of_not_found (h : st.Orderly) (hf : st.findByTokenHash hash = none) :
    st.Ended hash := by
  intro id c hc hhash
  have hmem := (Table.mem_values h.distinct).mpr ⟨id, hc⟩
  exact absurd (decide_eq_true hhash) (List.find?_eq_none.mp hf c hmem)

namespace Ended

/-- No session of the digest is active. -/
theorem filter_findByTokenHash (h : st.Ended hash) (hst : st.Orderly) (t : Instant) :
    (st.findByTokenHash hash).filter (·.isActive t) = none := by
  rw [Option.filter_eq_none_iff]
  intro c hc hactive
  obtain ⟨hstored, hhash⟩ := hst.findByTokenHash_eq_some hc
  have hrevoked := h c.id c hstored hhash
  rw [(Session.isActive_iff.mp hactive).1] at hrevoked
  cases hrevoked

theorem map (h : st.Ended hash) {f : Uuid → Session → Session}
    (hf : ∀ k (c : Session), c.Onward (f k c)) :
    { st with sessions := st.sessions.map f }.Ended hash := by
  intro id c' hc' hhash
  dsimp only at hc'
  rw [Table.get?_map, Option.map_eq_some_iff] at hc'
  obtain ⟨c, hc, rfl⟩ := hc'
  rw [(hf id c).tokenHash_eq] at hhash
  exact ((hf id c).stands (h id c hc hhash)).1

/-- The digest stays ended, unless the call stores a session with it while there is none. -/
theorem after (h : st.Ended hash) (call : StoreCall)
    (hcall : ∀ r, call = .rotate r → r.session.tokenHash = hash →
      st.sessions.any (·.tokenHash = hash) = true) : (st.after call).Ended hash := by
  by_cases hrotate : ∃ r, call = .rotate r
  · obtain ⟨r, rfl⟩ := hrotate
    rcases st.after_rotate r with heq | ⟨hfree, _, heq⟩
    · rw [heq]
      exact h
    · rw [heq]
      intro id c hc hhash
      rw [get?_afterRotation] at hc
      split_ifs at hc with hid
      · -- The digest of the new session is free, so it is another one.
        cases hc
        have htaken := hcall r rfl hhash
        rw [← hhash, hfree] at htaken
        cases htaken
      · exact h.map (fun _ c => onward_rotated r c) id c (by rw [Table.get?_map]; exact hc) hhash
  · obtain ⟨f, hf, heq⟩ := st.after_other call fun r hr => hrotate ⟨r, hr⟩
    rw [heq]
    exact h.map hf

end Ended

end Gatehouse.MemoryStore
