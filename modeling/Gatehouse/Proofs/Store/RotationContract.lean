import Gatehouse.Proofs.Store.Faulty
import Gatehouse.Proofs.Store.Orderly

/-! # The contract of a rotation

A rotation that replaces a session is *lost* if that session is not active any more; it is *barred*
if the new session cannot stand beside what is stored; else the sessions that *yield* are revoked
and the new one is stored.  `rotate_contract` says that a rotation does one of these three, and in
each case what becomes of every session, for every store in which each session lies under its own id
and every request whose session id is not taken. -/

namespace Gatehouse

namespace MemoryStore

variable {st : MemoryStore} {r : Rotation}

/-- The session to be replaced is missing, revoked, or past its time. -/
def Lost (st : MemoryStore) (r : Rotation) : Prop :=
  ∃ id, r.replaces = some id ∧
    ∀ s, st.sessions.get? id = some s → s.revoked = true ∨ s.expiresAt < r.now

/-- A stored session has the new token digest, or it is one of the identity on the device of the new
session, is not revoked, lies outside the scope and is not the one to be replaced. -/
def Barred (st : MemoryStore) (r : Rotation) : Prop :=
  ∃ id s, st.sessions.get? id = some s ∧
    (s.tokenHash = r.session.tokenHash ∨
      s.userId = r.session.userId ∧ s.revoked = false ∧ s.deviceId = r.session.deviceId ∧
        s.deviceId ≠ r.scope.deviceId ∧ some id ≠ r.replaces)

/-- The session under the id is one of the identity, is not revoked, and is on the device of the
scope or is the one to be replaced. -/
def Yields (st : MemoryStore) (r : Rotation) (id : Uuid) : Prop :=
  ∃ s, st.sessions.get? id = some s ∧ s.userId = r.session.userId ∧ s.revoked = false ∧
    (s.deviceId = r.scope.deviceId ∨ some id = r.replaces)

/-! ### The guards -/

theorem lost_iff : st.Lost r ↔ st.replacedIsActive r = false := by
  unfold Lost replacedIsActive
  cases r.replaces with
  | none => simp
  | some id =>
      simp only [Option.some.injEq, exists_eq_left', Option.all_some]
      cases st.sessions.get? id with
      | none => simp
      | some s => simp [Session.isActive_eq_false_iff]

theorem barred_iff (hd : st.sessions.Distinct) (hk : st.sessions.Keyed Session.id) :
    st.Barred r ↔ st.sessions.any (·.tokenHash = r.session.tokenHash) = true ∨
      (st.sessions.any fun s => collides r s && !supersedes r s) = true := by
  rw [Table.any_iff hd, Table.any_iff hd]
  constructor
  · rintro ⟨id, s, hs, hhash | ⟨hu, hr, hdev, hscope, hreplaces⟩⟩
    · exact .inl ⟨id, s, hs, decide_eq_true hhash⟩
    · refine .inr ⟨id, s, hs, ?_⟩
      have hno : supersedes r s ≠ true := by
        rw [Ne, supersedes_iff, hk hs]
        rintro ⟨_, _, h | h⟩
        · exact hscope h
        · exact hreplaces h
      rw [collides_iff.mpr ⟨hu, hr, hdev⟩, Bool.eq_false_iff.mpr hno]
      rfl
  · rintro (⟨id, s, hs, hhash⟩ | ⟨id, s, hs, hc⟩)
    · exact ⟨id, s, hs, .inl (of_decide_eq_true hhash)⟩
    · rw [Bool.and_eq_true, Bool.not_eq_true', Bool.eq_false_iff, Ne, supersedes_iff, hk hs] at hc
      obtain ⟨hcollides, hno⟩ := hc
      obtain ⟨hu, hr, hdev⟩ := collides_iff.mp hcollides
      refine ⟨id, s, hs, .inr ⟨hu, hr, hdev, ?_, ?_⟩⟩
      · exact fun h => hno ⟨hu, hr, .inl h⟩
      · exact fun h => hno ⟨hu, hr, .inr h⟩

/-! ### What is revoked -/

theorem yields_iff {id : Uuid} {s : Session} (hk : st.sessions.Keyed Session.id)
    (hs : st.sessions.get? id = some s) : st.Yields r id ↔ supersedes r s = true := by
  rw [supersedes_iff, hk hs]
  constructor
  · rintro ⟨s', hs', h⟩
    cases hs.symm.trans hs'
    exact h
  · exact fun h => ⟨s, hs, h⟩

theorem mem_supersededIds (hd : st.sessions.Distinct) (hk : st.sessions.Keyed Session.id)
    {id : Uuid} : id ∈ st.supersededIds r ↔ st.Yields r id := by
  unfold supersededIds
  rw [List.mem_map]
  constructor
  · rintro ⟨s, hs, rfl⟩
    obtain ⟨hmem, hsup⟩ := List.mem_filter.mp hs
    obtain ⟨k, hget⟩ := (Table.mem_values hd).mp hmem
    rw [hk hget]
    exact (yields_iff hk hget).mpr hsup
  · intro hy
    have ⟨s, hs, _⟩ := hy
    have hmem : s ∈ st.sessions.values := (Table.mem_values hd).mpr ⟨_, hs⟩
    exact ⟨s, List.mem_filter.mpr ⟨hmem, (yields_iff hk hs).mp hy⟩, hk hs⟩

/-- Each session lies under its own id, so no id is named twice. -/
theorem nodup_supersededIds (hd : st.sessions.Distinct) (hk : st.sessions.Keyed Session.id) :
    (st.supersededIds r).Nodup := by
  have hids : st.sessions.values.map (·.id) = st.sessions.keys := by
    unfold Table.values Table.keys
    rw [List.map_map]
    refine List.map_congr_left fun e he => ?_
    exact hk ((Table.mem_entries hd).mp he)
  have hsub : (st.supersededIds r).Sublist (st.sessions.values.map (·.id)) :=
    List.filter_sublist.map _
  rw [hids] at hsub
  exact List.Nodup.sublist hsub hd

/-- A session that yields is revoked, with the reason and the time of the request. -/
theorem get?_afterRotation_of_yields (hk : st.sessions.Keyed Session.id)
    (hnew : st.sessions.get? r.session.id = none) {id : Uuid} (hy : st.Yields r id) :
    ∃ s, st.sessions.get? id = some s ∧ (st.afterRotation r).sessions.get? id = some
      { s with revoked := true, revokedReason := some r.reason, revokedAt := some r.now } := by
  have ⟨s, hs, _⟩ := hy
  have hsup := (yields_iff hk hs).mp hy
  have hne : r.session.id ≠ id := by
    rintro rfl
    cases hnew.symm.trans hs
  refine ⟨s, hs, ?_⟩
  rw [get?_afterRotation, if_neg hne, hs, Option.map_some, rotated, if_pos hsup,
    Session.revoke_of_not_revoked (supersedes_iff.mp hsup).2.1]

/-- What does not yield stays. -/
theorem get?_afterRotation_of_not_yields (hk : st.sessions.Keyed Session.id) {id : Uuid}
    (hy : ¬ st.Yields r id) (hne : id ≠ r.session.id) :
    (st.afterRotation r).sessions.get? id = st.sessions.get? id := by
  rw [get?_afterRotation, if_neg hne.symm]
  cases hs : st.sessions.get? id with
  | none => rfl
  | some s =>
      rw [Option.map_some, rotated, if_neg fun hsup => hy ((yields_iff hk hs).mpr hsup)]

/-! ### The contract -/

/-- **What a rotation does.**  It answers *superseded* if the session that it replaces is not active
any more, it fails if its session cannot stand beside what is stored, and the store is left as it is
in both cases.  Else it names, once each, the sessions that yield; these are revoked with its reason
and time and keep all else, its own session is stored as given, and whatever else lies in the store
stays. -/
theorem rotate_contract (hd : st.sessions.Distinct) (hk : st.sessions.Keyed Session.id)
    (hnew : st.sessions.get? r.session.id = none) :
    (st.Lost r → st.rotate r = .ok (.superseded, st)) ∧
    (¬ st.Lost r → st.Barred r → ∃ cause, st.rotate r = .error cause ∧
      FaultyStore.answer (.rotate r) { store := st } = (.error (.failed cause), { store := st })) ∧
    (¬ st.Lost r → ¬ st.Barred r → ∃ ids sessions,
      st.rotate r = .ok (.committed ids, { st with sessions }) ∧
      ids.Nodup ∧
      (∀ id, id ∈ ids ↔ st.Yields r id) ∧
      sessions.Distinct ∧
      sessions.get? r.session.id = some r.session ∧
      (∀ id ∈ ids, ∃ s, st.sessions.get? id = some s ∧ sessions.get? id = some
        { s with revoked := true, revokedReason := some r.reason, revokedAt := some r.now }) ∧
      ∀ id, id ∉ ids → id ≠ r.session.id → sessions.get? id = st.sessions.get? id) := by
  rw [lost_iff, barred_iff hd hk]
  have hfail : ∀ {cause}, st.rotate r = .error cause →
      FaultyStore.answer (.rotate r) { store := st } = (.error (.failed cause), { store := st }) :=
    fun h => FaultyStore.answer_refused rfl h
  rcases st.rotate_cases r with ⟨hlost, h⟩ | ⟨hlost, hhash, h⟩ | ⟨hlost, hhash, hdevice, h⟩ |
    ⟨hlost, hhash, hdevice, h⟩
  · exact ⟨fun _ => h, fun hno => absurd hlost hno, fun hno => absurd hlost hno⟩
  · rw [hlost, hhash]
    exact ⟨nofun, fun _ _ => ⟨_, h, hfail h⟩, fun _ hno => absurd (.inl rfl) hno⟩
  · rw [hlost, hdevice]
    exact ⟨nofun, fun _ _ => ⟨_, h, hfail h⟩, fun _ hno => absurd (.inr rfl) hno⟩
  · rw [hlost, hhash, hdevice]
    refine ⟨nofun, ?_, fun _ _ => ?_⟩
    · rintro _ (hbar | hbar) <;> cases hbar
    have hmem : ∀ id, id ∈ st.supersededIds r ↔ st.Yields r id := fun _ => mem_supersededIds hd hk
    refine ⟨_, _, h, nodup_supersededIds hd hk, hmem, (hd.map _).insert _ _, ?_, ?_, ?_⟩
    · exact (st.get?_afterRotation r _).trans (if_pos rfl)
    · exact fun id hid => get?_afterRotation_of_yields hk hnew ((hmem id).mp hid)
    · exact fun id hid => get?_afterRotation_of_not_yields hk (mt (hmem id).mpr hid)

end MemoryStore

namespace Sample

/-- A session of one account on a device, under the id of a number. -/
def held (n : Nat) (deviceId : String) : Session where
  id := ⟨BitVec.ofNat 128 n⟩
  userId := ⟨1⟩
  tokenHash := [n.toUInt8]
  flavor := .mobile
  issuedAt := .ofSeconds 0
  expiresAt := .ofSeconds 60
  lastUsed := .ofSeconds 0
  revoked := false
  revokedReason := none
  revokedAt := none
  deviceId := deviceId
  deviceName := "Device"
  platform := "ios"
  appVersion := some "1.0.0"
  userAgent := none
  ipAddress := none

/-- The account has a session on its phone and one on its tablet. -/
def twoDevices : MemoryStore := MemoryStore.empty.afterCalls
  [.rotate ⟨⟨"phone"⟩, "Login", held 7 "phone", .ofSeconds 0, none⟩,
    .rotate ⟨⟨"tablet"⟩, "Login", held 8 "tablet", .ofSeconds 0, none⟩]

/-- The session on the phone is renewed. -/
def renewPhone : Rotation := ⟨⟨"phone"⟩, "Rotated", held 9 "phone", .ofSeconds 5, some ⟨7⟩⟩

end Sample

namespace MemoryStore

/-- The renewal on the phone revokes the session there and leaves the one on the tablet. -/
theorem rotate_contract_phone : ∃ ids sessions,
    Sample.twoDevices.rotate Sample.renewPhone =
      .ok (.committed ids, { Sample.twoDevices with sessions }) ∧
    ⟨7⟩ ∈ ids ∧ ⟨8⟩ ∉ ids ∧
    sessions.get? ⟨8⟩ = some (Sample.held 8 "tablet") := by
  have h : Sample.twoDevices.Orderly := orderly_empty.afterCalls _
  have hk : Sample.twoDevices.sessions.Keyed Session.id := fun _ _ => h.own_id
  obtain ⟨_, _, hcommits⟩ := rotate_contract (r := Sample.renewPhone) h.distinct hk rfl
  obtain ⟨ids, sessions, hrotate, _, hids, _, _, _, hrest⟩ := hcommits
    (by rw [lost_iff]; decide) (by rw [barred_iff h.distinct hk]; decide)
  have htablet : ⟨8⟩ ∉ ids := by
    rw [hids, yields_iff hk rfl]
    decide
  refine ⟨ids, sessions, hrotate, ?_, htablet, hrest _ htablet (by decide)⟩
  rw [hids, yields_iff hk rfl]
  decide

end MemoryStore

end Gatehouse
