import Gatehouse.Proofs.Store.Rotation

/-! # The store keeps its sessions in order

A store is *orderly* if each session lies under its own id, no token digest is stored twice, and an
identity has on each device at most one session that is not revoked.  The empty store is orderly,
and every store call keeps it so, whatever its arguments (`Orderly.after`): a rotation revokes or
refuses whatever would stand beside its session, and the other calls only move sessions onward.

Callers take turns at the store, so what any number of them do to it is a list of calls
(`MemoryStore.afterCalls`); `sessions_orderly` says what every such list leaves behind. -/

namespace Gatehouse.MemoryStore

variable {st : MemoryStore}

/-! ### Runs of store calls -/

/-- The store after a call; one that fails leaves it. -/
def after (st : MemoryStore) (call : StoreCall) : MemoryStore :=
  match st.answer call with
  | .ok (_, st') => st'
  | .error _ => st

/-- The store after calls in their order. -/
def afterCalls (st : MemoryStore) (calls : List StoreCall) : MemoryStore := calls.foldl after st

theorem after_of_answer {call : StoreCall} {reply : call.Reply} {st' : MemoryStore}
    (h : st.answer call = .ok (reply, st')) : st.after call = st' := by
  rw [after, h]

theorem after_of_failure {call : StoreCall} {cause : Cause} (h : st.answer call = .error cause) :
    st.after call = st := by
  rw [after, h]

/-- A rotation leaves the store or carries out all of it; the latter only if nothing collides. -/
theorem after_rotate (st : MemoryStore) (r : Rotation) :
    st.after (.rotate r) = st ∨
      st.sessions.any (·.tokenHash = r.session.tokenHash) = false ∧
        (st.sessions.any fun s => collides r s && !supersedes r s) = false ∧
        st.after (.rotate r) = st.afterRotation r := by
  have h := st.rotate_cases r
  rcases h with ⟨_, h⟩ | ⟨_, _, h⟩ | ⟨_, _, _, h⟩ | ⟨_, hhash, hdevice, h⟩
  · exact .inl (after_of_answer h)
  · exact .inl (after_of_failure h)
  · exact .inl (after_of_failure h)
  · exact .inr ⟨hhash, hdevice, after_of_answer h⟩

/-- The sessions after a call that is no rotation: a function was applied to each. -/
theorem after_other (st : MemoryStore) (call : StoreCall) (h : ∀ r, call ≠ .rotate r) :
    ∃ f : Uuid → Session → Session, (∀ k (s : Session), s.Onward (f k s)) ∧
      st.after call = { st with sessions := st.sessions.map f } := by
  have keep : ∃ f : Uuid → Session → Session, (∀ k (s : Session), s.Onward (f k s)) ∧
      st = { st with sessions := st.sessions.map f } := by
    refine ⟨fun _ s => s, fun _ s => Session.Onward.refl s, ?_⟩
    unfold Table.map
    simp
  cases call with
  | rotate r => exact absurd rfl (h r)
  | revoke id reason now =>
      cases hs : st.sessions.get? id with
      | none =>
          have hr : st.after (.revoke id reason now) = st := by
            simp only [after, answer, revoke, hs]
          rw [hr]
          exact keep
      | some s =>
          refine ⟨fun k s => if k = id then s.revoke reason now else s, ?_, ?_⟩
          · intro k s
            dsimp only
            split_ifs
            · exact s.onward_revoke reason now
            · exact Session.Onward.refl s
          · simp only [after, answer, revoke, hs, Table.modify]
  | revokeAll userId reason now =>
      refine ⟨fun _ s => if s.userId = userId && !s.revoked then s.revoke reason now else s, ?_, rfl⟩
      intro k s
      dsimp only
      split_ifs
      · exact s.onward_revoke reason now
      · exact Session.Onward.refl s
  | touch id now =>
      refine ⟨fun k s => if k = id then s.touch now else s, ?_, rfl⟩
      intro k s
      dsimp only
      split_ifs
      · exact s.onward_touch now
      · exact Session.Onward.refl s
  | findByTokenHash hash => exact keep
  | findSession id => exact keep
  | listActive userId now => exact keep
  | findByEmail email => exact keep
  | findIdentity id => exact keep
  | roleAssignments userId => exact keep
  | catalog => exact keep

/-! ### The invariant -/

/-- Sessions lie under their own ids, token digests are stored once, and an identity has on each
device at most one session that is not revoked. -/
structure Orderly (st : MemoryStore) : Prop where
  distinct : st.sessions.Distinct
  own_id : ∀ {k s}, st.sessions.get? k = some s → s.id = k
  hash_unique : ∀ {k k' s s'}, st.sessions.get? k = some s → st.sessions.get? k' = some s' →
    s.tokenHash = s'.tokenHash → k = k'
  device_unique : ∀ {k k' s s'}, st.sessions.get? k = some s → st.sessions.get? k' = some s' →
    s.revoked = false → s'.revoked = false → s.userId = s'.userId → s.deviceId = s'.deviceId → k = k'

theorem orderly_empty : empty.Orderly := by
  refine ⟨Table.distinct_empty, ?_, ?_, ?_⟩
  · intro k s h
    cases h
  · intro k k' s s' h
    cases h
  · intro k k' s s' h
    cases h

/-- Moving the sessions onward, each where it lies, keeps the order. -/
theorem Orderly.map (h : st.Orderly) {f : Uuid → Session → Session}
    (hf : ∀ k (s : Session), s.Onward (f k s)) :
    { st with sessions := st.sessions.map f }.Orderly := by
  have before : ∀ {k s'}, (st.sessions.map f).get? k = some s' →
      ∃ s, st.sessions.get? k = some s ∧ s.Onward s' := by
    intro k s' hs'
    rw [Table.get?_map, Option.map_eq_some_iff] at hs'
    obtain ⟨s, hs, rfl⟩ := hs'
    exact ⟨s, hs, hf k s⟩
  refine ⟨h.distinct.map f, ?_, ?_, ?_⟩
  · intro k s' hs'
    obtain ⟨s, hs, ho⟩ := before hs'
    rw [ho.id_eq, h.own_id hs]
  · intro k k' s₁ s₂ hs₁ hs₂ he
    obtain ⟨s, hs, ho⟩ := before hs₁
    obtain ⟨s', hs', ho'⟩ := before hs₂
    rw [ho.tokenHash_eq, ho'.tokenHash_eq] at he
    exact h.hash_unique hs hs' he
  · intro k k' s₁ s₂ hs₁ hs₂ hr hr' hu hd
    obtain ⟨s, hs, ho⟩ := before hs₁
    obtain ⟨s', hs', ho'⟩ := before hs₂
    rw [ho.userId_eq, ho'.userId_eq] at hu
    rw [ho.deviceId_eq, ho'.deviceId_eq] at hd
    exact h.device_unique hs hs' (ho.not_revoked hr) (ho'.not_revoked hr') hu hd

/-- A session that keeps a distance from the others may be stored, over another or not. -/
theorem Orderly.insert (h : st.Orderly) (s : Session)
    (hash : ∀ k v, st.sessions.get? k = some v → v.tokenHash ≠ s.tokenHash)
    (device : ∀ k v, st.sessions.get? k = some v → v.revoked = false → v.userId = s.userId →
      v.deviceId ≠ s.deviceId) :
    { st with sessions := st.sessions.insert s.id s }.Orderly := by
  have split : ∀ {k v}, (st.sessions.insert s.id s).get? k = some v →
      s.id = k ∧ s = v ∨ st.sessions.get? k = some v := by
    intro k v hv
    rw [Table.get?_insert] at hv
    by_cases hk : s.id = k
    · rw [if_pos hk] at hv
      exact .inl ⟨hk, Option.some.inj hv⟩
    · rw [if_neg hk] at hv
      exact .inr hv
  refine ⟨h.distinct.insert s.id s, ?_, ?_, ?_⟩
  · intro k v hv
    rcases split hv with ⟨rfl, rfl⟩ | hv
    · rfl
    · exact h.own_id hv
  · intro k k' v v' hv hv' he
    rcases split hv with ⟨rfl, rfl⟩ | hv <;> rcases split hv' with ⟨rfl, rfl⟩ | hv'
    · rfl
    · exact absurd he.symm (hash _ _ hv')
    · exact absurd he (hash _ _ hv)
    · exact h.hash_unique hv hv' he
  · intro k k' v v' hv hv' hr hr' hu hd
    rcases split hv with ⟨rfl, rfl⟩ | hv <;> rcases split hv' with ⟨rfl, rfl⟩ | hv'
    · rfl
    · exact absurd hd.symm (device _ _ hv' hr' hu.symm)
    · exact absurd hd (device _ _ hv hr hu)
    · exact h.device_unique hv hv' hr hr' hu hd

/-- A rotation that is carried out keeps the order. -/
theorem Orderly.afterRotation (h : st.Orderly) {r : Rotation}
    (hhash : st.sessions.any (·.tokenHash = r.session.tokenHash) = false)
    (hdevice : (st.sessions.any fun s => collides r s && !supersedes r s) = false) :
    (st.afterRotation r).Orderly := by
  refine (h.map fun _ s => onward_rotated r s).insert r.session ?_ ?_
  · intro k v hv he
    rw [Table.get?_map, Option.map_eq_some_iff] at hv
    obtain ⟨s, hs, rfl⟩ := hv
    rw [(onward_rotated r s).tokenHash_eq] at he
    have hany := (Table.any_iff h.distinct (p := (·.tokenHash = r.session.tokenHash))).mpr
      ⟨k, s, hs, decide_eq_true he⟩
    rw [hhash] at hany
    cases hany
  · intro k v hv hr hu hd
    rw [Table.get?_map, Option.map_eq_some_iff] at hv
    obtain ⟨s, hs, rfl⟩ := hv
    rw [(onward_rotated r s).userId_eq] at hu
    rw [(onward_rotated r s).deviceId_eq] at hd
    have hc : collides r s = true :=
      collides_iff.mpr ⟨hu, (onward_rotated r s).not_revoked hr, hd⟩
    have hany := (Table.any_iff h.distinct (p := fun s => collides r s && !supersedes r s)).mpr
      ⟨k, s, hs, by rw [hc, not_supersedes_of_rotated hr]; rfl⟩
    rw [hdevice] at hany
    cases hany

/-- Every store call keeps the order. -/
theorem Orderly.after (h : st.Orderly) (call : StoreCall) : (st.after call).Orderly := by
  by_cases hr : ∃ r, call = .rotate r
  · obtain ⟨r, rfl⟩ := hr
    rcases st.after_rotate r with heq | ⟨hhash, hdevice, heq⟩
    · rw [heq]
      exact h
    · rw [heq]
      exact h.afterRotation hhash hdevice
  · obtain ⟨f, hf, heq⟩ := st.after_other call fun r hc => hr ⟨r, hc⟩
    rw [heq]
    exact h.map hf

theorem Orderly.afterCalls (h : st.Orderly) (calls : List StoreCall) :
    (st.afterCalls calls).Orderly := by
  induction calls generalizing st with
  | nil => exact h
  | cons call calls ih => exact ih (h.after call)

/-! ### What the order means for searches -/

theorem Orderly.eq_of_tokenHash_eq (h : st.Orderly) {s s' : Session} (hs : s ∈ st.sessions.values)
    (hs' : s' ∈ st.sessions.values) (he : s.tokenHash = s'.tokenHash) : s = s' := by
  obtain ⟨k, hk⟩ := (Table.mem_values h.distinct).mp hs
  obtain ⟨k', hk'⟩ := (Table.mem_values h.distinct).mp hs'
  have hkk := h.hash_unique hk hk' he
  rw [hkk, hk'] at hk
  exact (Option.some.inj hk).symm

/-- The session of a token digest is the one that has it, in whatever order they are listed. -/
theorem Orderly.find?_tokenHash (h : st.Orderly) {order : List Session}
    (hp : order.Perm st.sessions.values) (hash : Bytes) :
    order.find? (·.tokenHash = hash) = st.findByTokenHash hash := by
  refine Table.find?_eq_of_perm hp fun s hs s' hs' he he' => ?_
  rw [decide_eq_true_eq] at he he'
  exact h.eq_of_tokenHash_eq hs hs' (he.trans he'.symm)

/-- The session that a digest finds lies under its id and has the digest. -/
theorem Orderly.findByTokenHash_eq_some (h : st.Orderly) {hash : Bytes} {c : Session}
    (hf : st.findByTokenHash hash = some c) :
    st.sessions.get? c.id = some c ∧ c.tokenHash = hash := by
  unfold findByTokenHash Table.find? at hf
  obtain ⟨k, hk⟩ := (Table.mem_values h.distinct).mp (List.mem_of_find?_eq_some hf)
  refine ⟨?_, by simpa using List.find?_some hf⟩
  rw [h.own_id hk]
  exact hk

/-- A session that is stored is found by its digest. -/
theorem Orderly.findByTokenHash_of_stored (h : st.Orderly) {id : Uuid} {c : Session}
    (hc : st.sessions.get? id = some c) : st.findByTokenHash c.tokenHash = some c := by
  have hmem := (Table.mem_values h.distinct).mpr ⟨id, hc⟩
  cases hfound : st.findByTokenHash c.tokenHash with
  | none => exact absurd (decide_eq_true rfl) (List.find?_eq_none.mp hfound c hmem)
  | some found =>
      obtain ⟨hstored, hhash⟩ := h.findByTokenHash_eq_some hfound
      have hmem' := (Table.mem_values h.distinct).mpr ⟨_, hstored⟩
      rw [h.eq_of_tokenHash_eq hmem' hmem hhash]

theorem eq_singleton_of_mem {α : Type} {a : α} {l : List α} (hl : l.length ≤ 1) (ha : a ∈ l) :
    l = [a] := by
  match l, ha with
  | [b], ha => rw [List.mem_singleton.mp ha]
  | _ :: _ :: _, _ => exact absurd hl (by simp)

theorem mem_listActive {userId : Uuid} {now : Instant} {s : Session} :
    s ∈ st.listActive userId now ↔
      s ∈ st.sessions.values ∧ s.userId = userId ∧ s.isActive now = true := by
  rw [listActive, (List.mergeSort_perm _ _).mem_iff, List.mem_filter, Bool.and_eq_true,
    decide_eq_true_eq]

/-- At most one active session is listed for a device. -/
theorem Orderly.length_filter_listActive_le_one (h : st.Orderly) (userId : Uuid) (now : Instant)
    (device : String) :
    ((st.listActive userId now).filter (·.deviceId == device)).length ≤ 1 := by
  have hperm := (List.mergeSort_perm
    (st.sessions.values.filter fun t => t.userId = userId && t.isActive now)
    (fun a b => decide (b.lastUsed ≤ a.lastUsed))).filter (·.deviceId == device)
  rw [listActive, hperm.length_eq, List.filter_filter]
  refine Table.length_filter_values_le_one h.distinct fun k k' t t' ht ht' hp hp' => ?_
  simp only [Session.isActive, Bool.and_eq_true, beq_iff_eq, decide_eq_true_eq,
    Bool.not_eq_true'] at hp hp'
  obtain ⟨hd, hu, hr, _⟩ := hp
  obtain ⟨hd', hu', hr', _⟩ := hp'
  exact h.device_unique ht ht' hr hr' (hu.trans hu'.symm) (hd.trans hd'.symm)

/-- An active session is the only one that is listed for its device. -/
theorem Orderly.filter_listActive (h : st.Orderly) {s : Session} {now : Instant}
    (hs : st.sessions.get? s.id = some s) (hactive : s.isActive now = true) :
    (st.listActive s.userId now).filter (·.deviceId == s.deviceId) = [s] := by
  refine eq_singleton_of_mem (h.length_filter_listActive_le_one _ _ _) (List.mem_filter.mpr ?_)
  have hmem := (Table.mem_values h.distinct).mpr ⟨s.id, hs⟩
  exact ⟨mem_listActive.mpr ⟨hmem, rfl, hactive⟩, beq_self_eq_true _⟩

/-- The session that is found for a device among those that are listed. -/
theorem Orderly.find?_listActive_eq_some (h : st.Orderly) {s : Session} {userId : Uuid}
    {now : Instant} {device : String}
    (hfound : (st.listActive userId now).find? (·.deviceId == device) = some s) :
    st.sessions.get? s.id = some s ∧ s.userId = userId ∧ s.deviceId = device ∧
      s.isActive now = true := by
  obtain ⟨hmem, huser, hactive⟩ := mem_listActive.mp (List.mem_of_find?_eq_some hfound)
  obtain ⟨k, hk⟩ := (Table.mem_values h.distinct).mp hmem
  refine ⟨?_, huser, by simpa using List.find?_some hfound, hactive⟩
  rw [h.own_id hk]
  exact hk

/-- **Sessions stay in order.**  Whatever store calls are made on the empty store, by whomever, with
whatever arguments and in whatever order: each session lies under its own id, each id and each token
digest is stored once, an identity has on each device at most one session that is not revoked, and
the session of a digest does not depend on the order in which the store lists its sessions. -/
theorem sessions_orderly (calls : List StoreCall) :
    let st := empty.afterCalls calls
    (∀ e ∈ st.sessions.entries, e.2.id = e.1) ∧
    st.sessions.keys.Nodup ∧
    (∀ hash : Bytes, (st.sessions.values.filter (·.tokenHash = hash)).length ≤ 1) ∧
    (∀ (userId : Uuid) (deviceId : String), (st.sessions.values.filter fun s =>
      s.userId = userId && s.deviceId = deviceId && !s.revoked).length ≤ 1) ∧
    ∀ (hash : Bytes) (order : List Session), order.Perm st.sessions.values →
      order.find? (·.tokenHash = hash) = st.findByTokenHash hash := by
  intro st
  have h : st.Orderly := orderly_empty.afterCalls calls
  refine ⟨?_, h.distinct, ?_, ?_, fun hash order hp => h.find?_tokenHash hp hash⟩
  · rintro ⟨k, s⟩ he
    exact h.own_id ((Table.mem_entries h.distinct).mp he)
  · intro hash
    refine Table.length_filter_values_le_one h.distinct fun k k' s s' hs hs' he he' => ?_
    rw [decide_eq_true_eq] at he he'
    exact h.hash_unique hs hs' (he.trans he'.symm)
  · intro userId deviceId
    refine Table.length_filter_values_le_one h.distinct fun k k' s s' hs hs' he he' => ?_
    simp only [Bool.and_eq_true, decide_eq_true_eq, Bool.not_eq_true'] at he he'
    obtain ⟨⟨hu, hd⟩, hr⟩ := he
    obtain ⟨⟨hu', hd'⟩, hr'⟩ := he'
    exact h.device_unique hs hs' hr hr' (hu.trans hu'.symm) (hd.trans hd'.symm)

end Gatehouse.MemoryStore
