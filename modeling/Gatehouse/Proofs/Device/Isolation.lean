import Gatehouse.Proofs.Concurrency.System
import Gatehouse.Proofs.Service.Opening

/-! # Operations leave other devices alone

`session.On u d` says that a session belongs to the identity `u` and the device `d`, and
`st.SameOn u d st'` that two stores hold the same sessions of that kind.  An operation *concerns* an
identity on a device if what it names, or what it finds in the store by what it names, is there
(`Operation.Concerns`).  If it does not, it leaves every session of the identity on the device as it
is (`Operation.sameOn`).  An operation that is carried out for one identity concerns no other, and
no other device unless it is meant for all of them (`Operation.isolated`).

What an operation leaves alone it leaves alone however the clock goes on while it runs
(`Service.Leaves`).  Most store calls apply a function to each session (`sameOn_map`).  A rotation
does that too and adds its session.  The rotations of logins and refreshes stay on one device
(`OneDevice`): their scope is the device of the new session, and so is the session that is replaced.
On that device they revoke whatever is not revoked (`rotated_of_on`), and elsewhere they change
nothing (`OneDevice.rotated_of_not_on`). -/

namespace Gatehouse

open Service

/-! ### Sessions on a device -/

/-- The session belongs to an identity and a device. -/
def Session.On (s : Session) (u : Uuid) (d : String) : Prop := s.userId = u ∧ s.deviceId = d

theorem Session.Onward.on_iff {s s' : Session} (h : s.Onward s') {u : Uuid} {d : String} :
    s'.On u d ↔ s.On u d := by
  unfold Session.On
  rw [h.userId_eq, h.deviceId_eq]

namespace MemoryStore

variable {st st' : MemoryStore} {u : Uuid} {d : String}

/-- The stores hold the same sessions of an identity on a device. -/
def SameOn (st : MemoryStore) (u : Uuid) (d : String) (st' : MemoryStore) : Prop :=
  ∀ id session, session.On u d →
    (st'.sessions.get? id = some session ↔ st.sessions.get? id = some session)

theorem SameOn.refl (st : MemoryStore) (u : Uuid) (d : String) : st.SameOn u d st :=
  fun _ _ _ => Iff.rfl

/-- A function applied to each session leaves the device alone if it leaves the sessions on it. -/
theorem sameOn_map {f : Uuid → Session → Session} (honward : ∀ k (s : Session), s.Onward (f k s))
    (hsame : ∀ k s, st.sessions.get? k = some s → s.On u d → f k s = s) :
    st.SameOn u d { st with sessions := st.sessions.map f } := by
  intro id session hon
  change (st.sessions.map f).get? id = some session ↔ _
  rw [Table.get?_map, Option.map_eq_some_iff]
  constructor
  · rintro ⟨s, hs, rfl⟩
    rw [(honward id s).on_iff] at hon
    rw [hsame id s hs hon]
    exact hs
  · intro hs
    exact ⟨session, hs, hsame id session hs hon⟩

/-- A change of one session leaves the device alone if the session is not on it. -/
theorem sameOn_modify {id : Uuid} {f : Session → Session} (honward : ∀ s : Session, s.Onward (f s))
    (hother : ∀ s, st.sessions.get? id = some s → ¬ s.On u d) :
    st.SameOn u d { st with sessions := st.sessions.modify id f } := by
  refine sameOn_map (fun k s => ?_) fun k s hs hon => ?_
  · split_ifs
    · exact honward s
    · exact Session.Onward.refl s
  · refine if_neg ?_
    rintro rfl
    exact hother s hs hon

/-- A session that is added elsewhere leaves the device alone. -/
theorem SameOn.insert (h : st.SameOn u d st') {new : Session}
    (hfree : st'.sessions.get? new.id = none) (hother : ¬ new.On u d) :
    st.SameOn u d { st' with sessions := st'.sessions.insert new.id new } := by
  intro id session hon
  rw [← h id session hon]
  change (st'.sessions.insert new.id new).get? id = some session ↔ _
  rw [Table.get?_insert]
  by_cases hid : new.id = id
  · rw [if_pos hid, ← hid, hfree]
    constructor
    · intro hs
      cases hs
      exact absurd hon hother
    · intro hs
      cases hs
  · rw [if_neg hid]

/-! ### Rotations on one device -/

/-- The rotation stays on the device of its session, which is not revoked: the scope covers that
device, and what is replaced is on it. -/
structure OneDevice (st : MemoryStore) (r : Rotation) : Prop where
  unrevoked : r.session.revoked = false
  scope : r.scope = ⟨r.session.deviceId⟩
  replaced : ∀ id, r.replaces = some id →
    ∃ old, st.sessions.get? id = some old ∧ old.On r.session.userId r.session.deviceId

variable {r : Rotation}

/-- On the device of the rotation whatever is not revoked is revoked. -/
theorem rotated_of_on (hscope : r.scope = ⟨r.session.deviceId⟩) {t : Session}
    (ht : t.On r.session.userId r.session.deviceId) : rotated r t = t.revoke r.reason r.now := by
  obtain ⟨huser, hdevice⟩ := ht
  unfold rotated
  cases hr : t.revoked with
  | false =>
      have hs : supersedes r t = true := by
        rw [supersedes_iff, hscope]
        exact ⟨huser, hr, .inl hdevice⟩
      rw [if_pos hs]
  | true =>
      have hs : ¬ supersedes r t = true := by
        rw [supersedes_iff, hr]
        rintro ⟨_, h, _⟩
        cases h
      rw [if_neg hs, Session.revoke_of_revoked hr]

/-- Elsewhere the rotation changes nothing. -/
theorem OneDevice.rotated_of_not_on (h : st.OneDevice r) (hst : st.Orderly) {k : Uuid} {t : Session}
    (hstored : st.sessions.get? k = some t) (ht : ¬ t.On r.session.userId r.session.deviceId) :
    rotated r t = t := by
  have hs : ¬ supersedes r t = true := by
    rw [supersedes_iff, h.scope]
    rintro ⟨huser, _, hdevice | hid⟩
    · exact ht ⟨huser, hdevice⟩
    · obtain ⟨old, hold, hon⟩ := h.replaced t.id hid.symm
      rw [hst.own_id hstored, hstored] at hold
      cases hold
      exact ht hon
  unfold rotated
  rw [if_neg hs]

theorem OneDevice.sameOn (h : st.OneDevice r) (hst : st.Orderly)
    (hfree : st.sessions.get? r.session.id = none) (hother : ¬ r.session.On u d) :
    st.SameOn u d (st.afterRotation r) := by
  have hmapped : st.SameOn u d { st with sessions := st.sessions.map fun _ s => rotated r s } := by
    refine sameOn_map (fun _ s => onward_rotated r s) fun k s hs hon => ?_
    refine h.rotated_of_not_on hst hs fun hon' => hother ?_
    obtain ⟨huser, hdevice⟩ := hon
    exact ⟨hon'.1.symm.trans huser, hon'.2.symm.trans hdevice⟩
  refine hmapped.insert ?_ hother
  change (st.sessions.map fun _ s => rotated r s).get? _ = none
  rw [Table.get?_map, hfree]
  rfl

end MemoryStore

/-! ### What services leave alone -/

variable {w w₁ w' : World FaultyStore} {u : Uuid} {d : String}

/-- The sessions of an identity on a device are those of an earlier world. -/
def World.SameOn (w : World FaultyStore) (u : Uuid) (d : String) (w' : World FaultyStore) : Prop :=
  w.stored.store.SameOn u d w'.stored.store

namespace World.SameOn

theorem refl (w : World FaultyStore) (u : Uuid) (d : String) : w.SameOn u d w :=
  MemoryStore.SameOn.refl w.stored.store u d

theorem trans (h : w.SameOn u d w₁) (h' : w₁.SameOn u d w') : w.SameOn u d w' :=
  fun id session hon => (h' id session hon).trans (h id session hon)

theorem of_elapsed (h : w.Elapsed w') : w.SameOn u d w' := by
  unfold SameOn
  rw [h.stored_eq]
  exact MemoryStore.SameOn.refl _ u d

end World.SameOn

namespace Service

variable {α β : Type} {p : Service α} {f : α → Service β}

/-- However the clock goes on, the service leaves the sessions of the identity on the device. -/
def Leaves (w : World FaultyStore) (u : Uuid) (d : String) (p : Service α) : Prop :=
  ∀ result w', p.run.Elapses FaultyStore.storage w result w' → w.SameOn u d w'

namespace Leaves

/-- Calls that leave the device alone do so together. -/
theorem of_within {allowed : Backend.Op → Prop} {wanted : α → Prop} (hp : p.Within allowed wanted)
    (hcall : ∀ op (w : World FaultyStore), allowed op →
      w.SameOn u d (World.handler FaultyStore.storage op w).2) : Leaves w u d p := by
  intro result w' hrun
  have hmeanwhile := (Program.Within.meanwhile hp (fun _ op hop => hop) hrun).1
  refine hmeanwhile.keeps (P := w.SameOn u d) (fun hstep hsame => ?_) (.refl w u d)
  cases hstep with
  | tick | trouble => exact hsame
  | change c =>
      refine hsame.trans fun id session _ => ?_
      rw [(MemoryStore.afterChange_edits _ c).sessions]
  | call hop => exact hsame.trans (hcall _ _ hop)

theorem of_reads {wanted : α → Prop} (hp : p.Within Backend.Op.Reads wanted) : Leaves w u d p :=
  fun _ _ hrun => .of_elapsed (Program.Within.elapsed hp hrun).1

theorem pure (a : α) : Leaves w u d (pure a) := fun _ _ hrun => .of_elapsed (elapses_pure hrun).2

theorem bind (hp : Leaves w u d p)
    (hf : ∀ a w₁, p.run.Elapses FaultyStore.storage w (.ok a) w₁ → Leaves w₁ u d (f a)) :
    Leaves w u d (p >>= f) := by
  intro result w' hrun
  rcases elapses_bind hrun with ⟨stop, _, hstop⟩ | ⟨a, w₁, hfirst, hrest⟩
  · exact hp _ _ hstop
  · exact (hp _ _ hfirst).trans (hf a w₁ hfirst _ _ hrest)

/-- A chain that begins with a reading of the clock leaves alone what its rest does. -/
theorem bind_now {f : Instant → Service β} (hf : ∀ t w₁, w.Elapsed w₁ → Leaves w₁ u d (f t)) :
    Leaves w u d (now >>= f) := by
  intro result w' hrun
  obtain ⟨t, w₁, _, _, hbefore, hrest⟩ := elapses_bind_now hrun
  exact (World.SameOn.of_elapsed hbefore).trans (hf t w₁ hbefore _ _ hrest)

/-- A chain that begins with a call that only reads leaves alone what its rest does. -/
theorem bind_read {call : StoreCall} {context : Option String} {f : call.Reply → Service β}
    (hc : call.writes = false)
    (hf : ∀ reply w₁, w.stored.store.answer call = .ok (reply, w.stored.store) → w.Elapsed w₁ →
      Leaves w₁ u d (f reply)) : Leaves w u d (store call context >>= f) := by
  intro result w' hrun
  have hreads : (store call context).Within Backend.Op.Reads AnyValue := Within.store call hc context
  rcases elapses_bind hrun with ⟨stop, _, hstop⟩ | ⟨reply, w₁, hread, hrest⟩
  · exact .of_elapsed (Program.Within.elapsed hreads hstop).1
  · have helapsed := (Program.Within.elapsed hreads hread).1
    obtain ⟨st, hanswer, _⟩ := elapses_store_ok hread
    rw [MemoryStore.answer_of_read hc hanswer] at hanswer
    exact (World.SameOn.of_elapsed helapsed).trans (hf reply w₁ hanswer helapsed _ _ hrest)

/-- A store call leaves alone what the store after it holds unchanged. -/
theorem store {call : StoreCall} {context : Option String}
    (h : w.stored.store.SameOn u d (w.stored.store.after call)) :
    Leaves w u d (store call context) := by
  intro result w' hrun
  have hafter := World.SameOn.of_elapsed (u := u) (d := d) (elapses_store hrun).2
  suffices hcall : w.stored.store.SameOn u d (FaultyStore.answer call w.stored).2.store from
    fun id session hon => (hafter id session hon).trans (hcall id session hon)
  rcases FaultyStore.answer_store call w.stored with heq | heq
  · rw [heq]
    exact MemoryStore.SameOn.refl _ u d
  · rw [heq]
    exact h

theorem withDeadline {context : String} (h : Leaves w u d p) :
    Leaves w u d (withDeadline context p) := by
  intro result w' hrun
  obtain ⟨first, hfirst, _⟩ := elapses_withDeadline hrun
  exact h first w' hfirst

/-- An operation does what its service does and tells the end of it. -/
theorem told {f : α → Operation.Reply} (h : Leaves w u d p) :
    Leaves w u d (p >>= fun a => Pure.pure (f a)) :=
  h.bind fun a _ _ => pure (f a)

end Leaves

end Service

namespace Sessions

theorem leaves_revoke {id : Uuid} (reason : String)
    (h : ∀ t, w.sessions.get? id = some t → ¬ t.On u d) : Leaves w u d (revoke id reason) := by
  unfold revoke
  refine Leaves.bind_now fun now w₁ hbefore => ?_
  rw [World.sessions, ← hbefore.stored_eq] at h
  refine (Leaves.store ?_).bind fun reply w₂ _ => ?_
  · cases hs : w₁.stored.store.sessions.get? id with
    | none =>
        have hafter : w₁.stored.store.after (.revoke id reason now) = w₁.stored.store := by
          simp only [MemoryStore.after, MemoryStore.answer, MemoryStore.revoke, hs]
        rw [hafter]
        exact MemoryStore.SameOn.refl _ u d
    | some t =>
        have hafter : w₁.stored.store.after (.revoke id reason now) =
            { w₁.stored.store with
              sessions := w₁.stored.store.sessions.modify id fun s => s.revoke reason now } := by
          simp only [MemoryStore.after, MemoryStore.answer, MemoryStore.revoke, hs]
        rw [hafter]
        exact MemoryStore.sameOn_modify (fun s => s.onward_revoke reason now) h
  · cases reply with
    | revoked => exact Leaves.pure ()
    | alreadyRevoked => exact Leaves.pure ()
    | notFound => exact fun _ _ hrun => .of_elapsed (elapses_throw hrun).2

theorem leaves_revokeAll {userId : Uuid} (reason : String) (h : userId ≠ u) :
    Leaves w u d (revokeAll userId reason) := by
  unfold revokeAll
  refine Leaves.bind_now fun now w₁ _ => Leaves.store ?_
  refine MemoryStore.sameOn_map (fun k s => ?_) fun k s hs hon => if_neg ?_
  · split_ifs
    · exact s.onward_revoke reason now
    · exact Session.Onward.refl s
  · rw [Bool.and_eq_true, decide_eq_true_eq]
    rintro ⟨huser, _⟩
    exact h (huser.symm.trans hon.1)

theorem leaves_touch {id : Uuid} (h : ∀ t, w.sessions.get? id = some t → ¬ t.On u d) :
    Leaves w u d (touch id) := by
  unfold touch
  refine Leaves.bind_now fun now w₁ hbefore => Leaves.store ?_
  rw [World.sessions, ← hbefore.stored_eq] at h
  exact MemoryStore.sameOn_modify (fun s => s.onward_touch now) h

/-- Only the sessions on the device that asks are touched. -/
theorem leaves_touchDevice (hst : w.stored.store.Orderly) {userId : Uuid} {deviceId : String}
    (h : ¬ (userId = u ∧ deviceId = d)) : Leaves w u d (touchDevice userId deviceId) := by
  unfold touchDevice
  refine Leaves.bind_now fun now w₁ hbefore => ?_
  rw [← hbefore.stored_eq] at hst
  refine Leaves.bind_read rfl fun sessions w₂ hanswer hlisted => ?_
  cases hanswer
  cases hfound : (w₁.stored.store.listActive userId now).find? (·.deviceId == deviceId) with
  | none => exact Leaves.pure false
  | some session =>
      refine (leaves_touch fun t ht hon => h ?_).bind fun _ _ _ => Leaves.pure true
      -- What is listed is stored, so the session that is touched is the one that was found.
      rw [World.sessions, hlisted.stored_eq] at ht
      obtain ⟨hstored, huser, hdevice, _⟩ := hst.find?_listActive_eq_some hfound
      have hsame : t = session := Option.some.inj (ht.symm.trans hstored)
      rw [hsame] at hon
      exact ⟨huser.symm.trans hon.1, hdevice.symm.trans hon.2⟩

end Sessions

namespace LoginService

variable {s : LoginService} {fresh : Fresh} {pending : PendingSession} {st : MemoryStore}
  {now : Instant}

/-- What is prepared for a login opens a session of the identity on the device of the client. -/
theorem oneDevice_ofLogin {userId : Uuid} {client : ClientInfo}
    (h : PendingSession.ofLogin s.lifetimes fresh.session now userId client = some pending)
    (t : Instant) :
    st.OneDevice (pending.rotation t) ∧ pending.session.id = fresh.session.id ∧
      pending.reason = client.flavor.loginReason ∧ pending.session.On userId client.deviceId := by
  obtain ⟨_, hid, huser, _, _, _, _, hrevoked, hdevice, _, _, _, hscope, hreason, hreplaces⟩ :=
    PendingSession.ofLogin_eq_some h
  rw [← hdevice] at hscope
  refine ⟨⟨hrevoked, hscope, fun id hold => ?_⟩, hid, hreason, huser, hdevice⟩
  have hnone : pending.replaces = some id := hold
  rw [hreplaces] at hnone
  cases hnone

/-- What is prepared for a refresh opens a session where the one is that it renews. -/
theorem oneDevice_ofRefresh {old : Session} (hstored : st.sessions.get? old.id = some old)
    (h : PendingSession.ofRefresh s.lifetimes fresh.session now old = some pending) (t : Instant) :
    st.OneDevice (pending.rotation t) ∧ pending.session.id = fresh.session.id ∧
      pending.reason = reasonRotated ∧ pending.session.On old.userId old.deviceId := by
  obtain ⟨expiresAt, _, hsession, _, hscope, hreason, hreplaces⟩ :=
    PendingSession.ofRefresh_eq_some h
  have huser : pending.session.userId = old.userId := by rw [hsession]
  have hdevice : pending.session.deviceId = old.deviceId := by rw [hsession]
  rw [← hdevice] at hscope
  refine ⟨⟨by rw [PendingSession.rotation, hsession], hscope,
    fun id hid => ⟨old, ?_, huser.symm, hdevice.symm⟩⟩, by rw [hsession], hreason, huser, hdevice⟩
  have hid' : some old.id = some id := hreplaces.symm.trans hid
  cases hid'
  exact hstored

/-- A login leaves alone whom its address does not find, and where its client is not. -/
theorem leaves_login (s : LoginService) {request : LoginRequest} {transport : Transport}
    (hst : w.stored.store.Orderly) (hfree : w.sessions.get? fresh.session.id = none)
    (h : ∀ identity, w.stored.store.findByEmail (Email.normalize request.email) = some identity →
      ¬ (identity.id = u ∧ (Client.classify request.hints transport).deviceId = d)) :
    Leaves w u d (s.login fresh request transport) := by
  intro result w' hrun
  rcases login_elapses hrun with ⟨_, hend⟩ | ⟨identity, pending, now, t, hfound, hpending, hcommits, _⟩
  · exact .of_elapsed hend
  · obtain ⟨hdevice, hid, _, huser, hclient⟩ := oneDevice_ofLogin hpending t
    unfold World.SameOn
    rw [hcommits.store_eq]
    refine hdevice.sameOn hst ?_ fun hon => h identity hfound ?_
    · change w.sessions.get? pending.session.id = none
      rw [hid]
      exact hfree
    · exact ⟨huser.symm.trans hon.1, hclient.symm.trans hon.2⟩

/-- A refresh leaves alone where the session is not that is active behind its token. -/
theorem leaves_refresh (s : LoginService) {token : String} (hst : w.stored.store.Orderly)
    (hfree : w.sessions.get? fresh.session.id = none)
    (h : ∀ old, w.stored.store.activeByToken token w.now = some old → ¬ old.On u d) :
    Leaves w u d (s.refresh fresh token) := by
  intro result w' hrun
  rcases refresh_elapses hrun with ⟨_, hend⟩ | ⟨old, pending, now, t, hactive, hpending, hcommits, _⟩
  · exact .of_elapsed hend
  · have hstored := (hst.activeByToken_eq_some.mp hactive).1
    obtain ⟨hdevice, hid, _, huser, hold⟩ := oneDevice_ofRefresh hstored hpending t
    unfold World.SameOn
    rw [hcommits.store_eq]
    refine hdevice.sameOn hst ?_ fun hon => h old hactive ?_
    · change w.sessions.get? pending.session.id = none
      rw [hid]
      exact hfree
    · exact ⟨huser.symm.trans hon.1, hold.symm.trans hon.2⟩

/-- A logout leaves alone where the session is not that its token finds. -/
theorem leaves_logout (s : LoginService) (hst : w.stored.store.Orderly) (token : String)
    (accessToken : Option String)
    (h : ∀ t, w.stored.store.findByTokenHash (refreshTokenHash token) = some t → ¬ t.On u d) :
    Leaves w u d (s.logout token accessToken) := by
  intro result w' hrun
  rcases logout_cases hst hrun with ⟨_, _, hend, _⟩ | ⟨_, _, t, w₁, _, _, hended, hrefusing⟩
  · exact .of_elapsed hend
  · unfold World.SameOn
    rw [hrefusing.stored_eq, hended.stored_eq]
    refine MemoryStore.sameOn_map (fun _ c => MemoryStore.onward_loggedOut _ t c) fun id c hc hon =>
      if_neg fun hhash => h c ?_ hon
    rw [← hhash]
    exact hst.findByTokenHash_of_stored hc

end LoginService

/-! ### Operations -/

namespace Operation

/-- What the operation names, or finds in the store by what it names, is an identity's on a
device. -/
def Concerns (u : Uuid) (d : String) (w : World FaultyStore) : Operation → Prop
  | login _ request transport =>
    ∃ identity, w.stored.store.findByEmail (Email.normalize request.email) = some identity ∧
      identity.id = u ∧ (Client.classify request.hints transport).deviceId = d
  | refresh _ token =>
    ∃ session, w.stored.store.activeByToken token w.now = some session ∧ session.On u d
  | logout token _ =>
    ∃ session, w.stored.store.findByTokenHash (refreshTokenHash token) = some session ∧
      session.On u d
  | activeSessions userId hints transport =>
    userId = u ∧ (Client.classify hints transport).deviceId = d
  | touch id | revoke id _ => ∃ session, w.sessions.get? id = some session ∧ session.On u d
  | revokeAll userId _ => userId = u
  | authenticate _ => False

/-- **An operation leaves alone whom it does not concern.**  In an orderly store, and with a session
id that is free, an operation that does not concern an identity on a device leaves every session of
the identity on the device as it is, and adds none, however the clock goes on while it runs. -/
theorem sameOn (s : LoginService) (o : Operation) (hst : w.stored.store.Orderly)
    (hfree : ∀ id, o.Draws id → w.sessions.get? id = none) (hc : ¬ o.Concerns u d w) :
    Leaves w u d (o.service s) := by
  cases o with
  | login fresh request transport =>
      refine (LoginService.leaves_login s hst (hfree _ rfl) fun identity hfound hhere => ?_).told
      exact hc ⟨identity, hfound, hhere⟩
  | refresh fresh token =>
      refine (LoginService.leaves_refresh s hst (hfree _ rfl) fun old hactive hon => ?_).told
      exact hc ⟨old, hactive, hon⟩
  | logout token accessToken =>
      refine (LoginService.leaves_logout s hst token accessToken fun session hfound hon => ?_).told
      exact hc ⟨session, hfound, hon⟩
  | activeSessions userId hints transport =>
      refine Leaves.told (Leaves.withDeadline ?_)
      exact (Sessions.leaves_touchDevice hst hc).bind fun _ _ _ =>
        Leaves.of_reads (Sessions.reads_list userId _)
  | touch id =>
      refine (Sessions.leaves_touch fun session hstored hon => ?_).told (f := fun _ => .done)
      exact hc ⟨session, hstored, hon⟩
  | revoke id reason =>
      refine (Sessions.leaves_revoke reason fun session hstored hon => ?_).told (f := fun _ => .done)
      exact hc ⟨session, hstored, hon⟩
  | revokeAll userId reason => exact (Sessions.leaves_revokeAll reason hc).told
  | authenticate bearer =>
      have hspares := AuthorizationService.within_authenticate ⟨s.settings, .live⟩ bearer
      refine (Leaves.of_within hspares fun op w hop => ?_).told
      cases op with
      | store call => cases hop
      | health => cases hop
      | _ => exact World.SameOn.refl w u d

/-! ### Isolation -/

/-- The operation is carried out for an identity on a device.  A refresh is carried out for the
identity of the session behind its token even if that session is not active any more. -/
def IsFor (u : Uuid) (d : String) (w : World FaultyStore) : Operation → Prop
  | refresh _ token =>
    ∃ session, w.stored.store.findByTokenHash (refreshTokenHash token) = some session ∧
      session.On u d
  | o => o.Concerns u d w

/-- The operation is meant for every device of its identity. -/
def ForAllDevices : Operation → Prop
  | revokeAll .. => True
  | _ => False

/-- Whom an operation concerns, for that one it is carried out, and on the device that it
concerns. -/
theorem IsFor.of_concerns {o : Operation} (hfor : o.IsFor u d w) {v : Uuid} {e : String}
    (hc : o.Concerns v e w) : v = u ∧ (¬ o.ForAllDevices → e = d) := by
  -- What is found under one name is on one device.
  have found : ∀ {found : Option Session}, (∃ session, found = some session ∧ session.On u d) →
      (∃ session, found = some session ∧ session.On v e) → v = u ∧ e = d := by
    rintro _ ⟨session, rfl, hu, hd⟩ ⟨_, hsame, hv, he⟩
    cases hsame
    exact ⟨hv.symm.trans hu, he.symm.trans hd⟩
  cases o with
  | login fresh request transport =>
      obtain ⟨identity, hidentity, hu, hd⟩ := hfor
      obtain ⟨identity', hidentity', hv, he⟩ := hc
      cases hidentity.symm.trans hidentity'
      exact ⟨hv.symm.trans hu, fun _ => he.symm.trans hd⟩
  | refresh fresh token =>
      obtain ⟨session, hactive, hon⟩ := hc
      have hstored := (Option.filter_eq_some_iff.mp hactive).1
      exact (found hfor ⟨session, hstored, hon⟩).imp_right fun he _ => he
  | logout token accessToken => exact (found hfor hc).imp_right fun he _ => he
  | activeSessions userId hints transport =>
      exact ⟨hc.1.symm.trans hfor.1, fun _ => hc.2.symm.trans hfor.2⟩
  | touch id => exact (found hfor hc).imp_right fun he _ => he
  | revoke id reason => exact (found hfor hc).imp_right fun he _ => he
  | revokeAll userId reason => exact ⟨Eq.trans (Eq.symm hc) hfor, fun h => absurd trivial h⟩
  | authenticate bearer => exact hc.elim

/-- **Identities and devices are isolated.**  In every store that can come about, with a session id
that is free, whatever calls are faulted and however the clock goes on: an operation that is carried
out for an identity on a device leaves every record of a session of another identity as it is, and
adds none, also where both identities use the same device.  Unless it revokes all sessions of the
identity, it leaves those on its other devices as well. -/
theorem isolated (s : LoginService) (o : Operation) (hreach : w.stored.store.Reachable)
    (hfree : ∀ id, o.Draws id → w.sessions.get? id = none) (hfor : o.IsFor u d w)
    {result : Except Stop Operation.Reply}
    (hrun : (o.service s).run.Elapses FaultyStore.storage w result w') :
    (∀ (id : Uuid) (session : Session), session.userId ≠ u →
      (w'.sessions.get? id = some session ↔ w.sessions.get? id = some session)) ∧
    (¬ o.ForAllDevices → ∀ (id : Uuid) (session : Session), session.userId = u →
      session.deviceId ≠ d →
      (w'.sessions.get? id = some session ↔ w.sessions.get? id = some session)) := by
  have hsame : ∀ session : Session, ¬ o.Concerns session.userId session.deviceId w → ∀ id,
      (w'.sessions.get? id = some session ↔ w.sessions.get? id = some session) :=
    fun session hc id => o.sameOn s hreach.orderly hfree hc result w' hrun id session ⟨rfl, rfl⟩
  constructor
  · intro id session huser
    exact hsame session (fun hc => huser (hfor.of_concerns hc).1) id
  · intro hone id session _ hdevice
    exact hsame session (fun hc => hdevice ((hfor.of_concerns hc).2 hone)) id

end Operation

namespace Sample

/-- Another account. -/
def neighbour : Identity := ⟨⟨8⟩, "Bob", "bob@example.org", "", true⟩

/-- The other account uses the phone. -/
def neighbourSession : Session :=
  { session with id := ⟨9⟩, userId := neighbour.id, tokenHash := [1] }

/-- The account uses a tablet. -/
def tabletSession : Session :=
  { session with id := ⟨10⟩, tokenHash := [2], deviceId := "tablet" }

/-- A store with both accounts and these sessions. -/
def sharedStore : MemoryStore :=
  { MemoryStore.empty with
    identities := ⟨[(identity.id, identity), (neighbour.id, neighbour)]⟩
    sessions := ⟨[(neighbourSession.id, neighbourSession), (tabletSession.id, tabletSession)]⟩ }

theorem reachable_sharedStore : sharedStore.Reachable :=
  .call (.call (.change (.change .empty (.insertIdentity identity)) (.insertIdentity neighbour))
    (.rotate ⟨⟨"phone"⟩, reasonMobileLogin, neighbourSession, .ofSeconds 0, none⟩))
    (.rotate ⟨⟨"tablet"⟩, reasonMobileLogin, tabletSession, .ofSeconds 0, none⟩)

end Sample

namespace Operation

/-- A login from the phone leaves the session of the other account there, and the one on the
tablet. -/
theorem isolated_phone :
    let w : World FaultyStore := ⟨.ofSeconds 0, .empty, ⟨Sample.sharedStore, []⟩⟩
    let login : Operation := .login Sample.fresh Sample.request ⟨none, none⟩
    let w' := (outcome (login.service Sample.service) FaultyStore.storage w).2
    w'.sessions.get? Sample.neighbourSession.id = some Sample.neighbourSession ∧
      w'.sessions.get? Sample.tabletSession.id = some Sample.tabletSession := by
  intro w login w'
  have hfree : ∀ id, login.Draws id → w.sessions.get? id = none := by
    rintro _ rfl
    rfl
  have hfor : login.IsFor Sample.identity.id "phone" w := ⟨Sample.identity, rfl, rfl, rfl⟩
  obtain ⟨hothers, hdevices⟩ := isolated Sample.service login Sample.reachable_sharedStore hfree hfor
    (Program.elapses_run FaultyStore.storage _ w)
  constructor
  · exact (hothers _ Sample.neighbourSession (by decide)).mpr rfl
  · exact (hdevices id _ Sample.tabletSession rfl (by decide)).mpr rfl

end Operation

end Gatehouse
