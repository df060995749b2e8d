import Gatehouse.Proofs.Device.Isolation
import Mathlib.Data.List.Chain

/-! # Sessions follow one another on a device

Logins and refreshes open sessions.  A `DeviceRun` is a course of events, one completed before the
next, in which an identity's sessions on a device are touched by nothing but logins and refreshes
there, while everything else goes on elsewhere; the clock goes on between the events and during them.
The run keeps the list of the operations that were answered on the device, each with the times at
which it began and ended (`Turn`).

Each of these has opened a session at one time in between (`Operation.opening_cases`), which revokes
what is not revoked on the device at that moment (`OpensOn`), and other events leave the device
alone.  So the sessions on it form a chain in which each one is revoked by the next (`Succession`),
and only the last is left (`DeviceRun.one_session_left`).  Flavors play no part in it: a login from a
browser supersedes one from an application under the same device id, so nothing is ever in the way of
a login or a refresh (`Operation.answered`), except that the token of a refresh may expire while the
refresh is carried out. -/

namespace Gatehouse

open Service

/-! ### Sound worlds -/

/-- No store call is faulted, and the store came about as stores do. -/
structure World.Sound (w : World FaultyStore) : Prop where
  faults : w.stored.faults = []
  reachable : w.stored.store.Reachable

variable {w w' : World FaultyStore}

theorem World.Sound.handler (h : w.Sound) (op : Backend.Op) :
    (World.handler FaultyStore.storage op w).2.Sound := by
  cases op with
  | store call =>
      change World.Sound { w with stored := (FaultyStore.answer call w.stored).2 }
      rcases FaultyStore.answer_store call w.stored with heq | heq
      · rw [heq]
        exact h
      · rw [heq]
        exact ⟨h.faults, h.reachable.call call⟩
  | refuse tokenId expiresAt now => exact ⟨h.faults, h.reachable⟩
  | _ => exact h

theorem World.Sound.elapses (h : w.Sound) {α : Type} {p : Program Backend α} {a : α}
    (hrun : p.Elapses FaultyStore.storage w a w') : w'.Sound := by
  induction hrun with
  | done => exact h
  | tick _ _ ih => exact ih ⟨h.faults, h.reachable⟩
  | call _ ih => exact ih (h.handler _)

/-! ### What is opened -/

/-- A session that is opened: its id, and the time and the reason of what is revoked for it. -/
structure Opening where
  id : Uuid
  time : Instant
  reason : String
  deriving DecidableEq, Repr

/-- What an operation opens if it is carried out at a time. -/
def Operation.opening (now : Instant) : Operation → Option Opening
  | login fresh request transport =>
    match (Client.classify request.hints transport).flavor with
    | .mobile => some ⟨fresh.session.id, now, "New login on same device"⟩
    | .web => some ⟨fresh.session.id, now, "New web login"⟩
  | refresh fresh _ => some ⟨fresh.session.id, now, "Rotated"⟩
  | _ => none

theorem Operation.opening_login (fresh : Fresh) (request : LoginRequest) (transport : Transport)
    (now : Instant) : (Operation.login fresh request transport).opening now =
      some ⟨fresh.session.id, now,
        (Client.classify request.hints transport).flavor.loginReason⟩ := by
  simp only [opening]
  cases (Client.classify request.hints transport).flavor with
  | mobile => rfl
  | web => rfl

/-- An operation and the times at which it began and ended. -/
structure Turn where
  operation : Operation
  began : Instant
  ended : Instant

/-- The session was opened by an operation, at a time between its beginning and its end. -/
structure Opening.During (o : Opening) (turn : Turn) : Prop where
  opens : turn.operation.opening o.time = some o
  begun : turn.began ≤ o.time
  ended : o.time ≤ turn.ended

/-- The id and the token of the session that the operation would open are new to the store. -/
def Operation.DrawsNew (w : World FaultyStore) : Operation → Prop
  | login fresh _ _ | refresh fresh _ =>
    w.sessions.get? fresh.session.id = none ∧
      w.stored.store.findByTokenHash (refreshTokenHash fresh.session.refreshToken) = none
  | _ => True

theorem Operation.DrawsNew.free {o : Operation} (h : o.DrawsNew w) {id : Uuid} (hd : o.Draws id) :
    w.sessions.get? id = none := by
  cases o with
  | login fresh request transport =>
      cases hd
      exact h.1
  | refresh fresh token =>
      cases hd
      exact h.1
  | _ => cases hd

namespace MemoryStore

variable {st st' : MemoryStore} {u : Uuid} {d : String} {o : Opening}

/-- A session is opened on a device, and what is not revoked there is revoked for it. -/
structure OpensOn (st st' : MemoryStore) (u : Uuid) (d : String) (o : Opening) : Prop where
  free : st.sessions.get? o.id = none
  opened : ∃ new, st'.sessions.get? o.id = some new ∧ new.On u d ∧ new.revoked = false
  others : ∀ id, id ≠ o.id → ∀ session, session.On u d →
    (st'.sessions.get? id = some session ↔
      ∃ old, st.sessions.get? id = some old ∧ old.On u d ∧ old.revoke o.reason o.time = session)

/-- A rotation that stays on a device opens its session there. -/
theorem OneDevice.opensOn {r : Rotation} (h : st.OneDevice r) (hid : r.session.id = o.id)
    (htime : r.now = o.time) (hreason : r.reason = o.reason)
    (hfree : st.sessions.get? o.id = none) (hon : r.session.On u d) :
    st.OpensOn (st.afterRotation r) u d o := by
  obtain ⟨rfl, rfl⟩ := hon
  refine ⟨hfree, ⟨r.session, ?_, ⟨rfl, rfl⟩, h.unrevoked⟩, fun id hne session hsession => ?_⟩
  · rw [get?_afterRotation, if_pos hid]
  · rw [← hid] at hne
    rw [get?_afterRotation, if_neg (Ne.symm hne), Option.map_eq_some_iff, ← htime, ← hreason]
    constructor
    · rintro ⟨old, hold, rfl⟩
      rw [(onward_rotated r old).on_iff] at hsession
      exact ⟨old, hold, hsession, (rotated_of_on h.scope hsession).symm⟩
    · rintro ⟨old, hold, hon, rfl⟩
      exact ⟨old, hold, rotated_of_on h.scope hon⟩

/-! ### The chain of sessions -/

/-- The session under an id was revoked for what was opened. -/
def RevokedFor (st : MemoryStore) (u : Uuid) (d : String) (id : Uuid) (o : Opening) : Prop :=
  ∃ session, st.sessions.get? id = some session ∧ session.On u d ∧ session.revoked = true ∧
    session.revokedReason = some o.reason ∧ session.revokedAt = some o.time

theorem on_revoke {session : Session} {reason : String} {now : Instant} :
    (session.revoke reason now).On u d ↔ session.On u d :=
  (session.onward_revoke reason now).on_iff

namespace OpensOn

variable (h : st.OpensOn st' u d o)
include h

/-- A session that was there is there, revoked for the new one if it was not revoked. -/
theorem kept {id : Uuid} {session : Session} (hon : session.On u d)
    (hs : st.sessions.get? id = some session) :
    st'.sessions.get? id = some (session.revoke o.reason o.time) := by
  have hid : id ≠ o.id := by
    rintro rfl
    rw [h.free] at hs
    cases hs
  exact (h.others id hid _ (on_revoke.mpr hon)).mpr ⟨session, hs, hon, rfl⟩

theorem revokes {id : Uuid} {session : Session} (hon : session.On u d)
    (hs : st.sessions.get? id = some session) (hr : session.revoked = false) :
    st'.RevokedFor u d id o := by
  have hkept := h.kept hon hs
  rw [Session.revoke_of_not_revoked hr] at hkept
  exact ⟨_, hkept, hon, rfl, rfl, rfl⟩

/-- What was revoked before stays revoked for what it was. -/
theorem revokedFor {id : Uuid} {next : Opening} (hrevoked : st.RevokedFor u d id next) :
    st'.RevokedFor u d id next := by
  obtain ⟨session, hs, hon, hr, hrest⟩ := hrevoked
  have hkept := h.kept hon hs
  rw [Session.revoke_of_revoked hr] at hkept
  exact ⟨session, hkept, hon, hr, hrest⟩

end OpensOn

/-- The sessions of an identity on a device since a store in the past, in which those of the chain
were opened there, one after another. -/
structure Succession (past st : MemoryStore) (u : Uuid) (d : String) (chain : List Opening) :
    Prop where
  /-- The last one that was opened is not revoked. -/
  last : ∀ o ∈ chain.getLast?,
    ∃ session, st.sessions.get? o.id = some session ∧ session.On u d ∧ session.revoked = false
  /-- Each was opened under an id of its own and is there. -/
  distinct : (chain.map (·.id)).Nodup
  stored : ∀ o ∈ chain, ∃ session, st.sessions.get? o.id = some session ∧ session.On u d
  /-- Each but the last was revoked for the next. -/
  links : chain.IsChain fun o next => st.RevokedFor u d o.id next
  /-- What was there before and not revoked was revoked for the first. -/
  former : ∀ id session, session.On u d → past.sessions.get? id = some session →
    st.sessions.get? id =
      some (chain.head?.elim session fun first => session.revoke first.reason first.time)
  /-- There is nothing else. -/
  known : ∀ id session, session.On u d → st.sessions.get? id = some session →
    id ∈ chain.map (·.id) ∨ ∃ old, old.On u d ∧ past.sessions.get? id = some old

/-- Before anything is opened there is what was there. -/
theorem Succession.start (st : MemoryStore) (u : Uuid) (d : String) :
    st.Succession st u d [] where
  last _ ho := nomatch ho
  distinct := .nil
  stored _ ho := nomatch ho
  links := .nil
  former _ _ _ hs := hs
  known _ session hon hs := .inr ⟨session, hon, hs⟩

namespace Succession

variable {past : MemoryStore} {chain : List Opening} (h : past.Succession st u d chain)
include h

/-- What happens elsewhere leaves the chain. -/
theorem sameOn (hsame : st.SameOn u d st') : past.Succession st' u d chain where
  last o ho := by
    obtain ⟨session, hs, hon, hr⟩ := h.last o ho
    exact ⟨session, (hsame o.id session hon).mpr hs, hon, hr⟩
  distinct := h.distinct
  stored o ho := by
    obtain ⟨session, hs, hon⟩ := h.stored o ho
    exact ⟨session, (hsame o.id session hon).mpr hs, hon⟩
  links := h.links.imp fun o next ⟨session, hs, hon, hr⟩ =>
    ⟨session, (hsame o.id session hon).mpr hs, hon, hr⟩
  former id session hon hs := by
    refine (hsame id _ ?_).mpr (h.former id session hon hs)
    cases chain.head? with
    | none => exact hon
    | some first => exact on_revoke.mpr hon
  known id session hon hs := h.known id session hon ((hsame id session hon).mp hs)

/-- What is opened on the device becomes the last of the chain. -/
theorem opens {o : Opening} (hopens : st.OpensOn st' u d o) :
    past.Succession st' u d (chain ++ [o]) := by
  refine ⟨?_, ?_, ?_, ?_, ?_, ?_⟩
  · intro last hlast
    rw [List.getLast?_concat] at hlast
    cases hlast
    exact hopens.opened
  · rw [List.map_append, List.map_singleton, List.nodup_append]
    refine ⟨h.distinct, List.nodup_singleton _, ?_⟩
    intro id hid id' hid' heq
    obtain ⟨a, ha, rfl⟩ := List.mem_map.mp hid
    obtain ⟨session, hs, _⟩ := h.stored a ha
    rw [heq, List.mem_singleton.mp hid', hopens.free] at hs
    cases hs
  · intro a ha
    rcases List.mem_append.mp ha with ha | ha
    · obtain ⟨session, hs, hon⟩ := h.stored a ha
      exact ⟨_, hopens.kept hon hs, on_revoke.mpr hon⟩
    · rw [List.mem_singleton.mp ha]
      obtain ⟨new, hs, hon, _⟩ := hopens.opened
      exact ⟨new, hs, hon⟩
  · rw [List.isChain_append]
    refine ⟨h.links.imp fun _ _ hlink => hopens.revokedFor hlink, .singleton o, ?_⟩
    intro last hlast next hnext
    cases hnext
    obtain ⟨session, hs, hon, hr⟩ := h.last last hlast
    exact hopens.revokes hon hs hr
  · intro id session hon hs
    have hformer := h.former id session hon hs
    cases chain with
    | nil => exact hopens.kept hon hformer
    | cons first rest =>
        have hkept := hopens.kept (on_revoke.mpr hon) hformer
        rw [Session.revoke_of_revoked (Session.revoked_revoke session _ _)] at hkept
        exact hkept
  · intro id session hon hs
    rw [List.map_append, List.mem_append]
    by_cases hid : id = o.id
    · exact .inl (.inr (List.mem_singleton.mpr hid))
    · obtain ⟨old, hold, hon', _⟩ := (hopens.others id hid session hon).mp hs
      rcases h.known id old hon' hold with hmem | hformer
      · exact .inl (.inl hmem)
      · exact .inr hformer

/-- In an orderly store the last one is the only one that is not revoked. -/
theorem unrevoked (hst : st.Orderly) {last : Opening} (hlast : last ∈ chain.getLast?) :
    (st.sessions.values.filter fun t => t.userId = u && t.deviceId = d && !t.revoked).map (·.id) =
      [last.id] := by
  obtain ⟨session, hs, ⟨huser, hdevice⟩, hr⟩ := h.last last hlast
  have hone : (st.sessions.values.filter fun t =>
      t.userId = u && t.deviceId = d && !t.revoked).length ≤ 1 := by
    refine Table.length_filter_values_le_one hst.distinct fun k k' t t' ht ht' hp hp' => ?_
    simp only [Bool.and_eq_true, decide_eq_true_eq, Bool.not_eq_true'] at hp hp'
    obtain ⟨⟨hu, hd⟩, hn⟩ := hp
    obtain ⟨⟨hu', hd'⟩, hn'⟩ := hp'
    exact hst.device_unique ht ht' hn hn' (hu.trans hu'.symm) (hd.trans hd'.symm)
  have hmem : session ∈ st.sessions.values.filter fun t =>
      t.userId = u && t.deviceId = d && !t.revoked := by
    rw [List.mem_filter]
    refine ⟨(Table.mem_values hst.distinct).mpr ⟨last.id, hs⟩, ?_⟩
    simp [huser, hdevice, hr]
  rw [eq_singleton_of_mem hone hmem, List.map_singleton, hst.own_id hs]

end Succession

end MemoryStore

/-! ### Logins and refreshes that the store does not refuse -/

/-- What the client presents is in order at a time: the input is of its form, the account is enabled,
and the password is the right one, or the session of the token is active. -/
def Operation.Admitted (s : LoginService) (w : World FaultyStore) (t : Instant) : Operation → Prop
  | login _ request _ =>
    Validation.login request.email request.password = .ok () ∧ ∃ identity,
      w.stored.store.findByEmail (Email.normalize request.email) = some identity ∧
        s.credentials.hasher.verify request.password identity.passwordHash = true ∧
        identity.enabled = true
  | refresh _ token =>
    Validation.refreshToken token = .ok () ∧ ∃ session identity,
      w.stored.store.Renewable token t session identity ∧ identity.enabled = true
  | _ => False

/-- **No login and no refresh is refused by the store.**  Without faults, one that draws new values
and is admitted when it begins is answered, whatever is on its device, if whenever it reads the
clock it is still admitted and the calendar holds the lifetimes. -/
theorem Operation.answered {s : LoginService} (hw : w.Sound) {o : Operation} (hnew : o.DrawsNew w)
    (h : o.Admitted s w w.now) :
    Answers FaultyStore.storage w (fun t => s.InCalendar t ∧ o.Admitted s w t) (fun _ _ => True)
      (o.service s) := by
  have told {α : Type} {times : Instant → Prop} {p : Service α} {f : α → Operation.Reply}
      (hp : Answers FaultyStore.storage w times (fun _ _ => True) p) :
      Answers FaultyStore.storage w times (fun _ _ => True) (p >>= fun a => pure (f a)) :=
    hp.bind fun _ _ _ => .of_delivers (Delivers.pure fun _ _ => trivial)
  cases o with
  | login fresh request transport =>
      obtain ⟨hvalid, identity, hfound, hpassword, henabled⟩ := h
      exact told (LoginService.login_answers transport hw.faults (fun _ ht => ht.1) hnew.2 hvalid
        hfound hpassword henabled)
  | refresh fresh token =>
      obtain ⟨hvalid, old, identity, hrenewable, henabled⟩ := h
      have horderly := hw.reachable.orderly
      obtain ⟨hactive, hholder⟩ := horderly.renewable_iff.mp hrenewable
      obtain ⟨hfound, _⟩ := Option.filter_eq_some_iff.mp hactive
      refine told (LoginService.refresh_answers horderly hw.faults (fun _ ht => ht.1) hnew.2 hvalid
        hfound ?_ hholder henabled)
      -- The session that is active then is the one that the token finds.
      rintro t ⟨_, _, old', _, hrenewable', _⟩
      obtain ⟨hactive', _⟩ := horderly.renewable_iff.mp hrenewable'
      obtain ⟨hfound', hlasting⟩ := Option.filter_eq_some_iff.mp hactive'
      cases hfound.symm.trans hfound'
      exact hlasting
  | _ => exact h.elim

/-! ### Runs -/

variable {s : LoginService} {u : Uuid} {d : String}

/-- **The ends of a login or a refresh on a device.**  It ends with an error and changes nothing, or
it has opened its session there at some time in between. -/
theorem Operation.opening_cases (hw : w.Sound) {o : Operation} (hnew : o.DrawsNew w)
    (hhere : o.Concerns u d w) {id : Uuid} (hdraws : o.Draws id)
    {result : Except Stop Operation.Reply}
    (h : (o.service s).run.Elapses FaultyStore.storage w result w') :
    ((∃ stop, result = .error stop) ∧ w.Elapsed w') ∨
      (∃ reply, result = .ok reply) ∧ ∃ opening : Opening, opening.During ⟨o, w.now, w'.now⟩ ∧
        w.stored.store.OpensOn w'.stored.store u d opening := by
  cases o with
  | login fresh request transport =>
      obtain ⟨identity, hfound, hu, hd⟩ := hhere
      obtain ⟨first, hlogin, rfl⟩ := elapses_bind_pure h
      rcases LoginService.login_elapses hlogin with
        ⟨⟨stop, rfl⟩, hend⟩ | ⟨_, pending, now, t, hfound', hpending, hcommits, hanswered⟩
      · exact .inl ⟨⟨stop, rfl⟩, hend⟩
      · obtain ⟨answer, rfl⟩ := hanswered hw.faults
        cases hfound.symm.trans hfound'
        obtain ⟨hdevice, hid, hreason, hon⟩ := LoginService.oneDevice_ofLogin hpending t
        rw [hu, hd] at hon
        let client := Client.classify request.hints transport
        refine .inr ⟨⟨_, rfl⟩, ⟨fresh.session.id, t, client.flavor.loginReason⟩,
          ⟨opening_login fresh request transport t, hcommits.begun, hcommits.ended⟩, ?_⟩
        rw [hcommits.store_eq]
        exact hdevice.opensOn hid rfl hreason hnew.1 hon
  | refresh fresh token =>
      obtain ⟨old, hactive, hu, hd⟩ := hhere
      obtain ⟨first, hrefresh, rfl⟩ := elapses_bind_pure h
      rcases LoginService.refresh_elapses hrefresh with
        ⟨⟨stop, rfl⟩, hend⟩ | ⟨_, pending, now, t, hactive', hpending, hcommits, pair, rfl⟩
      · exact .inl ⟨⟨stop, rfl⟩, hend⟩
      · cases hactive.symm.trans hactive'
        have hstored := (hw.reachable.orderly.activeByToken_eq_some.mp hactive).1
        obtain ⟨hdevice, hid, hreason, hon⟩ := LoginService.oneDevice_ofRefresh hstored hpending t
        rw [hu, hd] at hon
        refine .inr ⟨⟨_, rfl⟩, ⟨fresh.session.id, t, reasonRotated⟩,
          ⟨rfl, hcommits.begun, hcommits.ended⟩, ?_⟩
        rw [hcommits.store_eq]
        exact hdevice.opensOn hid rfl hreason hnew.1 hon
  | _ => cases hdraws

/-- A course of events that leaves the sessions of an identity on a device to logins and refreshes
there, and those of them that were answered.  While an operation is carried out the clock may go
on. -/
inductive DeviceRun (s : LoginService) (u : Uuid) (d : String) (start : World FaultyStore) :
    List Turn → World FaultyStore → Prop
  | start : DeviceRun s u d start [] start
  /-- The clock moves on. -/
  | tick {turns : List Turn} {w : World FaultyStore} (h : DeviceRun s u d start turns w)
    (t : Instant) (ht : w.now ≤ t) : DeviceRun s u d start turns { w with now := t }
  /-- Accounts, roles or grants change. -/
  | change {turns : List Turn} {w : World FaultyStore} (h : DeviceRun s u d start turns w)
    (c : GraphChange) : DeviceRun s u d start turns
      { w with stored := { w.stored with store := w.stored.store.afterChange c } }
  /-- An operation is carried out that does not concern the identity on the device. -/
  | elsewhere {turns : List Turn} {w w' : World FaultyStore}
    {result : Except Stop Operation.Reply} (h : DeviceRun s u d start turns w)
    (o : Operation) (hnew : o.DrawsNew w) (hother : ¬ o.Concerns u d w)
    (hrun : (o.service s).run.Elapses FaultyStore.storage w result w') :
    DeviceRun s u d start turns w'
  /-- A login of the identity on the device, or a refresh with the token of the session that is
  active there, ends with an error. -/
  | failed {turns : List Turn} {w w' : World FaultyStore} {id : Uuid} {stop : Stop}
    (h : DeviceRun s u d start turns w) (o : Operation) (hdraws : o.Draws id)
    (hnew : o.DrawsNew w) (hhere : o.Concerns u d w)
    (hrun : (o.service s).run.Elapses FaultyStore.storage w (.error stop) w') :
    DeviceRun s u d start turns w'
  /-- Such a login or refresh is answered. -/
  | opened {turns : List Turn} {w w' : World FaultyStore} {id : Uuid}
    {reply : Operation.Reply} (h : DeviceRun s u d start turns w) (o : Operation)
    (hdraws : o.Draws id) (hnew : o.DrawsNew w) (hhere : o.Concerns u d w)
    (hrun : (o.service s).run.Elapses FaultyStore.storage w (.ok reply) w') :
    DeviceRun s u d start (turns ++ [⟨o, w.now, w'.now⟩]) w'

namespace DeviceRun

variable {start : World FaultyStore} {turns : List Turn}

theorem sound (h : DeviceRun s u d start turns w) (hstart : start.Sound) : w.Sound := by
  induction h with
  | start => exact hstart
  | tick _ t _ ih => exact ⟨ih.faults, ih.reachable⟩
  | change _ c ih => exact ⟨ih.faults, ih.reachable.change c⟩
  | elsewhere _ _ _ _ hrun ih | failed _ _ _ _ _ hrun ih | opened _ _ _ _ _ hrun ih =>
      exact ih.elapses hrun

/-- Each event keeps the chain of the sessions on the device, one for each operation that was
answered there. -/
theorem succession (h : DeviceRun s u d start turns w) (hstart : start.Sound) :
    ∃ chain, List.Forall₂ Opening.During chain turns ∧
      start.stored.store.Succession w.stored.store u d chain := by
  induction h with
  | start => exact ⟨[], .nil, MemoryStore.Succession.start _ u d⟩
  | tick _ _ _ ih => exact ih
  | change _ c ih =>
      obtain ⟨chain, hchain, hsuccession⟩ := ih
      refine ⟨chain, hchain, hsuccession.sameOn fun id session _ => ?_⟩
      rw [(MemoryStore.afterChange_edits _ c).sessions]
  | elsewhere hbefore o hnew hother hrun ih =>
      obtain ⟨chain, hchain, hsuccession⟩ := ih
      have horderly := (hbefore.sound hstart).reachable.orderly
      exact ⟨chain, hchain,
        hsuccession.sameOn (o.sameOn s horderly (fun _ => hnew.free) hother _ _ hrun)⟩
  | failed hbefore o hdraws hnew hhere hrun ih =>
      rcases Operation.opening_cases (hbefore.sound hstart) hnew hhere hdraws hrun with
        ⟨_, hend⟩ | ⟨⟨_, hok⟩, _⟩
      · rw [hend.stored_eq]
        exact ih
      · cases hok
  | opened hbefore o hdraws hnew hhere hrun ih =>
      obtain ⟨chain, hchain, hsuccession⟩ := ih
      rcases Operation.opening_cases (hbefore.sound hstart) hnew hhere hdraws hrun with
        ⟨⟨_, hstop⟩, _⟩ | ⟨_, opening, hduring, hopens⟩
      · cases hstop
      · exact ⟨chain ++ [opening], List.rel_append hchain (.cons hduring .nil),
          hsuccession.opens hopens⟩

/-- **One session is left on a device, the last that was opened.**  In a run from any store that can
come about, without faults: no login and no refresh is refused that is admitted, and still is
whenever it reads the clock; each that was answered there has opened a session at some time while it
was carried out; if there was one, exactly one session of the identity on the device is not revoked,
the one that was opened last; and each of the others was revoked for what was opened next, at its
time and with its reason, those from before the run for what was opened first. -/
theorem one_session_left (h : DeviceRun s u d start turns w) (hstart : start.Sound) :
    (∀ o : Operation, o.DrawsNew w → o.Admitted s w w.now →
      Answers FaultyStore.storage w (fun t => s.InCalendar t ∧ o.Admitted s w t) (fun _ _ => True)
        (o.service s)) ∧
    ∃ chain, List.Forall₂ Opening.During chain turns ∧
      (∀ last ∈ chain.getLast?, (w.sessions.values.filter fun t =>
        t.userId = u && t.deviceId = d && !t.revoked).map (·.id) = [last.id]) ∧
      start.stored.store.Succession w.stored.store u d chain := by
  have hsound := h.sound hstart
  obtain ⟨chain, hchain, hsuccession⟩ := h.succession hstart
  refine ⟨fun o hnew hadmitted => Operation.answered hsound hnew hadmitted, chain, hchain, ?_,
    hsuccession⟩
  intro last hlast
  exact hsuccession.unrevoked hsound.reachable.orderly hlast

end DeviceRun

namespace Sample

/-- After a login from the phone. -/
def signingIn : World FaultyStore :=
  (outcome (Operation.service service (.login fresh request ⟨none, none⟩))
    FaultyStore.storage (world [])).2

/-- A minute after a login from the phone. -/
def signedIn : World FaultyStore := { signingIn with now := .ofSeconds 60 }

theorem run_signedIn : DeviceRun service identity.id "phone" (world [])
    [⟨.login fresh request ⟨none, none⟩, .ofSeconds 0, .ofSeconds 0⟩] signedIn := by
  let login : Operation := .login fresh request ⟨none, none⟩
  have hrun : DeviceRun service identity.id "phone" (world [])
      [⟨login, (world []).now, signingIn.now⟩] signingIn :=
    .opened .start login rfl ⟨rfl, rfl⟩ ⟨identity, rfl, rfl, rfl⟩ (Program.elapses_run _ _ _)
  exact hrun.tick (.ofSeconds 60) (by decide)

/-- What a refresh from the phone draws. -/
def again : Fresh := ⟨⟨⟨4⟩, "again"⟩, ⟨5⟩⟩

theorem active_signedIn {t : Instant} (ht : t = .ofSeconds 60 ∨ t = .ofSeconds 61) : ∃ session,
    signedIn.stored.store.activeByToken "refresh" t = some session ∧
      session.On identity.id "phone" := by
  have horderly := (run_signedIn.sound ⟨rfl, reachable_world []⟩).reachable.orderly
  obtain ⟨session, hid, hstored, hhash, hactive, hlater, hon⟩ : ∃ session,
      session.id = fresh.session.id ∧
        signedIn.sessions.get? fresh.session.id = some session ∧
        session.tokenHash = refreshTokenHash "refresh" ∧
        session.isActive (.ofSeconds 60) = true ∧ session.isActive (.ofSeconds 61) = true ∧
        session.On identity.id "phone" :=
    ⟨_, rfl, rfl, rfl, rfl, rfl, rfl, rfl⟩
  rw [← hid] at hstored
  refine ⟨session, horderly.activeByToken_eq_some.mpr ⟨hstored, hhash, ?_⟩, hon⟩
  rcases ht with rfl | rfl
  · exact hactive
  · exact hlater

/-- The refresh is in order a minute after the login, and one second later. -/
theorem admitted_again {t : Instant} (ht : t = .ofSeconds 60 ∨ t = .ofSeconds 61) :
    service.InCalendar t ∧
      Operation.Admitted service signedIn t (.refresh again "refresh") := by
  have horderly := (run_signedIn.sound ⟨rfl, reachable_world []⟩).reachable.orderly
  obtain ⟨session, hactive, huser, _⟩ := active_signedIn ht
  have hholder : signedIn.stored.store.identities.get? session.userId = some identity := by
    rw [huser]
    rfl
  refine ⟨?_, rfl, session, identity, horderly.renewable_iff.mpr ⟨hactive, hholder⟩, rfl⟩
  rcases ht with rfl | rfl
  all_goals
    refine ⟨⟨_, rfl⟩, fun flavor => ?_⟩
    cases flavor with
    | mobile => exact ⟨_, rfl⟩
    | web => exact ⟨_, rfl⟩

end Sample

namespace DeviceRun

/-- A login from the phone, and a minute later a refresh during which the clock goes on by a second:
one session is left, and the first is revoked as rotated, while the refresh was carried out. -/
theorem one_session_left_phone :
    let login : Operation := .login Sample.fresh Sample.request ⟨none, none⟩
    let refresh : Operation := .refresh Sample.again "refresh"
    ∃ w t, .ofSeconds 60 ≤ t ∧ t ≤ .ofSeconds 61 ∧
      DeviceRun Sample.service Sample.identity.id "phone" (Sample.world [])
        [⟨login, .ofSeconds 0, .ofSeconds 0⟩, ⟨refresh, .ofSeconds 60, .ofSeconds 61⟩] w ∧
      (w.sessions.values.filter fun t =>
        t.userId = Sample.identity.id && t.deviceId = "phone" && !t.revoked).map (·.id) =
          [Sample.again.session.id] ∧
      w.stored.store.RevokedFor Sample.identity.id "phone" Sample.fresh.session.id
        ⟨Sample.again.session.id, t, "Rotated"⟩ := by
  intro login refresh
  have hstart : (Sample.world []).Sound := ⟨rfl, Sample.reachable_world []⟩
  have hbefore := Sample.run_signedIn
  have hnew : refresh.DrawsNew Sample.signedIn := ⟨rfl, by decide +kernel⟩
  obtain ⟨next, hrefresh⟩ : ∃ next, (refresh.service Sample.service).run = .call .now next :=
    ⟨_, rfl⟩
  have hle : Sample.signedIn.now ≤ .ofSeconds 61 := by decide
  obtain ⟨result, calls, w, hmakes, hthrough, hend, hcalls⟩ :=
    Program.makes_of_tick next hle
  rw [← hrefresh] at hmakes
  have hreadings : ∀ c ∈ (Backend.Op.now, Sample.signedIn) :: calls, c.1 = .now →
      Sample.service.InCalendar c.2.now ∧
        refresh.Admitted Sample.service Sample.signedIn c.2.now := by
    intro c hc _
    rcases List.mem_cons.mp hc with rfl | hc
    · exact Sample.admitted_again (.inl rfl)
    · exact Sample.admitted_again (.inr (hcalls c hc))
  -- The refresh is answered, so it is the second turn on the phone.
  obtain ⟨reply, rfl, _⟩ := (hbefore.one_session_left hstart).1 refresh hnew
    (Sample.admitted_again (.inl rfl)).2 _ _ _ hmakes hthrough hreadings
  obtain ⟨session, hactive, hon⟩ := Sample.active_signedIn (.inl rfl)
  have hrun := hbefore.opened refresh rfl hnew ⟨session, hactive, hon⟩
    (Program.elapses_iff.mpr ⟨_, hmakes, hthrough⟩)
  rw [hend] at hrun
  obtain ⟨_, chain, hchain, hone, hsuccession⟩ := hrun.one_session_left hstart
  cases hchain with
  | cons hfirst hrest =>
  cases hrest with
  | cons hsecond hrest =>
  cases hrest
  have hlink := List.isChain_pair.mp hsuccession.links
  have hid := Option.some.inj hsecond.opens
  rw [← congrArg Opening.id (Option.some.inj hfirst.opens), ← hid] at hlink
  have hlast := hone _ rfl
  rw [← hid] at hlast
  exact ⟨w, _, hsecond.begun, hsecond.ended, hrun, hlast, hlink⟩

end DeviceRun

end Gatehouse
