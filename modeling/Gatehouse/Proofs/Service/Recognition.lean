import Gatehouse.Proofs.Client
import Gatehouse.Proofs.Concurrency.Keeping
import Gatehouse.Proofs.Service.Listing
import Gatehouse.Proofs.Service.Meanwhile

/-! # A client recognises its own session

A login that succeeds stores its session under the id that it drew, on the device as which the client
is classified (`login_opens`).  As long as ids are not drawn twice the session stays there, whatever
happens (`Opens.meanwhile`), and operations that draw free ids draw none twice
(`Operation.meanwhile_drawsFree`).  Whoever lists the sessions later from the same device has this
session flagged and no other while it is active; and the device is the same whatever else the client
says of itself and however it pads what it says.  `own_session_recognized` puts this together. -/

namespace Gatehouse

open Service

variable {w w₁ w₂ w' : World FaultyStore}

namespace Sessions

/-- **The ends of a commit as the clock goes on.**  It has carried out its rotation at some time in
between; or it breaks off and changes nothing, and without faults the store would not have it. -/
theorem elapses_commit_cases {pending : PendingSession} {result : Except Stop Session}
    (h : (commit pending).run.Elapses FaultyStore.storage w result w') :
    ∃ t, w.now ≤ t ∧ t ≤ w'.now ∧
      (((∃ stop, result = .error stop) ∧ w.Elapsed w' ∧ (w.stored.faults = [] →
          ∀ ids st, w.stored.store.rotate (pending.rotation t) ≠ .ok (.committed ids, st))) ∨
        result = .ok pending.session ∧ World.Elapsed
          { w with stored :=
            { w.stored with store := w.stored.store.afterRotation (pending.rotation t) } } w') := by
  obtain ⟨t, w₁, hle, hle', hbefore, h⟩ := elapses_bind_now h
  rw [← hbefore.stored_eq]
  rcases elapses_bind h with ⟨stop, rfl, hstore⟩ | ⟨reply, w₂, hstore, h⟩
  · obtain ⟨hresult, hend⟩ := elapses_store hstore
    cases hanswer : (FaultyStore.answer (.rotate (pending.rotation t)) w₁.stored).1 with
    | ok reply =>
        change _ = (FaultyStore.answer _ w₁.stored).1.mapError _ at hresult
        rw [hanswer] at hresult
        cases hresult
    | error trouble =>
        change World.Elapsed { w₁ with stored := (FaultyStore.answer _ w₁.stored).2 } w' at hend
        rw [FaultyStore.answer_error_unchanged hanswer] at hend
        refine ⟨t, hle, Instant.le_trans hle' hend.le,
          .inl ⟨⟨stop, rfl⟩, hbefore.trans hend, fun hf ids st hrotate => ?_⟩⟩
        have hanswered : w₁.stored.store.answer (.rotate (pending.rotation t)) =
            .ok (.committed ids, st) := hrotate
        have hok := FaultyStore.answer_ok (FaultyStore.lookup_of_sound hf _) hanswered
        rw [hok] at hanswer
        cases hanswer
  · obtain ⟨st, hrotate, hafter⟩ := elapses_store_ok hstore
    rcases MemoryStore.rotate_ok hrotate with ⟨rfl, rfl⟩ | ⟨rfl, rfl⟩
    · obtain ⟨rfl, hend⟩ := elapses_throw h
      have hlast : w₁.Elapsed w' := World.Elapsed.trans hafter hend
      refine ⟨t, hle, Instant.le_trans hle' hlast.le,
        .inl ⟨⟨_, rfl⟩, hbefore.trans hlast, fun _ ids st hrotate' => ?_⟩⟩
      cases Except.ok.inj (hrotate.symm.trans hrotate')
    · obtain ⟨rfl, hend⟩ := elapses_pure h
      have hlast := hafter.trans hend
      refine ⟨t, hle, Instant.le_trans hle' hlast.le, .inr ⟨rfl, ?_⟩⟩
      rw [hbefore.stored_eq] at hlast ⊢
      exact (hbefore.store _).trans hlast

/-- A commit that ends with a value has carried out its rotation at some time in between. -/
theorem elapses_commit {pending : PendingSession} {session : Session}
    (h : (commit pending).run.Elapses FaultyStore.storage w (.ok session) w') :
    session = pending.session ∧ ∃ t, w.now ≤ t ∧ t ≤ w'.now ∧ World.Elapsed
      { w with stored :=
        { w.stored with store := w.stored.store.afterRotation (pending.rotation t) } } w' := by
  obtain ⟨t, hle, hle', ⟨⟨_, hstop⟩, _⟩ | ⟨hok, hend⟩⟩ := elapses_commit_cases h
  · cases hstop
  · exact ⟨Except.ok.inj hok, t, hle, hle', hend⟩

/-- Whoever has sessions listed is told of those that are active at some time in between. -/
theorem elapses_list {userId : Uuid} {device : String} {entries : List SessionSummary}
    (h : (list userId device).run.Elapses FaultyStore.storage w (.ok entries) w') :
    w.Elapsed w' ∧ ∃ t, w.now ≤ t ∧ t ≤ w'.now ∧
      entries = (w.stored.store.listActive userId t).map (·.summary device) := by
  obtain ⟨t, w₁, hle, hle', hbefore, h⟩ := elapses_bind_now h
  obtain ⟨sessions, w₂, hstore, h⟩ := elapses_bind_ok h
  obtain ⟨st, hanswer, hafter⟩ := elapses_store_ok hstore
  cases hanswer
  obtain ⟨hok, hend⟩ := elapses_pure h
  have hlast : w₁.Elapsed w' := World.Elapsed.trans hafter hend
  rw [hbefore.stored_eq] at hok
  exact ⟨hbefore.trans hlast, t, hle, Instant.le_trans hle' hlast.le, Except.ok.inj hok⟩

end Sessions

/-! ### What a login opens -/

theorem Backend.Op.NoRotation.drawsFree {op : Backend.Op} (h : op.NoRotation)
    (w : World FaultyStore) : w.DrawsFree op :=
  fun r hr => absurd hr (h r)

/-- Whatever a service that adds no session does, no id is drawn twice. -/
theorem Service.Within.drawsFree {α : Type} {p : Service α} {wanted : α → Prop}
    {result : Except Stop α} (hp : p.Within Backend.Op.NoRotation wanted)
    (h : p.run.Elapses FaultyStore.storage w result w') : w.Meanwhile World.DrawsFree w' :=
  (Program.Within.meanwhile hp (fun w _ hop => hop.drawsFree w) h).1

/-- An operation that draws a free id for its session draws no id twice. -/
theorem Operation.meanwhile_drawsFree (s : LoginService) {o : Operation}
    {reply : Except Stop Operation.Reply} (horderly : w.stored.store.Orderly)
    (hfree : ∀ id, o.Draws id → w.sessions.get? id = none)
    (h : (o.service s).run.Elapses FaultyStore.storage w reply w') :
    w.Meanwhile World.DrawsFree w' := by
  refine (o.assures_keeps s horderly hfree).meanwhile (World.Moves.refl _)
    (fun h h' => h.trans h') (fun w t ht => ?_) ?_ h
  · exact { World.Moves.refl o.Draws w with clock := ht }
  · rintro op next w hkeeps r rfl
    exact hkeeps.2

namespace LoginService

variable {s : LoginService} {fresh : Fresh} {request : LoginRequest} {transport : Transport}
  {answer : LoginAnswer}

/-- The session is one of the user on the device. -/
def Opens (w : World FaultyStore) (id userId : Uuid) (device : String) : Prop :=
  ∃ c, w.sessions.get? id = some c ∧ c.userId = userId ∧ c.deviceId = device

/-- As long as ids are not drawn twice the session stays where it is. -/
theorem Opens.meanwhile {id userId : Uuid} {device : String} (h : Opens w id userId device)
    (hmeanwhile : w.Meanwhile World.DrawsFree w') : Opens w' id userId device := by
  obtain ⟨c, hc, rfl, rfl⟩ := h
  obtain ⟨c', hc', honward⟩ := hmeanwhile.onward id c hc
  exact ⟨c', hc', honward.userId_eq, honward.deviceId_eq⟩

/-- A login that succeeds has opened a session of the user on the client's device. -/
theorem login_opens
    (h : (s.login fresh request transport).run.Elapses FaultyStore.storage w (.ok answer) w') :
    Opens w' fresh.session.id answer.user.id (Client.classify request.hints transport).deviceId := by
  rw [login_eq] at h
  obtain ⟨_, w₁, _, h⟩ := elapses_bind_ok h
  obtain ⟨⟨r, session⟩, w₂, hopened, h⟩ := elapses_bind_ok (elapses_withDeadline_ok h)
  obtain ⟨_, w₃, hready, hopened⟩ := elapses_bind_ok hopened
  obtain ⟨_, w₄, hcommit, hopened⟩ := elapses_bind_ok hopened
  obtain ⟨hok, hend⟩ := elapses_pure hopened
  cases hok
  obtain ⟨entries, w₅, hlist, h⟩ := elapses_bind_ok h
  obtain ⟨hok, hlast⟩ := elapses_pure h
  cases hok
  -- Before the write the session is prepared, and after it the sessions are only read.
  obtain ⟨_, _, hpending⟩ := Program.Within.meanwhile (s.within_ready fresh request transport)
    (fun _ _ _ => trivial) hready
  obtain ⟨_, hid, huser, _, _, _, _, _, hdevice, _⟩ := PendingSession.ofLogin_eq_some hpending
  obtain ⟨_, t, _, _, hafter⟩ := Sessions.elapses_commit hcommit
  obtain ⟨hread, _⟩ := Sessions.elapses_list hlist
  have hquiet := hafter.trans (hend.trans (hread.trans hlast))
  refine ⟨r.pending.session, ?_, huser, hdevice⟩
  unfold World.sessions
  rw [hquiet.stored_eq, MemoryStore.get?_afterRotation, ← hid]
  exact if_pos rfl

/-! ### What is flagged -/

/-- In the list for the device of an active session it is flagged, and no other. -/
theorem flags_own {st : MemoryStore} (hst : st.Orderly) {c : Session} {t : Instant}
    (hc : st.sessions.get? c.id = some c) (hactive : c.isActive t = true) :
    c ∈ st.listActive c.userId t ∧
      (∀ u ∈ st.listActive c.userId t, (u.summary c.deviceId).isCurrent = true ↔ u = c) ∧
      ((st.listActive c.userId t).map (·.summary c.deviceId)).filter (·.isCurrent) =
        [c.summary c.deviceId] := by
  have hfilter := hst.filter_listActive hc hactive
  have hmem (u : Session) :
      u ∈ st.listActive c.userId t ∧ (u.deviceId == c.deviceId) = true ↔ u = c := by
    have hiff : u ∈ (st.listActive c.userId t).filter (·.deviceId == c.deviceId) ↔ u ∈ [c] := by
      rw [hfilter]
    rwa [List.mem_filter, List.mem_singleton] at hiff
  refine ⟨((hmem c).mpr rfl).1, fun u hu => ?_, ?_⟩
  · exact ⟨fun hcurrent => (hmem u).mp ⟨hu, hcurrent⟩, fun heq => ((hmem u).mpr heq).2⟩
  · rw [List.filter_map]
    exact congrArg (List.map (·.summary c.deviceId)) hfilter

/-- Without faults the listing is answered, however the clock goes on, and notes a use at most. -/
theorem delivers_entries (hst : w.stored.store.Orderly) (hf : w.stored.faults = []) (userId : Uuid)
    (hints : ClientHints) (transport : Transport) :
    Delivers FaultyStore.storage w (fun _ w' => ∃ asked used,
      (w.usedOn userId (Client.classify hints transport).deviceId asked used).Elapsed w')
      (activeSessions userId hints transport) := by
  unfold activeSessions
  refine Delivers.withDeadline _ ((Sessions.delivers_touchDevice hst hf userId _).bind ?_)
  rintro _ w₁ ⟨asked, used, _, _, _, helapsed⟩
  have hf₁ : w₁.stored.faults = [] := by
    rw [helapsed.stored_eq]
    exact hf
  refine (Sessions.delivers_list hf₁ userId _).mono fun _ w' h => ?_
  exact ⟨asked, used, helapsed.trans h.1⟩

/-- **A client recognises its own session.**  After a login that succeeded, whatever it said of
itself, the client lists the sessions of the identity, naming the same device as then, or none, over
a connection with the same user agent and address, each padded or not.  It is answered unless the
store is in trouble; and if the session that the login opened is active when the list is made, this
session is listed and flagged, and it is the only one that is flagged.  In between anything may
happen but that an id is drawn twice. -/
theorem own_session_recognized (s : LoginService) (hw : w.Reachable) (fresh : Fresh)
    (request : LoginRequest) (transport : Transport)
    (hlogin : (s.login fresh request transport).run.Elapses FaultyStore.storage w (.ok answer) w₁)
    (hmeanwhile : w₁.Meanwhile World.DrawsFree w₂) (hints : ClientHints) (later : Transport)
    (hdevice : Text.Alike request.hints.deviceId hints.deviceId)
    (hagent : Text.Alike transport.userAgent later.userAgent)
    (haddress : Text.Alike transport.ipAddress later.ipAddress) :
    let listing := activeSessions answer.user.id hints later
    (w₂.stored.faults = [] → ∀ result w₃,
      listing.run.Elapses FaultyStore.storage w₂ result w₃ → ∃ entries, result = .ok entries) ∧
    ∀ entries w₃, listing.run.Elapses FaultyStore.storage w₂ (.ok entries) w₃ →
      ∃ c t, w₃.sessions.get? fresh.session.id = some c ∧ w₂.now ≤ t ∧ t ≤ w₃.now ∧
        let listed := w₃.stored.store.listActive answer.user.id t
        entries = listed.map (·.summary c.deviceId) ∧
        (c.isActive t = true → c ∈ listed ∧
          (∀ u ∈ listed, (u.summary c.deviceId).isCurrent = true ↔ u = c) ∧
          entries.filter (·.isCurrent) = [c.summary c.deviceId]) := by
  intro listing
  have hw₂ : w₂.Reachable := (hw.meanwhile hlogin.meanwhile).meanwhile hmeanwhile
  constructor
  · intro hf result w₃ hrun
    obtain ⟨entries, hok, _⟩ := delivers_entries hw₂.orderly hf _ _ _ result w₃ hrun
    exact ⟨entries, hok⟩
  · intro entries w₃ hrun
    obtain ⟨_, w₄, htouch, hlist⟩ := elapses_bind_ok (elapses_withDeadline_ok hrun)
    have htouched := (Sessions.within_touchDevice _ _).noRotation.drawsFree htouch
    obtain ⟨hread, t, hle, hle', hentries⟩ := Sessions.elapses_list hlist
    have hlast := (hmeanwhile.trans htouched).trans (.of_elapsed hread)
    obtain ⟨c, hc, huser, hdevice'⟩ := (login_opens hlogin).meanwhile hlast
    have hsame := Client.deviceId_of_alike hdevice hagent haddress
    rw [hsame, ← hdevice', ← hread.stored_eq] at hentries
    have hst : w₃.stored.store.Orderly := (hw₂.meanwhile hrun.meanwhile).orderly
    refine ⟨c, t, hc, Instant.le_trans htouched.clock hle, hle', hentries, fun hactive => ?_⟩
    have hid : w₃.stored.store.sessions.get? c.id = some c := by
      rw [hst.own_id hc]
      exact hc
    rw [hentries, ← huser]
    exact flags_own hst hid hactive

end LoginService

namespace Sample

/-- A login from the phone, which pads its name. -/
def paddedRequest : LoginRequest :=
  { request with hints := ⟨some " phone\t", some "My phone", some "ios", none⟩ }

/-- What the phone says of itself when it asks for its sessions. -/
def bareHints : ClientHints := ⟨some "phone", none, none, none⟩

theorem alike_phone : Text.Alike paddedRequest.hints.deviceId bareHints.deviceId :=
  ⟨"phone", ⟨[' '], ['\t'], List.forall_mem_singleton.mpr rfl, List.forall_mem_singleton.mpr rfl,
    rfl⟩, .refl _⟩

end Sample

namespace LoginService

/-- A phone logs in with its name padded and lists its sessions a minute later with the bare name:
one entry is flagged. -/
theorem own_session_recognized_padded : ∃ w answer w₁ w₂ entries w₃ e, w.Reachable ∧
    (Sample.service.login Sample.fresh Sample.paddedRequest ⟨some " ", none⟩).run.Elapses
      FaultyStore.storage w (.ok answer) w₁ ∧
    w₁.Meanwhile World.DrawsFree w₂ ∧ w₁.now < w₂.now ∧
    (activeSessions answer.user.id Sample.bareHints ⟨none, none⟩).run.Elapses FaultyStore.storage w₂
      (.ok entries) w₃ ∧ entries.filter (·.isCurrent) = [e] := by
  have hw : World.Reachable (Sample.world []) := .of_store (Sample.reachable_world []) _
  -- What the login leaves is named, so that the list is not evaluated along with it.
  obtain ⟨answer, store, session, hrun, hopened, hactive⟩ : ∃ answer store session,
      outcome (Sample.service.login Sample.fresh Sample.paddedRequest ⟨some " ", none⟩)
        FaultyStore.storage (Sample.world []) =
          (.ok answer, ⟨.ofSeconds 0, .empty, ⟨store, []⟩⟩) ∧
      store.sessions.get? Sample.fresh.session.id = some session ∧
      session.isActive (.ofSeconds 60) = true := ⟨_, _, _, rfl, rfl, rfl⟩
  have hlogin := elapses_of_outcome hrun
  have hclock : Instant.ofSeconds 0 ≤ .ofSeconds 60 := by decide
  have hlater : World.Meanwhile World.DrawsFree ⟨.ofSeconds 0, .empty, ⟨store, []⟩⟩
      ⟨.ofSeconds 60, .empty, ⟨store, []⟩⟩ := .of_step (.tick hclock)
  obtain ⟨hanswered, hflagged⟩ := own_session_recognized Sample.service hw Sample.fresh
    Sample.paddedRequest ⟨some " ", none⟩ hlogin hlater Sample.bareHints ⟨none, none⟩
    Sample.alike_phone Sample.blank_space.alike_none (.refl none)
  obtain ⟨w₃, result, hend, hlisted⟩ : ∃ w₃ result, w₃.now = .ofSeconds 60 ∧
      outcome (activeSessions answer.user.id Sample.bareHints ⟨none, none⟩) FaultyStore.storage
        ⟨.ofSeconds 60, .empty, ⟨store, []⟩⟩ = (result, w₃) := ⟨_, _, now_outcome _ _, rfl⟩
  have hlisting := elapses_of_outcome hlisted
  have hst : store.Orderly := ((hw.meanwhile hlogin.meanwhile).meanwhile hlater).orderly
  obtain ⟨entries, hok, asked, used, hused⟩ := delivers_entries hst rfl _ _ _ _ _ hlisting
  rw [hok] at hlisting
  obtain ⟨c, t, hc, _, hle, _, hown⟩ := hflagged entries _ hlisting
  -- The session was used, which does not make it inactive, and the clock stood.
  have hcactive : c.isActive t = true := by
    unfold World.sessions at hc
    rw [hused.stored_eq] at hc
    have hc := (MemoryStore.get?_usedOn _).symm.trans hc
    rw [hopened] at hc
    cases hc
    rw [session.isActive_usedOn]
    rw [hend] at hle
    exact (Session.Onward.refl session).isActive hle hactive
  have hlt : Instant.ofSeconds 0 < .ofSeconds 60 := by decide
  exact ⟨_, answer, _, _, entries, _, _, hw, hlogin, hlater, hlt, hlisting, (hown hcactive).2.2⟩

end LoginService

end Gatehouse
