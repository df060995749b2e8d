import Gatehouse.Proofs.Service.Elapse
import Gatehouse.Proofs.Service.LoginSuccess
import Gatehouse.Proofs.Service.OneByOne
import Gatehouse.Proofs.Store.Listing

/-! # Where an identity is logged in

A user who asks for the active sessions from a device uses the session on that device, and then has
the sessions listed.  `LoginService.Listing` says what the list is and what became of the world, by
the three times at which the clock is read on the way.  `activeSessions_listing` proves it of every
world that operations one at a time lead to.  At most one entry is flagged since the store is
orderly, and the others were used no later since the world is tidy. -/

namespace Gatehouse

open Service

variable {w w' : World FaultyStore} {userId : Uuid} {device : String}
  {asked used listed : Instant}

/-- The world after the use of the user's session on a device. -/
def World.usedOn (w : World FaultyStore) (userId : Uuid) (device : String)
    (asked used : Instant) : World FaultyStore :=
  { w with stored := { w.stored with store := w.stored.store.usedOn userId device asked used } }

/-- The user's sessions were listed for a device: at the first time its session was looked for, at
the second it was used if there was one, and at the third the sessions were listed. -/
structure LoginService.Listing (userId : Uuid) (device : String) (asked used listed : Instant)
    (w w' : World FaultyStore) (entries : List SessionSummary) : Prop where
  times : w.now ≤ asked ∧ asked ≤ used ∧ used ≤ listed ∧ listed ≤ w'.now
  /-- There is one entry for each active session of the user, and no other. -/
  complete : entries.Perm ((w'.sessions.values.filter fun t =>
    t.userId = userId && t.isActive listed).map (·.summary device))
  ordered : entries.Pairwise fun e e' => e'.lastUsed ≤ e.lastUsed
  /-- At most one entry is flagged, and one is exactly if the user is active on the device. -/
  alone : (entries.filter (·.isCurrent)).length ≤ 1
  flagged : (∃ e ∈ entries, e.isCurrent = true) ↔ ∃ t ∈ w.sessions.values,
    t.userId = userId ∧ t.deviceId = device ∧ t.isActive listed = true
  /-- The flagged entry was used just now, and no entry later. -/
  newest : ∀ e ∈ entries, e.isCurrent = true →
    e.lastUsed = used ∧ ∀ e' ∈ entries, e'.lastUsed ≤ e.lastUsed
  /-- Only the use was noted, and the clock went on. -/
  world : w' = { w.usedOn userId device asked used with now := w'.now }

/-! ### The parts of the service -/

/-- A service that runs by itself does not move the clock. -/
theorem Service.now_outcome {α : Type} (p : Service α) (w : World FaultyStore) :
    (outcome p FaultyStore.storage w).2.now = w.now := by
  unfold outcome
  induction p.run generalizing w with
  | done a => rfl
  | call op next ih =>
      have hcall : (World.handler FaultyStore.storage op w).2.now = w.now := World.now_handler op w
      exact (ih _ _).trans hcall

/-- A call of a store without faults is answered by it. -/
theorem Service.Delivers.sound (call : StoreCall) {reply : call.Reply} {st : MemoryStore}
    (hf : w.stored.faults = []) (h : w.stored.store.answer call = .ok (reply, st))
    (context : Option String) :
    Delivers FaultyStore.storage w (fun r w' => r = reply ∧
      World.Elapsed { w with stored := { w.stored with store := st } } w')
      (Service.store call context) :=
  Delivers.store (FaultyStore.answer_ok (FaultyStore.lookup_of_sound hf _) h) context

namespace Sessions

theorem delivers_touch (hf : w.stored.faults = []) (id : Uuid) :
    Delivers FaultyStore.storage w (fun _ w' => ∃ used, w.now ≤ used ∧ used ≤ w'.now ∧
      World.Elapsed { w with stored := { w.stored with store := w.stored.store.touch id used } } w')
      (touch id) := by
  unfold touch
  refine Delivers.now.bind fun used w₁ ⟨hused, hw₁, helapsed⟩ => ?_
  rw [← helapsed.stored_eq] at hf
  refine (Delivers.sound (.touch id used) hf rfl _).mono fun _ w' ⟨_, hend⟩ => ?_
  rw [helapsed.stored_eq] at hend
  exact ⟨used, hused, Instant.le_trans hw₁ hend.le, (helapsed.store _).trans hend⟩

/-- To touch a device notes the use of the session that is active there. -/
theorem delivers_touchDevice (hst : w.stored.store.Orderly) (hf : w.stored.faults = [])
    (userId : Uuid) (device : String) :
    Delivers FaultyStore.storage w (fun _ w' => ∃ asked used, w.now ≤ asked ∧ asked ≤ used ∧
      used ≤ w'.now ∧ (w.usedOn userId device asked used).Elapsed w')
      (touchDevice userId device) := by
  unfold touchDevice
  refine Delivers.now.bind fun asked w₁ ⟨hasked, hw₁, helapsed₁⟩ => ?_
  have hstored₁ := helapsed₁.stored_eq
  refine (Delivers.sound (.listActive userId asked) (hstored₁ ▸ hf) rfl none).bind
    fun sessions w₂ ⟨hsessions, helapsed₂⟩ => ?_
  have helapsed : w.Elapsed w₂ := helapsed₁.trans helapsed₂
  have hasked₂ : asked ≤ w₂.now := Instant.le_trans hw₁ helapsed₂.le
  rw [hstored₁] at hsessions
  cases hfound : sessions.find? (·.deviceId == device) with
  | none =>
      rw [hsessions] at hfound
      refine Delivers.pure fun w' hend => ⟨asked, asked, hasked, Instant.le_refl _,
        Instant.le_trans hasked₂ hend.le, ?_⟩
      rw [World.usedOn, MemoryStore.usedOn_eq_self hfound]
      exact helapsed.trans hend
  | some session =>
      rw [hsessions] at hfound
      have hf₂ : w₂.stored.faults = [] := by rw [helapsed.stored_eq, hf]
      refine (delivers_touch hf₂ session.id).bind fun _ w₃ ⟨used, hused, hw₃, helapsed₃⟩ => ?_
      rw [helapsed.stored_eq, hst.touch_eq_usedOn hfound] at helapsed₃
      exact Delivers.pure fun w' hend => ⟨asked, used, hasked, Instant.le_trans hasked₂ hused,
        Instant.le_trans hw₃ hend.le, ((helapsed.store _).trans helapsed₃).trans hend⟩

theorem delivers_list (hf : w.stored.faults = []) (userId : Uuid) (device : String) :
    Delivers FaultyStore.storage w (fun entries w' => w.Elapsed w' ∧ ∃ listed, w.now ≤ listed ∧
      listed ≤ w'.now ∧
      entries = (w.stored.store.listActive userId listed).map (·.summary device))
      (list userId device) := by
  unfold list
  refine Delivers.now.bind fun listed w₁ ⟨hlisted, hw₁, helapsed₁⟩ => ?_
  have hstored₁ := helapsed₁.stored_eq
  refine (Delivers.sound (.listActive userId listed) (hstored₁ ▸ hf) rfl none).bind
    fun sessions w₂ ⟨hsessions, helapsed₂⟩ => ?_
  rw [hstored₁] at hsessions
  rw [hsessions]
  exact Delivers.pure fun w' hend => ⟨helapsed₁.trans (helapsed₂.trans hend), listed, hlisted,
    Instant.le_trans hw₁ (Instant.le_trans helapsed₂.le hend.le), rfl⟩

end Sessions

namespace LoginService

/-! ### The list -/

section Listing

variable {st : MemoryStore}

/-- The entries of the list are the user's active sessions after the use. -/
theorem mem_entries {e : SessionSummary} :
    e ∈ ((st.usedOn userId device asked used).listActive userId listed).map (·.summary device) ↔
      ∃ t ∈ st.sessions.values, t.userId = userId ∧ t.isActive listed = true ∧
        e = (t.usedOn userId device asked used).summary device := by
  rw [List.mem_map]
  constructor
  · rintro ⟨t', ht', rfl⟩
    obtain ⟨hmem, huser, hactive⟩ := MemoryStore.mem_listActive.mp ht'
    obtain ⟨t, ht, rfl⟩ := MemoryStore.mem_values_usedOn.mp hmem
    rw [t.onward_usedOn.userId_eq] at huser
    rw [t.isActive_usedOn] at hactive
    exact ⟨t, ht, huser, hactive, rfl⟩
  · rintro ⟨t, ht, huser, hactive, rfl⟩
    refine ⟨_, MemoryStore.mem_listActive.mpr ⟨?_, ?_, ?_⟩, rfl⟩
    · exact MemoryStore.mem_values_usedOn.mpr ⟨t, ht, rfl⟩
    · rw [t.onward_usedOn.userId_eq, huser]
    · rw [t.isActive_usedOn, hactive]

theorem isCurrent_iff {t : Session} :
    ((t.usedOn userId device asked used).summary device).isCurrent = true ↔
      t.deviceId = device := by
  change ((t.usedOn userId device asked used).deviceId == device) = true ↔ _
  rw [beq_iff_eq, t.onward_usedOn.deviceId_eq]

end Listing

/-- What is listed after the use of the session on a device. -/
theorem listing_of_usedOn {l : Lifetimes} (hw : w.Tidy l) (hasked : w.now ≤ asked)
    (hused : asked ≤ used) (hlisted : used ≤ listed) (hnow : listed ≤ w'.now)
    (helapsed : (w.usedOn userId device asked used).Elapsed w') :
    Listing userId device asked used listed w w'
      (((w.stored.store.usedOn userId device asked used).listActive userId listed).map
        (·.summary device)) := by
  have hactive : ∀ {t : Session}, t.isActive listed = true → t.isActive asked = true :=
    (Session.Onward.refl _).isActive (Instant.le_trans hused hlisted)
  have hbefore : ∀ t ∈ w.sessions.values, t.lastUsed ≤ used := by
    intro t ht
    obtain ⟨id, hid⟩ := (Table.mem_values hw.orderly.distinct).mp ht
    exact Instant.le_trans (hw.wellFormed hid).used (Instant.le_trans hasked hused)
  refine
    { times := ⟨hasked, hused, hlisted, hnow⟩
      complete := ?_
      ordered := List.pairwise_map.mpr (MemoryStore.pairwise_listActive _ _ _)
      alone := ?_
      flagged := ?_
      newest := ?_
      world := helapsed.eq }
  · rw [World.sessions, helapsed.stored_eq]
    exact perm_listActive _ _ _ _
  · rw [List.filter_map, List.length_map]
    exact hw.orderly.usedOn.length_filter_listActive_le_one userId listed device
  · constructor
    · rintro ⟨e, he, hcurrent⟩
      obtain ⟨t, ht, huser, ha, rfl⟩ := mem_entries.mp he
      exact ⟨t, ht, huser, isCurrent_iff.mp hcurrent, ha⟩
    · rintro ⟨t, ht, huser, hdevice, ha⟩
      exact ⟨_, mem_entries.mpr ⟨t, ht, huser, ha, rfl⟩, isCurrent_iff.mpr hdevice⟩
  · intro e he hcurrent
    obtain ⟨t, ht, huser, ha, rfl⟩ := mem_entries.mp he
    have hlast : ((t.usedOn userId device asked used).summary device).lastUsed = used :=
      Session.lastUsed_usedOn huser (isCurrent_iff.mp hcurrent) (hactive ha)
    refine ⟨hlast, fun e' he' => ?_⟩
    obtain ⟨t', ht', _, _, rfl⟩ := mem_entries.mp he'
    rw [hlast]
    exact Session.lastUsed_usedOn_le (hbefore t' ht')

/-- The sessions are listed, however the clock goes on. -/
theorem delivers_activeSessions {l : Lifetimes} (hw : w.Tidy l) (hf : w.stored.faults = [])
    (userId : Uuid) (hints : ClientHints) (transport : Transport) :
    Delivers FaultyStore.storage w (fun entries w' => ∃ asked used listed,
      Listing userId (Client.classify hints transport).deviceId asked used listed w w' entries)
      (activeSessions userId hints transport) := by
  unfold activeSessions
  refine Delivers.withDeadline _ ((Sessions.delivers_touchDevice hw.orderly hf userId _).bind ?_)
  rintro _ w₁ ⟨asked, used, hasked, hused, hw₁, helapsed₁⟩
  have hf₁ : w₁.stored.faults = [] := by
    rw [helapsed₁.stored_eq]
    exact hf
  refine (Sessions.delivers_list hf₁ userId _).mono fun entries w' h => ?_
  obtain ⟨helapsed, listed, hlisted, hnow, hentries⟩ := h
  rw [hentries, helapsed₁.stored_eq]
  exact ⟨asked, used, listed, listing_of_usedOn hw hasked hused (Instant.le_trans hw₁ hlisted) hnow
    (helapsed₁.trans helapsed)⟩

/-- **Listing active sessions is complete, ordered and counts as use,** in every world that
operations one at a time lead to, as long as no store call is in trouble.  While the clock stands,
the service answers with the active sessions of the user, and does all at the one time; and however
the clock goes on meanwhile, it answers with a list as of the time at which it was made.  The list
has one entry for each active session and no other, the last used first; at most one is flagged, and
one is if and only if the user has an active session on the device of the client; that one was used
just now, and none later; and the store is as it was, apart from that use. -/
theorem activeSessions_listing {s : LoginService} (h : OneByOne s w none)
    (hf : w.stored.faults = []) (userId : Uuid) (hints : ClientHints) (transport : Transport) :
    let device := (Client.classify hints transport).deviceId
    let service := activeSessions userId hints transport
    (∃ entries w', outcome service FaultyStore.storage w = (.ok entries, w') ∧ w'.now = w.now ∧
      Listing userId device w.now w.now w.now w w' entries) ∧
    Delivers FaultyStore.storage w (fun entries w' => ∃ asked used listed,
      Listing userId device asked used listed w w' entries) service := by
  intro device service
  have hdelivers := delivers_activeSessions h.invariant.1 hf userId hints transport
  refine ⟨?_, hdelivers⟩
  obtain ⟨entries, hok, asked, used, listed, hlisting⟩ :=
    hdelivers _ _ (Program.elapses_run FaultyStore.storage service.run w)
  have hclock := now_outcome service w
  refine ⟨entries, (outcome service FaultyStore.storage w).2, Prod.ext hok rfl, hclock, ?_⟩
  -- The clock stands, so that each of its readings is the first one.
  obtain ⟨hasked, hused, hlisted, hnow⟩ := hlisting.times
  have hend : listed ≤ w.now := Instant.le_trans hnow (hclock ▸ Instant.le_refl _)
  have hlisted' : used ≤ w.now := Instant.le_trans hlisted hend
  have hused' : asked ≤ w.now := Instant.le_trans hused hlisted'
  obtain rfl : asked = w.now := Instant.le_antisymm hused' hasked
  obtain rfl : used = w.now := Instant.le_antisymm hlisted' hused
  obtain rfl : listed = w.now := Instant.le_antisymm hend hlisted
  exact hlisting

/-- A minute after the login of a phone its sessions are listed for it: the one that it opened is
flagged, and was used just now. -/
theorem activeSessions_listing_phone : ∃ w entries w', OneByOne Sample.service w none ∧
    w.stored.faults = [] ∧
    outcome (activeSessions Sample.identity.id Sample.request.hints ⟨none, none⟩)
      FaultyStore.storage w = (.ok entries, w') ∧
    ∃ e ∈ entries, e.isCurrent = true ∧ e.lastUsed = .ofSeconds 60 := by
  have hstart : OneByOne Sample.service ⟨.ofSeconds 0, .empty, ⟨.empty, []⟩⟩ none := .start rfl
  have hregistered : OneByOne Sample.service (Sample.world []) none :=
    hstart.change (.insertIdentity Sample.identity)
  have hlogin := hregistered.operation (.login Sample.fresh Sample.request ⟨none, none⟩)
  -- What the login leaves is named, so that the list is not evaluated along with it.
  obtain ⟨store, session, hend, hopened, hholder, hdevice, hactive⟩ :
      ∃ store session,
        (outcome ((Operation.login Sample.fresh Sample.request ⟨none, none⟩).service
          Sample.service) FaultyStore.storage (Sample.world [])).2 =
            ⟨.ofSeconds 0, .empty, ⟨store, []⟩⟩ ∧
        store.sessions.get? Sample.fresh.session.id = some session ∧
        session.userId = Sample.identity.id ∧
        session.deviceId = (Client.classify Sample.request.hints ⟨none, none⟩).deviceId ∧
        session.isActive (.ofSeconds 60) = true :=
    ⟨_, _, rfl, rfl, rfl, rfl, rfl⟩
  rw [hend] at hlogin
  have hlater := hlogin.tick (t := .ofSeconds 60) (show Instant.ofSeconds 0 ≤ _ by decide)
  obtain ⟨⟨entries, w', houtcome, _, hlisting⟩, _⟩ := activeSessions_listing hlater rfl
    Sample.identity.id Sample.request.hints ⟨none, none⟩
  have hmem := List.mem_map_of_mem (f := (·.2)) (Table.mem_entries_of_get? hopened)
  obtain ⟨e, he, hcurrent⟩ := hlisting.flagged.mpr ⟨session, hmem, hholder, hdevice, hactive⟩
  exact ⟨_, entries, w', hlater, rfl, houtcome, e, he, hcurrent, (hlisting.newest e he hcurrent).1⟩

end LoginService

end Gatehouse
