import Gatehouse.Proofs.Service.Timing

/-! # Operations one at a time

Operations run one after another in a world whose store was empty at first: so says `OneByOne`, of
every world that is met on the way, also in the midst of an operation.  The clock may go on at any
time, also while an operation runs, the graph may change, and store calls may be in trouble.

Each operation is in time from its beginning (`Operation.inTime`), so each of its calls finds the
store tidy and leaves it so (`World.Tidy.handler`); `sessions_well_formed` says what that makes of
every stored session. -/

namespace Gatehouse

/-! ### What a call makes of a session -/

/-- The time that a call writes down. -/
def StoreCall.time? : StoreCall → Option Instant
  | .rotate r => some r.now
  | .revoke _ _ now | .revokeAll _ _ now | .touch _ now => some now
  | _ => none

/-- The session was left alone by a call, or revoked or touched at the time of the call. -/
inductive StoreCall.Turns (call : StoreCall) (s : Session) : Session → Prop
  | same : Turns call s s
  | revoke {t : Instant} (h : call.time? = some t) (reason : String) :
    Turns call s (s.revoke reason t)
  | touch {t : Instant} (h : call.time? = some t) : Turns call s (s.touch t)

namespace MemoryStore

variable {st : MemoryStore}

theorem turns_of_map {call : StoreCall} {f : Uuid → Session → Session}
    (hf : ∀ k s, call.Turns s (f k s)) {id : Uuid} {s' : Session}
    (h : (st.sessions.map f).get? id = some s') :
    ∃ s, st.sessions.get? id = some s ∧ call.Turns s s' := by
  rw [Table.get?_map, Option.map_eq_some_iff] at h
  obtain ⟨s, hs, rfl⟩ := h
  exact ⟨s, hs, hf id s⟩

/-- A session that is stored after a call is the one that the call added, or it was there before. -/
theorem get?_after {call : StoreCall} {id : Uuid} {s' : Session}
    (h : (st.after call).sessions.get? id = some s') :
    (∃ r, call = .rotate r ∧ s' = r.session) ∨
      ∃ s, st.sessions.get? id = some s ∧ call.Turns s s' := by
  cases call with
  | rotate r =>
      rcases st.after_rotate r with heq | ⟨_, _, heq⟩
      · rw [heq] at h
        exact .inr ⟨s', h, .same⟩
      · rw [heq, get?_afterRotation] at h
        split_ifs at h with hid
        · exact .inl ⟨r, rfl, (Option.some.inj h).symm⟩
        · obtain ⟨s, hs, rfl⟩ := Option.map_eq_some_iff.mp h
          refine .inr ⟨s, hs, ?_⟩
          unfold rotated
          split_ifs
          · exact .revoke rfl _
          · exact .same
  | revoke id' reason now =>
      refine .inr ?_
      cases hs : st.sessions.get? id' with
      | none =>
          have heq : st.after (.revoke id' reason now) = st := by
            simp only [after, answer, revoke, hs]
          rw [heq] at h
          exact ⟨s', h, .same⟩
      | some s =>
          have heq : (st.after (.revoke id' reason now)).sessions =
              st.sessions.modify id' fun s => s.revoke reason now := by
            simp only [after, answer, revoke, hs]
          rw [heq] at h
          refine turns_of_map (fun k s => ?_) h
          dsimp only
          split_ifs
          · exact .revoke rfl _
          · exact .same
  | revokeAll userId reason now =>
      refine .inr (turns_of_map (fun k s => ?_) h)
      dsimp only
      split_ifs
      · exact .revoke rfl _
      · exact .same
  | touch id' now =>
      refine .inr (turns_of_map (fun k s => ?_) h)
      dsimp only
      split_ifs
      · exact .touch rfl
      · exact .same
  | findByTokenHash | findSession | listActive | findByEmail | findIdentity | roleAssignments
  | catalog => exact .inr ⟨s', h, .same⟩

end MemoryStore

/-! ### Tidy worlds -/

/-- The store is orderly, and every stored session is well formed. -/
structure World.Tidy (l : Lifetimes) (w : World FaultyStore) : Prop where
  orderly : w.stored.store.Orderly
  wellFormed : ∀ {id session}, w.sessions.get? id = some session → session.WellFormed l w.now

/-- Every stored session was issued by then. -/
def World.IssuedBy (t : Instant) (w : World FaultyStore) : Prop :=
  ∀ {id session}, w.sessions.get? id = some session → session.issuedAt ≤ t

namespace World.Tidy

variable {l : Lifetimes} {w : World FaultyStore} {t : Instant}

theorem issuedBy (h : w.Tidy l) : w.IssuedBy w.now := by
  intro id session hs
  have hwell := h.wellFormed hs
  exact Instant.le_trans hwell.issued hwell.used

/-- Time passes. -/
theorem tick (h : w.Tidy l) (ht : w.now ≤ t) : World.Tidy l { w with now := t } :=
  ⟨h.orderly, fun hs => (h.wellFormed hs).later ht⟩

/-- Only the clock and the sessions matter. -/
theorem of_sessions_eq {w' : World FaultyStore} (h : w.Tidy l) (hnow : w'.now = w.now)
    (hsessions : w'.sessions = w.sessions) : w'.Tidy l := by
  refine ⟨h.orderly.of_sessions_eq hsessions, fun hs => ?_⟩
  rw [hsessions] at hs
  rw [hnow]
  exact h.wellFormed hs

/-- A call that is in time leaves a tidy world, in which all sessions were issued by that time. -/
theorem handler (h : w.Tidy l) (ht : t ≤ w.now) (hissued : w.IssuedBy t) {op : Backend.Op}
    (hop : op.InTime l t) :
    World.Tidy l (World.handler FaultyStore.storage op w).2 ∧
      World.IssuedBy t (World.handler FaultyStore.storage op w).2 := by
  cases op with
  | now => exact ⟨h, hissued⟩
  | refuse tokenId expiresAt now => exact ⟨h.of_sessions_eq rfl rfl, hissued⟩
  | isRefused tokenId now => exact ⟨h, hissued⟩
  | health => exact ⟨h.of_sessions_eq rfl rfl, hissued⟩
  | store call =>
      change World.Tidy l { w with stored := (FaultyStore.answer call w.stored).2 } ∧
        World.IssuedBy t { w with stored := (FaultyStore.answer call w.stored).2 }
      -- A call that is in trouble leaves the store as it is.
      rcases FaultyStore.answer_store call w.stored with heq | heq
      · rw [heq]
        exact ⟨h, hissued⟩
      rw [heq]
      have htime : ∀ u, call.time? = some u → u = t := by
        intro u hu
        cases call <;> cases hu <;> first | exact hop | exact hop.1
      have hturned : ∀ {id session}, (w.stored.store.after call).sessions.get? id = some session →
          session.WellFormed l w.now ∧ session.issuedAt ≤ t := by
        intro id session hs
        rcases MemoryStore.get?_after hs with ⟨r, rfl, rfl⟩ | ⟨old, hold, hturns⟩
        · have hwell := hop.2
          exact ⟨hwell.later ht, Instant.le_trans hwell.issued hwell.used⟩
        · have hwell := h.wellFormed hold
          have hby := hissued hold
          cases hturns with
          | same => exact ⟨hwell, hby⟩
          | revoke hu reason =>
              obtain rfl := htime _ hu
              refine ⟨hwell.revoke hby ht reason, ?_⟩
              rw [(old.onward_revoke reason _).issuedAt_eq]
              exact hby
          | touch hu =>
              obtain rfl := htime _ hu
              exact ⟨hwell.touch hby ht, hby⟩
      exact ⟨⟨h.orderly.after call, fun hs => (hturned hs).1⟩, fun hs => (hturned hs).2⟩

/-- A session that a call in a tidy world finds has what its flavor calls for. -/
theorem expected (h : w.Tidy l) (op : Backend.Op) :
    op.Expected (World.handler FaultyStore.storage op w).1 := by
  cases op with
  | now | refuse | isRefused | health => trivial
  | store call =>
      cases call with
      | findByTokenHash hash =>
          change Backend.Op.Expected (.store (.findByTokenHash hash))
            (FaultyStore.answer (.findByTokenHash hash) w.stored).1
          cases ha : (FaultyStore.answer (.findByTokenHash hash) w.stored).1 with
          | error trouble => trivial
          | ok found =>
              obtain ⟨store, hanswer, _⟩ := FaultyStore.answer_eq_ok ha
              cases hanswer
              cases hfound : w.stored.store.findByTokenHash hash with
              | none => trivial
              | some session =>
                  exact (h.wellFormed (h.orderly.findByTokenHash_eq_some hfound).1).fits
      | _ => trivial

end World.Tidy

/-! ### Runs -/

/-- What is left of an operation. -/
abbrev Operation.Rest := Program Backend (Except Stop Operation.Reply)

/-- Worlds, and what is left of the operation that runs in them if one does, when operations run one
at a time. -/
inductive OneByOne (s : LoginService) :
    World FaultyStore → Option Operation.Rest → Prop
  /-- The store is empty. -/
  | start {w : World FaultyStore} (h : w.stored.store = .empty) : OneByOne s w none
  /-- The clock goes on. -/
  | tick {w : World FaultyStore} {rest : Option Operation.Rest}
    (h : OneByOne s w rest) {t : Instant} (ht : w.now ≤ t) : OneByOne s { w with now := t } rest
  /-- The graph is changed. -/
  | change {w : World FaultyStore} {rest : Option Operation.Rest}
    (h : OneByOne s w rest) (c : GraphChange) :
    OneByOne s { w with stored := { w.stored with store := w.stored.store.afterChange c } } rest
  /-- Store calls come to be in trouble, or to be out of it. -/
  | trouble {w : World FaultyStore} {rest : Option Operation.Rest}
    (h : OneByOne s w rest) (faults : List (String × StoreFault)) :
    OneByOne s { w with stored := { w.stored with faults } } rest
  /-- An operation begins if none runs. -/
  | begin {w : World FaultyStore} (h : OneByOne s w none) (o : Operation) :
    OneByOne s w (some (o.service s).run)
  /-- The operation makes its next call. -/
  | call {w : World FaultyStore} {op : Backend.Op}
    {next : Backend.Answer op → Operation.Rest}
    (h : OneByOne s w (some (.call op next))) :
    OneByOne s (World.handler FaultyStore.storage op w).2
      (some (next (World.handler FaultyStore.storage op w).1))
  /-- The operation is over. -/
  | finish {w : World FaultyStore} {result : Except Stop Operation.Reply}
    (h : OneByOne s w (some (.done result))) : OneByOne s w none

namespace OneByOne

variable {s : LoginService} {w : World FaultyStore}
  {rest : Option Operation.Rest}

/-- The world is tidy, and what is left of an operation is in time from a reading by which all
sessions were issued. -/
theorem invariant (h : OneByOne s w rest) : w.Tidy s.lifetimes ∧
    ∀ p ∈ rest, ∃ t, t ≤ w.now ∧ w.IssuedBy t ∧
      p.InTime s.lifetimes (fun t' => Service.Wanted (Service.AtAnyTime t')) t := by
  induction h with
  | @start w h =>
      refine ⟨⟨?_, ?_⟩, nofun⟩
      · rw [h]
        exact MemoryStore.orderly_empty
      · intro id session hs
        rw [World.sessions, h] at hs
        cases hs
  | tick _ ht ih =>
      obtain ⟨htidy, hrest⟩ := ih
      refine ⟨htidy.tick ht, fun p hp => ?_⟩
      obtain ⟨t, hnow, hissued, hin⟩ := hrest p hp
      exact ⟨t, Instant.le_trans hnow ht, hissued, hin⟩
  | @change w _ _ c ih =>
      obtain ⟨htidy, hrest⟩ := ih
      have hsessions := (MemoryStore.afterChange_edits w.stored.store c).sessions
      refine ⟨htidy.of_sessions_eq rfl hsessions, fun p hp => ?_⟩
      obtain ⟨t, hnow, hissued, hin⟩ := hrest p hp
      refine ⟨t, hnow, fun hs => ?_, hin⟩
      rw [World.sessions, hsessions] at hs
      exact hissued hs
  | trouble _ faults ih =>
      obtain ⟨htidy, hrest⟩ := ih
      exact ⟨htidy.of_sessions_eq rfl rfl, hrest⟩
  | @begin w _ o ih =>
      obtain ⟨htidy, _⟩ := ih
      refine ⟨htidy, fun p hp => ?_⟩
      cases hp
      exact ⟨w.now, Instant.le_refl _, htidy.issuedBy, o.inTime s w.now⟩
  | @call w op next _ ih =>
      obtain ⟨htidy, hrest⟩ := ih
      obtain ⟨t, hnow, hissued, hin⟩ := hrest _ rfl
      cases hin with
      | now hnext =>
          refine ⟨htidy, fun p hp => ?_⟩
          cases hp
          exact ⟨w.now, Instant.le_refl _, htidy.issuedBy, hnext w.now hnow⟩
      | call hop hin hnext =>
          obtain ⟨htidy', hissued'⟩ := htidy.handler hnow hissued hin
          refine ⟨htidy', fun p hp => ?_⟩
          cases hp
          rw [World.now_handler]
          exact ⟨t, hnow, hissued', hnext _ (htidy.expected op)⟩
  | finish _ ih => exact ⟨ih.1, nofun⟩

/-- An operation runs to its end. -/
theorem run {p : Operation.Rest} (h : OneByOne s w (some p)) :
    OneByOne s (p.run (World.handler FaultyStore.storage) w).2 none := by
  induction p generalizing w with
  | done result => exact h.finish
  | call op next ih => exact ih _ h.call

theorem operation (h : OneByOne s w none) (o : Operation) :
    OneByOne s (Service.outcome (o.service s) FaultyStore.storage w).2 none :=
  (h.begin o).run

/-- **Every stored session is well formed,** at every moment of operations that run one at a time
over a store that was empty, as the clock goes on.  A mobile session expires sixty days after its
issue, and has an application version, but neither a user agent nor an address; a web session
expires after the configured days, thirty if these are zero, and has a user agent, but no
application version.  A session was last used between its issue and now, it is revoked if and only
if it has a reason for it and if and only if it has a time of it, and that lies between its issue
and now.  A token digest has 32 bytes and is stored once. -/
theorem sessions_well_formed (h : OneByOne s w rest) :
    (∀ session ∈ w.sessions.values,
      (session.flavor = .mobile →
        session.issuedAt.add? (.ofDays 60) = some session.expiresAt ∧
        session.appVersion.isSome = true ∧ session.userAgent = none ∧ session.ipAddress = none) ∧
      (session.flavor = .web →
        session.issuedAt.add?
            (.ofDays (if s.settings.refreshDays = 0 then 30 else s.settings.refreshDays)) =
          some session.expiresAt ∧
        session.userAgent.isSome = true ∧ session.appVersion = none) ∧
      session.issuedAt ≤ session.lastUsed ∧ session.lastUsed ≤ w.now ∧
      (session.revoked = true ↔ session.revokedReason.isSome = true) ∧
      (session.revoked = true ↔ session.revokedAt.isSome = true) ∧
      (∀ t, session.revokedAt = some t → session.issuedAt ≤ t ∧ t ≤ w.now) ∧
      session.tokenHash.length = 32) ∧
    ∀ hash, (w.sessions.values.filter (·.tokenHash = hash)).length ≤ 1 := by
  obtain ⟨htidy, _⟩ := h.invariant
  refine ⟨fun session hmem => ?_, fun hash => ?_⟩
  · obtain ⟨id, hs⟩ := (Table.mem_values htidy.orderly.distinct).mp hmem
    have hwell := htidy.wellFormed hs
    have hlifetime := hwell.lifetime
    have hfits := hwell.fits
    unfold Session.FitsFlavor at hfits
    refine ⟨fun hflavor => ?_, fun hflavor => ?_, hwell.issued, hwell.used, ?_, ?_,
      hwell.revokedIn, hwell.hash⟩
    · rw [hflavor] at hlifetime hfits
      exact ⟨hlifetime, hfits⟩
    · rw [hflavor] at hlifetime hfits
      exact ⟨hlifetime, hfits⟩
    · rw [hwell.reason]
    · rw [hwell.time]
  · refine Table.length_filter_values_le_one htidy.orderly.distinct
      fun k k' t t' ht ht' he he' => ?_
    rw [decide_eq_true_eq] at he he'
    exact htidy.orderly.hash_unique ht ht' (he.trans he'.symm)

/-- A login from a phone, and a minute later all sessions of the account are revoked: the record
says so, and expires when it was to. -/
theorem sessions_well_formed_phone : ∃ w session,
    OneByOne Sample.service w none ∧ session ∈ w.sessions.values ∧
      session.issuedAt = .ofSeconds 0 ∧ session.revokedAt = some (.ofSeconds 60) ∧
      session.revoked = true ∧ session.appVersion.isSome = true ∧
      session.issuedAt.add? (.ofDays 60) = some session.expiresAt := by
  have hstart : OneByOne Sample.service ⟨.ofSeconds 0, .empty, ⟨.empty, []⟩⟩ none := .start rfl
  have hregistered : OneByOne Sample.service (Sample.world []) none :=
    hstart.change (.insertIdentity Sample.identity)
  have hlogin := hregistered.operation (.login Sample.fresh Sample.request ⟨none, none⟩)
  -- What the login leaves is named, so that the revocation is evaluated on its own.
  obtain ⟨store, session, hend, hopened, hholder, hflavor, hissued, hunrevoked⟩ :
      ∃ store session,
        (Service.outcome ((Operation.login Sample.fresh Sample.request ⟨none, none⟩).service
          Sample.service) FaultyStore.storage (Sample.world [])).2 =
            ⟨.ofSeconds 0, .empty, ⟨store, []⟩⟩ ∧
        store.sessions.get? Sample.fresh.session.id = some session ∧
        session.userId = Sample.identity.id ∧ session.flavor = .mobile ∧
        session.issuedAt = .ofSeconds 0 ∧ session.revoked = false :=
    ⟨_, _, rfl, rfl, rfl, rfl, rfl, rfl⟩
  rw [hend] at hlogin
  have hlater := hlogin.tick (t := .ofSeconds 60) (show Instant.ofSeconds 0 ≤ _ by decide)
  have hrevoke : OneByOne Sample.service ⟨.ofSeconds 60, .empty,
      ⟨store.after (.revokeAll Sample.identity.id "Lost" (.ofSeconds 60)), []⟩⟩ none :=
    hlater.operation (.revokeAll Sample.identity.id "Lost")
  have hstored : (store.after (.revokeAll Sample.identity.id "Lost" (.ofSeconds 60))).sessions.get?
      Sample.fresh.session.id = some { session with
        revoked := true, revokedReason := some "Lost", revokedAt := some (.ofSeconds 60) } := by
    simp [MemoryStore.after, MemoryStore.answer, MemoryStore.revokeAll, Table.get?_map, hopened,
      hholder, hunrevoked, Session.revoke_of_not_revoked hunrevoked]
  have hmem := List.mem_map_of_mem (f := (·.2)) (Table.mem_entries_of_get? hstored)
  obtain ⟨hmobile, _, _, _, _, htime, _⟩ := (sessions_well_formed hrevoke).1 _ hmem
  obtain ⟨hexpires, hversion, _⟩ := hmobile hflavor
  exact ⟨_, _, hrevoke, hmem, hissued, rfl, htime.mpr rfl, hversion, hexpires⟩

end OneByOne

end Gatehouse
