import Gatehouse.Proofs.Service.Answers
import Gatehouse.Service.Authorization

/-! # What can be told of faults from outside

Two worlds are *alike* if they differ in nothing but how the store calls named in the table of
faults go wrong: whether such a call fails, with which cause, or never answers.  A service is
*blind* to the difference if from worlds that are alike it ends with the same value, or stops in
both, and leaves worlds that are alike.  How stops may differ is a relation between them: as long as
no deadline is set, trouble of every kind may stand for any other (`Waiting`); behind a deadline no
call is left without an answer, and only the causes of failures of the infrastructure differ
(`Ended`).  A deadline leads from the one to the other (`Blind.withDeadline`), and chains keep both
(`Blind.bind`).  The services of logins and of authorization set a deadline around all that they
ask of the store, so they are blind in the second sense. -/

namespace Gatehouse

/-- The stores have the same contents, and the tables of faults name the same calls. -/
structure FaultyStore.Alike (st st' : FaultyStore) : Prop where
  store : st.store = st'.store
  faults : ∀ call : StoreCall,
    (st.faults.lookup call.label).isSome = (st'.faults.lookup call.label).isSome

/-- The worlds differ in nothing but how the calls in the tables of faults go wrong. -/
structure World.Alike (w w' : World FaultyStore) : Prop where
  now : w.now = w'.now
  blacklist : w.blacklist = w'.blacklist
  stored : w.stored.Alike w'.stored

/-! ### Stops that differ by a fault -/

namespace Stop

/-- A store call failed or never answers. -/
inductive IsTrouble : Stop → Prop
  | stalled : IsTrouble .stalled
  | failed (cause : Cause) : IsTrouble (.refused (.infrastructure cause))

/-- The stops are the same but for the causes of failures, and neither is a call without an
answer. -/
inductive Ended : Stop → Stop → Prop
  | refused (failure : Failure) : Ended (.refused failure) (.refused failure)
  | failed (cause cause' : Cause) :
      Ended (.refused (.infrastructure cause)) (.refused (.infrastructure cause'))
  | broken : Ended .broken .broken

/-- The stops are the same, or in both of them there is trouble with the store. -/
inductive Waiting : Stop → Stop → Prop
  | ended {stop stop' : Stop} (h : Ended stop stop') : Waiting stop stop'
  | trouble {stop stop' : Stop} (h : stop.IsTrouble) (h' : stop'.IsTrouble) : Waiting stop stop'

theorem isTrouble_stopOf (context : Option String) (fault : StoreFault) :
    (Service.stopOf context fault.trouble).IsTrouble := by
  cases fault with
  | fails message => exact .failed _
  | stalls => exact .stalled

theorem IsTrouble.deadlined {stop : Stop} (h : stop.IsTrouble) (context : String) :
    ∃ cause, Service.deadlined context stop = .refused (.infrastructure cause) := by
  cases h with
  | stalled => exact ⟨_, rfl⟩
  | failed cause => exact ⟨cause, rfl⟩

/-- Behind a deadline the difference between trouble and trouble is one of causes. -/
theorem Waiting.deadlined {stop stop' : Stop} (h : Waiting stop stop') (context : String) :
    Ended (Service.deadlined context stop) (Service.deadlined context stop') := by
  cases h with
  | ended h =>
      cases h with
      | refused failure => exact .refused failure
      | failed cause cause' => exact .failed cause cause'
      | broken => exact .broken
  | trouble h h' =>
      obtain ⟨cause, hc⟩ := h.deadlined context
      obtain ⟨cause', hc'⟩ := h'.deadlined context
      rw [hc, hc']
      exact .failed cause cause'

end Stop

namespace Service

variable {α β : Type} {R R' : Stop → Stop → Prop}

/-- Two runs end with the same value, or with stops that are related, in worlds that are alike. -/
inductive EndsAlike (R : Stop → Stop → Prop) :
    Except Stop α × World FaultyStore → Except Stop α × World FaultyStore → Prop
  | ok {w w' : World FaultyStore} (a : α) (h : w.Alike w') : EndsAlike R (.ok a, w) (.ok a, w')
  | error {stop stop' : Stop} {w w' : World FaultyStore} (hstop : R stop stop') (h : w.Alike w') :
      EndsAlike R (.error stop, w) (.error stop', w')

theorem EndsAlike.worlds {run run' : Except Stop α × World FaultyStore}
    (h : EndsAlike R run run') : run.2.Alike run'.2 := by
  cases h with
  | ok a h => exact h
  | error hstop h => exact h

/-- From worlds that are alike the service ends alike. -/
def Blind (R : Stop → Stop → Prop) (p : Service α) : Prop :=
  ∀ ⦃w w' : World FaultyStore⦄, w.Alike w' →
    EndsAlike R (outcome p FaultyStore.storage w) (outcome p FaultyStore.storage w')

namespace Blind

/-! ### The parts of a service -/

theorem pure (a : α) : Blind R (pure a : Service α) := fun _ _ h => .ok a h

theorem bind {p : Service α} {f : α → Service β} (hp : Blind R p) (hf : ∀ a, Blind R (f a)) :
    Blind R (p >>= f) := by
  intro w w' h
  have hend := hp h
  rw [outcome_bind, outcome_bind]
  generalize outcome p FaultyStore.storage w = run, outcome p FaultyStore.storage w' = run'
    at hend ⊢
  cases hend with
  | ok a h => exact hf a h
  | error hstop h => exact .error hstop h

theorem map (f : α → β) {p : Service α} (hp : Blind R p) : Blind R (f <$> p) := by
  rw [map_eq_pure_bind]
  exact hp.bind fun a => pure (f a)

/-- Without a deadline more stops may stand for each other. -/
theorem waiting {p : Service α} (hp : Blind Stop.Ended p) : Blind Stop.Waiting p := by
  intro w w' h
  have hend := hp h
  generalize outcome p FaultyStore.storage w = run, outcome p FaultyStore.storage w' = run'
    at hend ⊢
  cases hend with
  | ok a h => exact .ok a h
  | error hstop h => exact .error (.ended hstop) h

theorem now : Blind R now := by
  intro w w' h
  rw [outcome_now, outcome_now, h.now]
  exact .ok _ h

theorem askRefuse (tokenId : String) (expiresAt now : Instant) :
    Blind R (ask (.refuse tokenId expiresAt now)) := by
  intro w w' h
  rw [outcome_ask, outcome_ask]
  exact .ok () ⟨h.now, congrArg (·.revoke tokenId expiresAt now) h.blacklist, h.stored⟩

theorem askRefused (tokenId : String) (now : Instant) :
    Blind R (ask (.isRefused tokenId now)) := by
  intro w w' h
  have hasked : ∀ v : World FaultyStore, outcome (ask (.isRefused tokenId now))
      FaultyStore.storage v = (.ok (v.blacklist.isRevoked tokenId now), v) := fun _ => rfl
  rw [hasked, hasked, h.blacklist]
  exact .ok _ h

theorem askHealth : Blind R (ask .health) := fun _ _ h => .ok _ h

theorem refuse (failure : Failure) : Blind Stop.Ended (refuse failure : Service α) :=
  fun _ _ h => .error (.refused failure) h

theorem require (failure : Failure) (a : Option α) : Blind Stop.Ended (require failure a) := by
  cases a with
  | none => exact refuse failure
  | some a => exact pure a

theorem inCalendar (a : Option α) : Blind Stop.Ended (inCalendar a) := by
  cases a with
  | none => exact fun _ _ h => .error .broken h
  | some a => exact pure a

theorem accept (check : Except Failure Unit) : Blind Stop.Ended (accept check) := by
  cases check with
  | error failure => exact refuse failure
  | ok _ => exact pure ()

/-- A store call is faulted in both worlds or answered alike in both. -/
theorem store (call : StoreCall) (context : Option String) :
    Blind Stop.Waiting (store call context) := by
  intro w w' h
  have hfaults := h.stored.faults call
  have hanswer : w'.stored.store.answer call = w.stored.store.answer call := by
    rw [h.stored.store]
  cases hf : w.stored.faults.lookup call.label with
  | some fault =>
      cases hf' : w'.stored.faults.lookup call.label with
      | none => simp [hf, hf'] at hfaults
      | some fault' =>
          rw [outcome_faulted call hf, outcome_faulted call hf']
          exact .error (.trouble (Stop.isTrouble_stopOf _ _) (Stop.isTrouble_stopOf _ _)) h
  | none =>
      cases hf' : w'.stored.faults.lookup call.label with
      | some fault' => simp [hf, hf'] at hfaults
      | none =>
          cases ha : w.stored.store.answer call with
          | error cause =>
              rw [outcome_store_error (FaultyStore.answer_refused hf ha),
                outcome_store_error (FaultyStore.answer_refused hf' (hanswer.trans ha))]
              exact .error (.trouble (.failed _) (.failed _)) h
          | ok result =>
              obtain ⟨reply, st⟩ := result
              rw [outcome_store_ok (FaultyStore.answer_ok hf ha),
                outcome_store_ok (FaultyStore.answer_ok hf' (hanswer.trans ha))]
              exact .ok reply ⟨h.now, h.blacklist, rfl, h.stored.faults⟩

/-- Under a deadline trouble is told as a failure of the infrastructure, whatever it is. -/
theorem withDeadline {p : Service α} (hp : Blind Stop.Waiting p) (context : String) :
    Blind Stop.Ended (withDeadline context p) := by
  intro w w' h
  have hend := hp h
  rw [outcome_withDeadline, outcome_withDeadline]
  generalize outcome p FaultyStore.storage w = run, outcome p FaultyStore.storage w' = run'
    at hend ⊢
  cases hend with
  | ok a h => exact .ok a h
  | error hstop h => exact .error (hstop.deadlined context) h

end Blind

end Service

/-! ### Services under a deadline -/

open Service

namespace Credentials

theorem blind_verify (c : Credentials) (email password : String) :
    Blind Stop.Waiting (c.verify email password) := by
  unfold verify
  refine (Blind.store _ none).bind fun found => ?_
  refine (Blind.require _ _).waiting.bind fun identity => ?_
  split
  · exact .pure identity
  · exact (Blind.refuse _).waiting

end Credentials

namespace Sessions

theorem blind_prepare (l : Lifetimes) (seed : SessionSeed) (userId : Uuid) (client : ClientInfo) :
    Blind Stop.Waiting (prepare l seed userId client) :=
  Blind.now.bind fun _ => (Blind.inCalendar _).waiting

theorem blind_prepareRotation (l : Lifetimes) (seed : SessionSeed) (current : Session) :
    Blind Stop.Waiting (prepareRotation l seed current) :=
  Blind.now.bind fun _ => (Blind.inCalendar _).waiting

theorem blind_commit (pending : PendingSession) : Blind Stop.Waiting (commit pending) := by
  refine Blind.now.bind fun now => (Blind.store _ none).bind fun outcome => ?_
  cases outcome with
  | committed revoked => exact .pure pending.session
  | superseded => exact (Blind.refuse _).waiting

theorem blind_list (userId : Uuid) (device : String) : Blind Stop.Waiting (list userId device) :=
  Blind.now.bind fun _ => (Blind.store _ none).bind fun _ => .pure _

theorem blind_revoke (id : Uuid) (reason : String) : Blind Stop.Waiting (revoke id reason) := by
  refine Blind.now.bind fun now => (Blind.store _ none).bind fun outcome => ?_
  cases outcome with
  | revoked => exact .pure ()
  | alreadyRevoked => exact .pure ()
  | notFound => exact (Blind.refuse _).waiting

theorem blind_findByToken (token : String) : Blind Stop.Waiting (findByToken token) :=
  Blind.store _ none

theorem blind_findActiveByToken (token : String) :
    Blind Stop.Waiting (findActiveByToken token) :=
  Blind.now.bind fun _ => (blind_findByToken token).bind fun _ => .pure _

theorem blind_touchDevice (userId : Uuid) (device : String) :
    Blind Stop.Waiting (touchDevice userId device) := by
  refine Blind.now.bind fun now => (Blind.store _ none).bind fun sessions => ?_
  cases sessions.find? (·.deviceId == device) with
  | none => exact .pure false
  | some session =>
      have htouch : Blind Stop.Waiting (touch session.id) :=
        Blind.now.bind fun _ => Blind.store _ _
      exact htouch.bind fun _ => .pure true

end Sessions

namespace Resolution

theorem blind_resolve (userId : Uuid) : Blind Stop.Waiting (resolve userId) :=
  (Blind.store _ none).bind fun _ => .pure _

end Resolution

namespace LoginService

variable (s : LoginService)

theorem blind_sign (tokenId : Uuid) (identity : Identity) (access : Access) :
    Blind Stop.Waiting (s.sign tokenId identity access) :=
  Blind.now.bind fun _ => (Blind.inCalendar _).waiting

/-- A login ends alike whatever the trouble with the store is. -/
theorem blind_login (fresh : Fresh) (request : LoginRequest) (transport : Transport) :
    Blind Stop.Ended (s.login fresh request transport) := by
  refine (Blind.accept _).bind fun _ => Blind.withDeadline ?_ _
  refine (s.credentials.blind_verify _ _).bind fun identity => ?_
  refine (Sessions.blind_prepare _ _ _ _).bind fun pending => ?_
  refine (Resolution.blind_resolve _).bind fun access => ?_
  refine (s.blind_sign _ _ _).bind fun issued => ?_
  refine (Sessions.blind_commit pending).bind fun session => ?_
  exact (Sessions.blind_list _ _).bind fun _ => .pure _

/-- A refresh ends alike whatever the trouble with the store is. -/
theorem blind_refresh (fresh : Fresh) (token : String) :
    Blind Stop.Ended (s.refresh fresh token) := by
  refine (Blind.accept _).bind fun _ => Blind.withDeadline ?_ _
  refine (Sessions.blind_findActiveByToken token).bind fun found => ?_
  refine (Blind.require _ found).waiting.bind fun current => ?_
  refine (Blind.store _ none).bind fun found => ?_
  refine (Blind.require _ found).waiting.bind fun identity => ?_
  extract_lets issue
  have hissue : Blind Stop.Waiting (issue ()) := by
    refine (Sessions.blind_prepareRotation _ _ current).bind fun pending => ?_
    refine (Resolution.blind_resolve _).bind fun access => ?_
    refine (s.blind_sign _ _ _).bind fun issued => ?_
    exact (Sessions.blind_commit pending).bind fun session => .pure _
  split
  · exact (Blind.refuse _).waiting.bind fun _ => hissue
  · exact hissue

theorem blind_endSession (token : String) : Blind Stop.Waiting (endSession token) := by
  refine (Sessions.blind_findByToken token).bind fun found => ?_
  cases found with
  | none => exact .pure ()
  | some session => exact Sessions.blind_revoke _ _

theorem blind_refuseToken (accessToken : String) : Blind Stop.Ended (s.refuseToken accessToken) := by
  refine Blind.now.bind fun now => ?_
  cases Token.validate s.settings now accessToken with
  | error fault => exact .pure ()
  | ok principal => exact Blind.now.bind fun now => Blind.askRefuse _ _ now

/-- A logout ends alike whatever the trouble with the store is. -/
theorem blind_logout (token : String) (accessToken : Option String) :
    Blind Stop.Ended (s.logout token accessToken) := by
  refine (Blind.accept _).bind fun _ => ?_
  refine ((blind_endSession token).withDeadline _).bind fun _ => ?_
  split
  · cases accessToken with
    | none => exact .pure ()
    | some accessToken => exact s.blind_refuseToken accessToken
  · exact .pure ()

/-- A list of sessions ends alike whatever the trouble with the store is. -/
theorem blind_activeSessions (userId : Uuid) (hints : ClientHints) (transport : Transport) :
    Blind Stop.Ended (activeSessions userId hints transport) :=
  Blind.withDeadline ((Sessions.blind_touchDevice _ _).bind fun _ => Sessions.blind_list _ _) _

end LoginService

namespace AuthorizationService

variable (s : AuthorizationService)

theorem blind_authenticate (bearer : String) : Blind Stop.Ended (s.authenticate bearer) := by
  refine Blind.now.bind fun now => ?_
  cases Token.validate s.settings now bearer with
  | error fault => exact .refuse _
  | ok principal =>
      dsimp only
      split
      · refine Blind.now.bind fun now => (Blind.askRefused _ now).bind fun refused => ?_
        cases refused with
        | true => exact .refuse _
        | false => exact .pure principal
      · exact .pure principal

/-- A decision is the same whatever the trouble with the store is. -/
theorem blind_authorize (principal : Principal) (r : Requirement) :
    Blind Stop.Ended (s.authorize principal r) := by
  unfold authorize
  cases principal.userId with
  | none => exact .pure _
  | some userId =>
      cases s.source with
      | token => exact .pure _
      | live =>
          refine (Blind.withDeadline ?_ _).map _
          refine (Blind.store _ none).bind fun found => ?_
          split
          · exact (Resolution.blind_resolve userId).bind fun _ => .pure _
          · exact .pure false

end AuthorizationService

end Gatehouse
