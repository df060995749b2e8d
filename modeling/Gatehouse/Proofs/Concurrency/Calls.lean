import Gatehouse.Proofs.Concurrency.Assurance
import Gatehouse.Proofs.Service.Login
import Gatehouse.Proofs.Service.Refresh
import Gatehouse.Proofs.Session.Opening
import Gatehouse.Service.Authorization

/-! # Which calls the services make

Only two services rotate: a login and a refresh, and both only in their last write, under the id and
with the digest of the token that they drew for the new session (`within_login`, `within_refresh`).
Before that a login reads no session, and a refresh none but the one that it looks for first
(`within_ready`, `within_renewal`).  Every other service may move sessions onward, but never adds one
(`NoRotation`), and only a logout and an authentication make calls that neither read the clock nor go
to the store (`OnStore`).  An authentication makes no call
of the storage at all (`AuthorizationService.within_authenticate`). -/

namespace Gatehouse

/-- The call reads the clock, or something of the store that is no session. -/
def Backend.Op.ReadsGraph : Backend.Op → Prop
  | .now => True
  | .store (.findByEmail _) | .store (.findIdentity _) | .store (.roleAssignments _) => True
  | _ => False

/-- The call looks up an account or its roles. -/
def Backend.Op.ReadsAccount : Backend.Op → Prop
  | .store (.findByEmail _) | .store (.findIdentity _) | .store (.roleAssignments _) => True
  | _ => False

/-- The call leaves the world as it is. -/
def Backend.Op.Reads : Backend.Op → Prop
  | .now | .isRefused .. | .health => True
  | .store call => call.writes = false
  | .refuse .. => False

/-- The call adds no session. -/
def Backend.Op.NoRotation (op : Backend.Op) : Prop := ∀ r, op ≠ .store (.rotate r)

/-- The call reads the clock or goes to the store. -/
def Backend.Op.OnStore : Backend.Op → Prop
  | .now | .store _ => True
  | _ => False

/-- The call does not go to the storage. -/
def Backend.Op.SparesStorage : Backend.Op → Prop
  | .store _ | .health => False
  | _ => True

/-- The call reads the clock, or goes to the store and adds no session there. -/
def Backend.Op.Moving (op : Backend.Op) : Prop := op.OnStore ∧ op.NoRotation

/-- The call reads the clock or goes to the store, and a session that it adds there has the token
digest. -/
def Backend.Op.Adding (hash : Bytes) (op : Backend.Op) : Prop :=
  op.OnStore ∧ ∀ r, op = .store (.rotate r) → r.session.tokenHash = hash

theorem Backend.Op.ReadsAccount.readsGraph {op : Backend.Op} (h : op.ReadsAccount) :
    op.ReadsGraph := by
  cases op with
  | store call => cases call <;> trivial
  | _ => cases h

theorem Backend.Op.ReadsGraph.reads {op : Backend.Op} (h : op.ReadsGraph) : op.Reads := by
  cases op with
  | store call => cases call <;> first | rfl | cases h
  | now => trivial
  | refuse tokenId expiresAt now => cases h
  | isRefused tokenId now => trivial
  | health => trivial

theorem Backend.Op.Reads.noRotation {op : Backend.Op} (h : op.Reads) : op.NoRotation := by
  rintro r rfl
  cases h

theorem Backend.Op.SparesStorage.noRotation {op : Backend.Op} (h : op.SparesStorage) :
    op.NoRotation := by
  rintro r rfl
  exact h

theorem Backend.Op.ReadsGraph.onStore {op : Backend.Op} (h : op.ReadsGraph) : op.OnStore := by
  cases op with
  | store call => trivial
  | now => trivial
  | refuse tokenId expiresAt now => cases h
  | isRefused tokenId now => cases h
  | health => cases h

theorem Backend.Op.Moving.adding {op : Backend.Op} (h : op.Moving) (hash : Bytes) :
    op.Adding hash :=
  ⟨h.1, fun r hr => absurd hr (h.2 r)⟩

theorem Backend.Op.ReadsGraph.adding {op : Backend.Op} (h : op.ReadsGraph) (hash : Bytes) :
    op.Adding hash :=
  Moving.adding ⟨h.onStore, h.reads.noRotation⟩ hash

theorem Backend.Op.moving_now : Backend.Op.now.Moving := ⟨trivial, fun _ h => nomatch h⟩

theorem Backend.Op.Reads.handler {op : Backend.Op} (h : op.Reads) (w : World FaultyStore) :
    (World.handler FaultyStore.storage op w).2 = w := by
  cases op with
  | now => rfl
  | store call =>
      change { w with stored := (FaultyStore.answer call w.stored).2 } = w
      rw [FaultyStore.answer_of_read h]
  | refuse tokenId expiresAt now => cases h
  | isRefused tokenId now => rfl
  | health => rfl

namespace Service

variable {α β : Type} {allowed : Backend.Op → Prop}

/-- The result is wanted, or it is none. -/
def Wanted (wanted : α → Prop) : Except Stop α → Prop
  | .ok a => wanted a
  | .error _ => True

/-- The service makes allowed calls only, and its value is wanted, whatever its calls are
answered. -/
def Within (allowed : Backend.Op → Prop) (wanted : α → Prop) (p : Service α) : Prop :=
  p.run.Within allowed (Wanted wanted)

/-- Any value. -/
abbrev AnyValue : α → Prop := fun _ => True

namespace Within

variable {wanted wanted' : α → Prop} {p : Service α}

theorem mono {allowed' : Backend.Op → Prop} (h : p.Within allowed wanted)
    (hallowed : ∀ op, allowed op → allowed' op) (hwanted : ∀ a, wanted a → wanted' a) :
    p.Within allowed' wanted' := by
  refine Program.Within.mono h hallowed ?_
  intro result hr
  cases result with
  | ok a => exact hwanted a hr
  | error stop => trivial

theorem pure {a : α} (h : wanted a) : Within allowed wanted (pure a : Service α) := .done h

theorem throw (stop : Stop) : Within allowed wanted (throw stop : Service α) :=
  .done trivial

theorem refuse (failure : Failure) : Within allowed wanted (refuse failure : Service α) :=
  .done trivial

theorem bind {f : α → Service β} {wanted' : β → Prop} (hp : p.Within allowed wanted)
    (hf : ∀ a, wanted a → (f a).Within allowed wanted') : (p >>= f).Within allowed wanted' := by
  unfold Within
  rw [run_bind]
  refine Program.Within.bind hp ?_
  intro result hr
  cases result with
  | ok a => exact hf a hr
  | error stop => exact .done trivial

theorem ask (op : Backend.Op) (h : allowed op) : Within allowed AnyValue (ask op) :=
  .call h fun _ => .done trivial

theorem now (h : allowed .now) : Within allowed AnyValue now := ask .now h

theorem store (call : StoreCall) (h : allowed (.store call)) (context : Option String) :
    Within allowed AnyValue (store call context) := by
  refine bind (ask (.store call) h) fun reply _ => ?_
  rcases reply with trouble | reply
  · cases trouble with
    | failed cause => exact throw _
    | stalled => exact throw _
    | unreadable => exact throw _
  · exact pure trivial

theorem require {failure : Failure} {a : Option α} (h : ∀ x, a = some x → wanted x) :
    Within allowed wanted (require failure a) := by
  cases a with
  | none => exact refuse failure
  | some x => exact pure (h x rfl)

theorem inCalendar {a : Option α} (h : ∀ x, a = some x → wanted x) :
    Within allowed wanted (inCalendar a) := by
  cases a with
  | none => exact throw .broken
  | some x => exact pure (h x rfl)

theorem accept (check : Except Failure Unit) : Within allowed AnyValue (accept check) := by
  cases check with
  | error failure => exact refuse failure
  | ok => exact pure trivial

theorem withDeadline (h : p.Within allowed wanted) (context : String) :
    (withDeadline context p).Within allowed wanted := by
  unfold Within
  rw [run_withDeadline]
  refine Program.Within.bind h ?_
  intro result hr
  cases result with
  | ok a => exact .done hr
  | error stop => exact .done trivial

end Within

end Service

open Service Backend.Op

theorem Service.Within.noRotation {α : Type} {p : Service α} {wanted : α → Prop}
    (h : p.Within Moving wanted) : p.Within NoRotation wanted :=
  h.mono (fun _ => And.right) fun _ hw => hw

theorem Service.Within.readsGraph {α : Type} {p : Service α} {wanted : α → Prop}
    (h : p.Within ReadsAccount wanted) : p.Within ReadsGraph wanted :=
  h.mono (fun _ => ReadsAccount.readsGraph) fun _ hw => hw

theorem Service.Within.onStore {α : Type} {p : Service α} {wanted : α → Prop}
    (h : p.Within Moving wanted) : p.Within OnStore wanted :=
  h.mono (fun _ => And.left) fun _ hw => hw

/-! ### Stages that read -/

theorem Credentials.within_verify (c : Credentials) (email password : String) :
    (c.verify email password).Within ReadsAccount AnyValue := by
  unfold Credentials.verify
  refine Within.bind (Within.store _ trivial none) fun found _ => ?_
  refine Within.bind (Within.require fun _ _ => trivial) fun identity _ => ?_
  by_cases h : identity.enabled = true
  · rw [if_pos h]
    exact Within.pure trivial
  · rw [if_neg h]
    exact Within.refuse .inactiveUser

theorem Resolution.within_resolve (userId : Uuid) :
    (Resolution.resolve userId).Within ReadsAccount AnyValue :=
  Within.bind (Within.store _ trivial none) fun _ _ => Within.pure trivial

theorem Sessions.within_list (userId : Uuid) (device : String) :
    (Sessions.list userId device).Within Moving AnyValue := by
  refine Within.bind (Within.now moving_now) fun now _ => ?_
  have hcall : Moving (.store (.listActive userId now)) := ⟨trivial, fun _ h => nomatch h⟩
  exact Within.bind (Within.store _ hcall none) fun sessions _ => Within.pure trivial

namespace LoginService

variable (s : LoginService) (fresh : Fresh)

theorem within_sign (identity : Identity) (access : Access) :
    (s.sign fresh.tokenId identity access).Within ReadsGraph AnyValue :=
  Within.bind (Within.now trivial) fun _ _ => Within.inCalendar fun _ _ => trivial

/-- What a login commits is the session of the identity on the client's device. -/
theorem within_ready (request : LoginRequest) (transport : Transport) :
    (s.ready fresh request transport).Within ReadsGraph fun r =>
      ∃ now, PendingSession.ofLogin s.lifetimes fresh.session now r.identity.id
        (Client.classify request.hints transport) = some r.pending := by
  unfold ready
  refine Within.bind (Credentials.within_verify _ _ _).readsGraph fun identity _ => ?_
  have hprepare : (Sessions.prepare s.lifetimes fresh.session identity.id
      (Client.classify request.hints transport)).Within ReadsGraph fun p =>
        ∃ now, PendingSession.ofLogin s.lifetimes fresh.session now identity.id
          (Client.classify request.hints transport) = some p :=
    Within.bind (Within.now trivial) fun now _ => Within.inCalendar fun p hp => ⟨now, hp⟩
  refine Within.bind hprepare fun pending hp => ?_
  refine Within.bind (Resolution.within_resolve _).readsGraph fun access _ => ?_
  refine Within.bind (s.within_sign fresh _ _) fun issued _ => ?_
  exact Within.pure hp

/-- What a refresh commits is the successor of the session that it found. -/
theorem within_renewal (current : Session) :
    (s.renewal fresh current).Within ReadsGraph fun r =>
      ∃ now, PendingSession.ofRefresh s.lifetimes fresh.session now current = some r.pending := by
  unfold renewal
  refine Within.bind (Within.store _ trivial none) fun found _ => ?_
  refine Within.bind (Within.require fun _ _ => trivial) fun identity _ => ?_
  have hrest : Within ReadsGraph (fun r : Renewal =>
      ∃ now, PendingSession.ofRefresh s.lifetimes fresh.session now current = some r.pending) (do
        let pending ← Sessions.prepareRotation s.lifetimes fresh.session current
        let access ← Resolution.resolve identity.id
        let issued ← s.sign fresh.tokenId identity access
        pure ⟨pending, issued⟩) := by
    have hprepare : (Sessions.prepareRotation s.lifetimes fresh.session current).Within ReadsGraph
        fun p => ∃ now, PendingSession.ofRefresh s.lifetimes fresh.session now current = some p :=
      Within.bind (Within.now trivial) fun now _ => Within.inCalendar fun p hp => ⟨now, hp⟩
    refine Within.bind hprepare fun pending hp => ?_
    refine Within.bind (Resolution.within_resolve _).readsGraph fun access _ => ?_
    refine Within.bind (s.within_sign fresh _ _) fun issued _ => ?_
    exact Within.pure hp
  have hrefuse : (Service.refuse .inactiveUser : Service PUnit).Within ReadsGraph AnyValue :=
    Within.refuse .inactiveUser
  dsimp only
  split_ifs
  · exact Within.bind hrefuse fun _ _ => hrest
  · exact hrest

end LoginService

/-! ### Services that add no session -/

namespace Sessions

theorem within_findByToken (token : String) :
    (findByToken token).Within Moving AnyValue := by
  exact Within.store (.findByTokenHash _) ⟨trivial, fun _ h => nomatch h⟩ none

theorem within_revoke (id : Uuid) (reason : String) :
    (revoke id reason).Within Moving AnyValue := by
  unfold revoke
  refine Within.bind (Within.now moving_now) fun now _ => ?_
  refine Within.bind (Within.store _ ⟨trivial, fun _ h => nomatch h⟩ none) fun reply _ => ?_
  cases reply with
  | revoked => exact Within.pure trivial
  | alreadyRevoked => exact Within.pure trivial
  | notFound => exact Within.refuse _

theorem within_revokeAll (userId : Uuid) (reason : String) :
    (revokeAll userId reason).Within Moving AnyValue := by
  refine Within.bind (Within.now moving_now) fun now _ => ?_
  exact Within.store (.revokeAll userId reason now) ⟨trivial, fun _ h => nomatch h⟩ none

theorem within_touch (id : Uuid) : (touch id).Within Moving AnyValue := by
  refine Within.bind (Within.now moving_now) fun now _ => ?_
  exact Within.store (.touch id now) ⟨trivial, fun _ h => nomatch h⟩ _

theorem within_touchDevice (userId : Uuid) (deviceId : String) :
    (touchDevice userId deviceId).Within Moving AnyValue := by
  unfold touchDevice
  refine Within.bind (Within.now moving_now) fun now _ => ?_
  refine Within.bind (Within.store _ ⟨trivial, fun _ h => nomatch h⟩ none) fun sessions _ => ?_
  cases sessions.find? (·.deviceId == deviceId) with
  | none => exact Within.pure trivial
  | some session => exact Within.bind (within_touch _) fun _ _ => Within.pure trivial

end Sessions

namespace LoginService

theorem within_endSession (token : String) : (endSession token).Within Moving AnyValue := by
  unfold endSession
  refine Within.bind (Sessions.within_findByToken token) fun found _ => ?_
  cases found with
  | none => exact Within.pure trivial
  | some session => exact Sessions.within_revoke _ _

theorem within_refuseToken (s : LoginService) (accessToken : String) :
    (s.refuseToken accessToken).Within NoRotation AnyValue := by
  unfold refuseToken
  refine Within.bind (Within.now fun _ h => nomatch h) fun now _ => ?_
  cases Token.validate s.settings now accessToken with
  | error fault => exact Within.pure trivial
  | ok principal =>
      refine Within.bind (Within.now fun _ h => nomatch h) fun now _ => ?_
      exact Within.ask (.refuse _ _ now) fun r h => nomatch h

theorem within_logout (s : LoginService) (token : String) (accessToken : Option String) :
    (s.logout token accessToken).Within NoRotation AnyValue := by
  unfold logout
  refine Within.bind (Within.accept _) fun _ _ => ?_
  refine Within.bind (Within.withDeadline (within_endSession token).noRotation _) fun _ _ => ?_
  by_cases h : s.settings.blacklist = true
  · rw [if_pos h]
    cases accessToken with
    | none => exact Within.pure trivial
    | some accessToken => exact within_refuseToken s accessToken
  · rw [if_neg h]
    exact Within.pure trivial

theorem within_activeSessions (userId : Uuid) (hints : ClientHints) (transport : Transport) :
    (activeSessions userId hints transport).Within Moving AnyValue := by
  unfold activeSessions
  refine Within.withDeadline ?_ _
  exact Within.bind (Sessions.within_touchDevice _ _) fun _ _ => Sessions.within_list _ _

end LoginService

/-! ### Services that stay with the store -/

theorem Sessions.within_commit (pending : PendingSession) :
    (Sessions.commit pending).Within (Adding pending.session.tokenHash) AnyValue := by
  have hrotate (t : Instant) :
      Adding pending.session.tokenHash (.store (.rotate (pending.rotation t))) := by
    refine ⟨trivial, fun r hr => ?_⟩
    cases hr
    rfl
  unfold Sessions.commit
  refine Within.bind (Within.now (moving_now.adding _)) fun now _ => ?_
  refine Within.bind (Within.store (.rotate _) (hrotate now) none) fun outcome _ => ?_
  cases outcome with
  | committed ids => exact Within.pure trivial
  | superseded => exact Within.refuse _

theorem Service.Within.adding {α : Type} {p : Service α} {wanted : α → Prop}
    (h : p.Within Moving wanted) (hash : Bytes) : p.Within (Adding hash) wanted :=
  h.mono (fun _ hop => hop.adding hash) fun _ hw => hw

namespace LoginService

theorem within_login (s : LoginService) (fresh : Fresh) (request : LoginRequest)
    (transport : Transport) :
    (s.login fresh request transport).Within
      (Adding (refreshTokenHash fresh.session.refreshToken)) AnyValue := by
  rw [login_eq]
  refine Within.bind (Within.accept _) fun _ _ => Within.withDeadline ?_ _
  have hready := (s.within_ready fresh request transport).mono
    (fun _ hop => hop.adding (refreshTokenHash fresh.session.refreshToken)) fun _ hr => hr
  have hopened : (s.opened fresh request transport).Within
      (Adding (refreshTokenHash fresh.session.refreshToken)) AnyValue := by
    refine Within.bind hready fun r ⟨_, hpending⟩ => ?_
    obtain ⟨_, _, _, hhash, _⟩ := PendingSession.ofLogin_eq_some hpending
    rw [← hhash]
    exact Within.bind (Sessions.within_commit r.pending) fun _ _ => Within.pure trivial
  refine Within.bind hopened fun opened _ => ?_
  exact Within.bind ((Sessions.within_list _ _).adding _) fun _ _ => Within.pure trivial

theorem within_refresh (s : LoginService) (fresh : Fresh) (token : String) :
    (s.refresh fresh token).Within
      (Adding (refreshTokenHash fresh.session.refreshToken)) AnyValue := by
  rw [refresh_eq]
  refine Within.bind (Within.accept _) fun _ _ => Within.withDeadline ?_ _
  have hfind : (Sessions.findActiveByToken token).Within Moving AnyValue :=
    Within.bind (Within.now moving_now) fun _ _ =>
      Within.bind (Sessions.within_findByToken token) fun _ _ => Within.pure trivial
  refine Within.bind (hfind.adding _) fun found _ => ?_
  refine Within.bind (Within.require fun _ _ => trivial) fun current _ => ?_
  have hrenewal := (s.within_renewal fresh current).mono
    (fun _ hop => hop.adding (refreshTokenHash fresh.session.refreshToken)) fun _ hr => hr
  refine Within.bind hrenewal fun r ⟨_, hpending⟩ => ?_
  obtain ⟨_, _, hsession, _⟩ := PendingSession.ofRefresh_eq_some hpending
  have hhash : r.pending.session.tokenHash = refreshTokenHash fresh.session.refreshToken := by
    rw [hsession]
  rw [← hhash]
  exact Within.bind (Sessions.within_commit r.pending) fun _ _ => Within.pure trivial

/-- What a logout does before it looks at its access token. -/
def leaving (token : String) : Service Unit := do
  Service.accept (Validation.refreshToken token)
  Service.withDeadline deadlineContext (endSession token)

theorem within_leaving (token : String) : (leaving token).Within OnStore AnyValue := by
  exact Within.bind (Within.accept _) fun _ _ =>
    Within.withDeadline (within_endSession token).onStore _

end LoginService

/-- To accept or to reject a bearer takes the clock and the list of refused tokens. -/
theorem AuthorizationService.within_authenticate (s : AuthorizationService) (bearer : String) :
    (s.authenticate bearer).Within SparesStorage AnyValue := by
  unfold authenticate
  refine Within.bind (Within.now trivial) fun now _ => ?_
  cases Token.validate s.settings now bearer with
  | error fault => exact Within.refuse .unauthenticated
  | ok principal =>
      by_cases h : s.settings.blacklist = true
      · dsimp only
        rw [if_pos h]
        refine Within.bind (Within.now trivial) fun now _ => ?_
        refine Within.bind (Within.ask _ trivial) fun refused _ => ?_
        cases refused with
        | true => exact Within.refuse .unauthenticated
        | false => exact Within.pure trivial
      · dsimp only
        rw [if_neg h]
        exact Within.pure trivial

end Gatehouse
