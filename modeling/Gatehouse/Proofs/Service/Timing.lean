import Gatehouse.Proofs.Concurrency.Calls
import Gatehouse.Proofs.Concurrency.System
import Gatehouse.Proofs.Session.WellFormed

/-! # The times that services write

A service reads the clock as it goes, and what it writes bears the time that it read last: so says
`Program.InTime` of a program, from the last reading on.  A session that it writes is well formed at
that time (`Backend.Op.InTime`); for a refresh this rests on the session that it found, which has
what its flavor calls for (`Backend.Op.Expected`).  Every operation is in time from whatever it
takes for its last reading when it begins (`Operation.inTime`). -/

namespace Gatehouse

/-- What the call writes bears the time, and a session that it adds is well formed then. -/
def Backend.Op.InTime (l : Lifetimes) (t : Instant) : Backend.Op → Prop
  | .store (.rotate r) => r.now = t ∧ r.session.WellFormed l t
  | .store (.revoke _ _ u) | .store (.revokeAll _ _ u) | .store (.touch _ u) => u = t
  | _ => True

/-- A session that is found by its token has what its flavor calls for. -/
def Backend.Op.Expected : (op : Backend.Op) → Backend.Answer op → Prop
  | .store (.findByTokenHash _), .ok (some session) => session.FitsFlavor
  | _, _ => True

theorem Backend.Op.Reads.inTime {op : Backend.Op} (h : op.Reads) (l : Lifetimes) (t : Instant) :
    op.InTime l t := by
  cases op with
  | store call => cases call <;> first | exact trivial | cases h
  | now | refuse | isRefused | health => trivial

theorem Backend.Op.SparesStorage.inTime {op : Backend.Op} (h : op.SparesStorage) (l : Lifetimes)
    (t : Instant) : op.InTime l t := by
  cases op with
  | store call => cases h
  | now | refuse | isRefused | health => trivial

/-- From the last reading of the clock on, the calls of the program are in time, as long as they are
answered as expected, and so is what it ends with. -/
inductive Program.InTime {α : Type} (l : Lifetimes) (wanted : Instant → α → Prop) :
    Instant → Program Backend α → Prop
  | done {t : Instant} {a : α} (h : wanted t a) : InTime l wanted t (.done a)
  | now {t : Instant} {next : Instant → Program Backend α}
    (hnext : ∀ t', t ≤ t' → InTime l wanted t' (next t')) : InTime l wanted t (.call .now next)
  | call {t : Instant} {op : Backend.Op} {next : Backend.Answer op → Program Backend α}
    (hop : op ≠ .now) (h : op.InTime l t)
    (hnext : ∀ answer, op.Expected answer → InTime l wanted t (next answer)) :
    InTime l wanted t (.call op next)

namespace Program.InTime

variable {α β : Type} {l : Lifetimes} {t : Instant} {p : Program Backend α}

theorem mono {wanted wanted' : Instant → α → Prop} (hp : p.InTime l wanted t)
    (h : ∀ t' a, t ≤ t' → wanted t' a → wanted' t' a) : p.InTime l wanted' t := by
  induction hp with
  | done hw => exact .done (h _ _ (Instant.le_refl _) hw)
  | now _ ih =>
      exact .now fun t' ht => ih t' ht fun t'' a ht' => h t'' a (Instant.le_trans ht ht')
  | call hop hin _ ih => exact .call hop hin fun answer ha => ih answer ha h

/-- The rest of a chain is in time from what its first part read last. -/
theorem bind {wanted : Instant → α → Prop} {wanted' : Instant → β → Prop}
    {f : α → Program Backend β} (hp : p.InTime l wanted t)
    (hf : ∀ t' a, t ≤ t' → wanted t' a → (f a).InTime l wanted' t') :
    (p.bind f).InTime l wanted' t := by
  induction hp with
  | done hw => exact hf _ _ (Instant.le_refl _) hw
  | now _ ih =>
      exact .now fun t' ht => ih t' ht fun t'' a ht' => hf t'' a (Instant.le_trans ht ht')
  | call hop hin _ ih => exact .call hop hin fun answer ha => ih answer ha hf

end Program.InTime

/-- A program that makes no call that could be out of time is in time. -/
theorem Program.Within.inTime {α : Type} {l : Lifetimes} {allowed : Backend.Op → Prop}
    {wanted : α → Prop} {p : Program Backend α} (hp : p.Within allowed wanted)
    (hallowed : ∀ op t, allowed op → op.InTime l t) (t : Instant) :
    p.InTime l (fun _ => wanted) t := by
  induction hp generalizing t with
  | done h => exact .done h
  | @call op next h _ ih =>
      by_cases hop : op = .now
      · subst hop
        exact .now fun t' _ => ih t' t'
      · exact .call hop (hallowed op t h) fun answer _ => ih answer t

namespace Service

variable {α β : Type} {l : Lifetimes} {t : Instant}

/-- The service is in time, and so is its value if it has one. -/
def InTime (l : Lifetimes) (t : Instant) (wanted : Instant → α → Prop) (p : Service α) : Prop :=
  p.run.InTime l (fun t' => Wanted (wanted t')) t

/-- Any value, at any time. -/
abbrev AtAnyTime : Instant → α → Prop := fun _ _ => True

namespace InTime

variable {wanted : Instant → α → Prop} {p : Service α}

theorem of_within {allowed : Backend.Op → Prop} {wanted : α → Prop} (h : p.Within allowed wanted)
    (hallowed : ∀ op t, allowed op → op.InTime l t) : p.InTime l t fun _ => wanted :=
  Program.Within.inTime h hallowed t

theorem pure {a : α} (h : wanted t a) : InTime l t wanted (pure a : Service α) := .done h

theorem throw (stop : Stop) : InTime l t wanted (throw stop : Service α) := .done trivial

theorem refuse (failure : Failure) : InTime l t wanted (refuse failure : Service α) :=
  .done trivial

theorem bind {f : α → Service β} {wanted' : Instant → β → Prop} (hp : p.InTime l t wanted)
    (hf : ∀ t' a, t ≤ t' → wanted t' a → (f a).InTime l t' wanted') :
    (p >>= f).InTime l t wanted' := by
  unfold InTime
  rw [run_bind]
  refine Program.InTime.bind hp fun t' result ht hr => ?_
  cases result with
  | ok a => exact hf t' a ht hr
  | error stop => exact .done trivial

/-- What the clock shows is the time from then on. -/
theorem now : InTime l t (fun t' a => a = t') Service.now :=
  Program.InTime.now fun _ _ => .done rfl

theorem store (call : StoreCall) (h : Backend.Op.InTime l t (.store call))
    (context : Option String) : InTime l t
      (fun _ reply => Backend.Op.Expected (.store call) (.ok reply)) (store call context) := by
  have hask : InTime l t (fun _ => Backend.Op.Expected (.store call)) (ask (.store call)) :=
    .call nofun h fun answer ha => .done ha
  refine bind hask fun t' reply _ hr => ?_
  rcases reply with trouble | reply
  · cases trouble with
    | failed cause => exact throw _
    | stalled => exact throw _
    | unreadable => exact throw _
  · exact pure hr

theorem require {failure : Failure} {a : Option α} (h : ∀ x, a = some x → wanted t x) :
    InTime l t wanted (require failure a) := by
  cases a with
  | none => exact refuse failure
  | some x => exact pure (h x rfl)

theorem inCalendar {a : Option α} (h : ∀ x, a = some x → wanted t x) :
    InTime l t wanted (inCalendar a) := by
  cases a with
  | none => exact throw .broken
  | some x => exact pure (h x rfl)

theorem accept (check : Except Failure Unit) : InTime l t AtAnyTime (accept check) := by
  cases check with
  | error failure => exact refuse failure
  | ok => exact pure trivial

theorem withDeadline (h : p.InTime l t wanted) (context : String) :
    (withDeadline context p).InTime l t wanted := by
  unfold InTime
  rw [run_withDeadline]
  refine Program.InTime.bind h fun t' result _ hr => ?_
  cases result with
  | ok a => exact .done hr
  | error stop => exact .done trivial

end InTime

end Service

open Service

/-! ### The services -/

variable {l : Lifetimes} {t : Instant}

namespace Sessions

theorem inTime_list (userId : Uuid) (device : String) :
    (list userId device).InTime l t AtAnyTime :=
  .bind .now fun _ now _ _ => .bind (.store (.listActive userId now) trivial none) fun _ _ _ _ =>
    .pure trivial

/-- A prepared session is well formed when it is prepared. -/
theorem inTime_prepare (seed : SessionSeed) (userId : Uuid) (client : ClientInfo) :
    (prepare l seed userId client).InTime l t fun t' p => p.session.WellFormed l t' := by
  refine .bind .now fun t' now _ hnow => ?_
  subst hnow
  exact .inCalendar fun p hp => PendingSession.wellFormed_of_ofLogin hp

theorem inTime_prepareRotation (seed : SessionSeed) {current : Session}
    (hfits : current.FitsFlavor) :
    (prepareRotation l seed current).InTime l t fun t' p => p.session.WellFormed l t' := by
  refine .bind .now fun t' now _ hnow => ?_
  subst hnow
  exact .inCalendar fun p hp => PendingSession.wellFormed_of_ofRefresh hfits hp

/-- A prepared session that is well formed is still so when it is written. -/
theorem inTime_commit {pending : PendingSession} (h : pending.session.WellFormed l t) :
    (commit pending).InTime l t AtAnyTime := by
  refine .bind .now fun t' now ht hnow => ?_
  subst hnow
  refine .bind (.store (.rotate (pending.rotation now)) ⟨rfl, h.later ht⟩ none)
    fun _ outcome _ _ => ?_
  cases outcome with
  | committed ids => exact .pure trivial
  | superseded => exact .refuse .unauthenticated

theorem inTime_revoke (id : Uuid) (reason : String) : (revoke id reason).InTime l t AtAnyTime := by
  refine .bind .now fun t' now _ hnow => ?_
  refine .bind (.store (.revoke id reason now) hnow none) fun _ outcome _ _ => ?_
  cases outcome with
  | revoked => exact .pure trivial
  | alreadyRevoked => exact .pure trivial
  | notFound => exact .refuse _

theorem inTime_revokeAll (userId : Uuid) (reason : String) :
    (revokeAll userId reason).InTime l t AtAnyTime :=
  .bind .now fun _ now _ hnow => (InTime.store (.revokeAll userId reason now) hnow none)

theorem inTime_touch (id : Uuid) : (touch id).InTime l t AtAnyTime :=
  .bind .now fun _ now _ hnow => .store (.touch id now) hnow _

theorem inTime_touchDevice (userId : Uuid) (deviceId : String) :
    (touchDevice userId deviceId).InTime l t AtAnyTime := by
  refine .bind .now fun _ now _ _ => ?_
  refine .bind (.store (.listActive userId now) trivial none) fun _ sessions _ _ => ?_
  cases sessions.find? (·.deviceId == deviceId) with
  | none => exact .pure trivial
  | some session => exact .bind (inTime_touch _) fun _ _ _ _ => .pure trivial

/-- A session that is found by its token has what its flavor calls for. -/
theorem inTime_findByToken (token : String) :
    (findByToken token).InTime l t fun _ found => ∀ c, found = some c → c.FitsFlavor := by
  refine (InTime.store (.findByTokenHash (refreshTokenHash token)) trivial none).mono ?_
  rintro _ (_ | result) _ h
  · trivial
  · rintro c rfl
    exact h

theorem inTime_findActiveByToken (token : String) :
    (findActiveByToken token).InTime l t fun _ found => ∀ c, found = some c → c.FitsFlavor := by
  refine .bind .now fun _ now _ _ => .bind (inTime_findByToken token) fun _ found _ h => ?_
  refine .pure fun c hc => h c ?_
  exact (Option.filter_eq_some_iff.mp hc).1

end Sessions

namespace LoginService

variable (s : LoginService) (fresh : Fresh)

theorem inTime_of_readsGraph {α : Type} {p : Service α} {wanted : α → Prop}
    (h : p.Within Backend.Op.ReadsGraph wanted) : p.InTime l t fun _ => wanted :=
  .of_within h fun _ t hop => hop.reads.inTime l t

/-- A login writes the session that it prepared, which is well formed. -/
theorem inTime_login (request : LoginRequest) (transport : Transport) :
    (s.login fresh request transport).InTime s.lifetimes t AtAnyTime := by
  unfold login
  refine .bind (.accept _) fun _ _ _ _ => .withDeadline ?_ _
  refine .bind (inTime_of_readsGraph (Credentials.within_verify _ _ _).readsGraph) fun _ identity _ _ => ?_
  refine .bind (Sessions.inTime_prepare _ _ _) fun t₁ pending _ hpending => ?_
  refine .bind (inTime_of_readsGraph (Resolution.within_resolve _).readsGraph) fun t₂ access ht₂ _ => ?_
  refine .bind (inTime_of_readsGraph (s.within_sign fresh _ _)) fun t₃ issued ht₃ _ => ?_
  refine .bind (Sessions.inTime_commit ((hpending.later ht₂).later ht₃)) fun _ session _ _ => ?_
  exact .bind (Sessions.inTime_list _ _) fun _ _ _ _ => .pure trivial

/-- The successor of a session that has what its flavor calls for is well formed. -/
theorem inTime_renewal {current : Session} (hfits : current.FitsFlavor) :
    (s.renewal fresh current).InTime s.lifetimes t fun t' r =>
      r.pending.session.WellFormed s.lifetimes t' := by
  unfold renewal
  refine .bind (.store (.findIdentity current.userId) trivial none) fun t₀ found _ _ => ?_
  have hidentity : (require .unauthenticated found).InTime s.lifetimes t₀ AtAnyTime :=
    .require fun _ _ => trivial
  refine .bind hidentity fun t₁ identity _ _ => ?_
  have hrest : ∀ t₁, InTime s.lifetimes t₁
      (fun t' (r : Renewal) => r.pending.session.WellFormed s.lifetimes t') (do
        let pending ← Sessions.prepareRotation s.lifetimes fresh.session current
        let access ← Resolution.resolve identity.id
        let issued ← s.sign fresh.tokenId identity access
        pure ⟨pending, issued⟩) := by
    intro t₁
    refine .bind (Sessions.inTime_prepareRotation _ hfits) fun t₂ pending _ hpending => ?_
    refine .bind (inTime_of_readsGraph (Resolution.within_resolve _).readsGraph) fun t₃ access ht₃ _ => ?_
    refine .bind (inTime_of_readsGraph (s.within_sign fresh _ _)) fun t₄ issued ht₄ _ => ?_
    exact .pure ((hpending.later ht₃).later ht₄)
  have hrefuse : (refuse .inactiveUser : Service PUnit).InTime s.lifetimes t₁ AtAnyTime :=
    .refuse .inactiveUser
  dsimp only
  split_ifs
  · exact .bind hrefuse fun t₂ _ _ _ => hrest t₂
  · exact hrest t₁

/-- A refresh writes the successor of the session that it found. -/
theorem inTime_refresh (token : String) :
    (s.refresh fresh token).InTime s.lifetimes t AtAnyTime := by
  rw [refresh_eq]
  refine .bind (.accept _) fun _ _ _ _ => .withDeadline ?_ _
  refine .bind (Sessions.inTime_findActiveByToken token) fun t₁ found _ hfound => ?_
  have hcurrent : (require .unauthenticated found).InTime s.lifetimes t₁
      fun _ current => current.FitsFlavor := .require hfound
  refine .bind hcurrent fun t₂ current _ hfits => ?_
  refine .bind (s.inTime_renewal fresh hfits) fun t₃ r _ hr => ?_
  exact .bind (Sessions.inTime_commit hr) fun _ _ _ _ => .pure trivial

theorem inTime_endSession (token : String) : (endSession token).InTime l t AtAnyTime := by
  unfold endSession
  refine .bind (Sessions.inTime_findByToken token) fun _ found _ _ => ?_
  cases found with
  | none => exact .pure trivial
  | some session => exact Sessions.inTime_revoke _ _

theorem inTime_refuseToken (accessToken : String) :
    (s.refuseToken accessToken).InTime l t AtAnyTime := by
  unfold refuseToken
  refine .bind .now fun _ now _ _ => ?_
  cases Token.validate s.settings now accessToken with
  | error fault => exact .pure trivial
  | ok principal =>
      refine .bind .now fun _ now _ _ => ?_
      exact .call nofun trivial fun _ _ => .done trivial

theorem inTime_logout (token : String) (accessToken : Option String) :
    (s.logout token accessToken).InTime l t AtAnyTime := by
  unfold logout
  refine .bind (.accept _) fun _ _ _ _ => ?_
  refine .bind (.withDeadline (inTime_endSession token) _) fun _ _ _ _ => ?_
  by_cases h : s.settings.blacklist = true
  · rw [if_pos h]
    cases accessToken with
    | none => exact .pure trivial
    | some accessToken => exact s.inTime_refuseToken accessToken
  · rw [if_neg h]
    exact .pure trivial

theorem inTime_activeSessions (userId : Uuid) (hints : ClientHints) (transport : Transport) :
    (activeSessions userId hints transport).InTime l t AtAnyTime := by
  unfold activeSessions
  refine .withDeadline ?_ _
  exact .bind (Sessions.inTime_touchDevice _ _) fun _ _ _ _ => Sessions.inTime_list _ _

end LoginService

/-- **Every operation is in time,** whatever it takes for its last reading when it begins. -/
theorem Operation.inTime (s : LoginService) (o : Operation) (t : Instant) :
    (o.service s).InTime s.lifetimes t AtAnyTime := by
  cases o with
  | login fresh request transport =>
      exact .bind (s.inTime_login fresh request transport) fun _ _ _ _ => .pure trivial
  | refresh fresh token => exact .bind (s.inTime_refresh fresh token) fun _ _ _ _ => .pure trivial
  | logout token accessToken =>
      exact .bind (s.inTime_logout token accessToken) fun _ _ _ _ => .pure trivial
  | activeSessions userId hints transport =>
      exact .bind (LoginService.inTime_activeSessions userId hints transport) fun _ _ _ _ =>
        .pure trivial
  | touch id => exact .bind (Sessions.inTime_touch id) fun _ _ _ _ => .pure trivial
  | revoke id reason => exact .bind (Sessions.inTime_revoke id reason) fun _ _ _ _ => .pure trivial
  | revokeAll userId reason =>
      exact .bind (Sessions.inTime_revokeAll userId reason) fun _ _ _ _ => .pure trivial
  | authenticate bearer =>
      have hauthenticate := InTime.of_within (l := s.lifetimes) (t := t)
        (AuthorizationService.within_authenticate ⟨s.settings, .live⟩ bearer) fun _ t hop =>
          hop.inTime s.lifetimes t
      exact .bind hauthenticate fun _ _ _ _ => .pure trivial

end Gatehouse
