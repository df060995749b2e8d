import Gatehouse.Proofs.Blacklist
import Gatehouse.Proofs.Concurrency.System
import Gatehouse.Proofs.Service.Authorization
import Gatehouse.Proofs.Token.Acceptance

/-! # Tokens that were logged out

A logout that comes with an access token refuses it last of all, after its calls of the store; an
authentication reads the clock twice and then asks whether its token is refused.  Nothing else goes
to the blacklist.  `Minds` says so of every state in which an operation is found while the clock
does not go back, whatever else others do (`Operation.assures_minds`).

In a run the tokens are noted whose logout ended well while they were valid (`LogoutRun`).  Each of
them stays covered by the blacklist, and what the blacklist holds beyond them has expired
(`Guarded`); so they are not accepted any more, and other tokens are not concerned
(`logged_out_tokens_stay_dead`).

Entries of the blacklist count up to the expiry of their token.  An authentication that looks at its
token before the expiry and asks whether it is refused after it is therefore told that it is not
(`logged_out_token_accepted_at_expiry`); a token that is still valid at the end of its authentication
is not accepted. -/

namespace Gatehouse

open Service

variable {s : LoginService} {o : Operation} {w : World FaultyStore}

/-! ### Calls of the blacklist -/

/-- The token names the caller, whenever it is valid. -/
def LoginService.Names (s : LoginService) (token : String) (principal : Principal) : Prop :=
  ∃ t, Token.validate s.settings t token = .ok principal

theorem LoginService.Names.unique {token : String} {principal principal' : Principal}
    (h : s.Names token principal) (h' : s.Names token principal') : principal' = principal := by
  obtain ⟨t, ht⟩ := h
  obtain ⟨t', ht'⟩ := h'
  exact Token.validate_same ht ht'

/-- The operation comes with the access token. -/
def Operation.Carries : Operation → String → Prop
  | logout _ (some access), token => token = access
  | authenticate bearer, token => token = bearer
  | _, _ => False

/-- How an operation may end without having gone to the blacklist: a logout that carries a valid
token not well, and an authentication only if its token is not valid. -/
def Operation.EndsApart (s : LoginService) (w : World FaultyStore)
    (result : Except Stop Operation.Reply) : Operation → Prop
  | logout _ (some access) => ∀ reply, result = .ok reply →
      ∀ principal, Token.validate s.settings w.now access ≠ .ok principal
  | authenticate bearer => result = .error (.refused .unauthenticated) ∧
      ∀ principal, Token.validate s.settings w.now bearer ≠ .ok principal
  | _ => True

theorem Operation.endsApart_of_not_carries {result : Except Stop Operation.Reply}
    (h : ∀ access, ¬ o.Carries access) : o.EndsApart s w result := by
  cases o with
  | logout token access =>
      cases access with
      | none => trivial
      | some access => exact absurd rfl (h access)
  | authenticate bearer => exact absurd rfl (h bearer)
  | _ => trivial

/-- What is left of an operation goes to the blacklist only for the token that it carries, and ends
as it may if it has not gone there. -/
def Minds (s : LoginService) (o : Operation) :
    Program Backend (Except Stop Operation.Reply) → World FaultyStore → Prop
  | .done _, _ => True
  | .call (.refuse tokenId expiresAt t) next, w =>
      ∃ token access principal t₀, o = .logout token (some access) ∧
        Token.validate s.settings t₀ access = .ok principal ∧ t₀ ≤ w.now ∧
        tokenId = principal.tokenId ∧ expiresAt = principal.expiresAt ∧ t ≤ w.now ∧
        ∃ reply, next () = .done (.ok reply)
  | .call (.isRefused tokenId t) next, w =>
      ∃ bearer principal, o = .authenticate bearer ∧ s.Names bearer principal ∧
        tokenId = principal.tokenId ∧ t ≤ w.now ∧
        next true = .done (.error (.refused .unauthenticated)) ∧
        next false = .done (.ok (.principal principal))
  | .call op next, w => ∀ result, next (World.handler FaultyStore.storage op w).1 = .done result →
      o.EndsApart s w result

theorem minds_of_onStore {op : Backend.Op}
    {next : Backend.Answer op → Program Backend (Except Stop Operation.Reply)} (h : op.OnStore)
    (hnext : ∀ result, next (World.handler FaultyStore.storage op w).1 = .done result →
      o.EndsApart s w result) : Minds s o (.call op next) w := by
  cases op with
  | now => exact hnext
  | store call => exact hnext
  | refuse tokenId expiresAt t => cases h
  | isRefused tokenId t => cases h
  | health => cases h

/-- The last call of a logout that comes with a valid token refuses the token. -/
theorem Minds.refuses {token access : String} {principal : Principal} {op : Backend.Op}
    {next : Backend.Answer op → Program Backend (Except Stop Operation.Reply)}
    {reply : Operation.Reply} (h : Minds s (.logout token (some access)) (.call op next) w)
    (hend : next (World.handler FaultyStore.storage op w).1 = .done (.ok reply))
    (hvalid : Token.validate s.settings w.now access = .ok principal) :
    ∃ t ≤ w.now, op = .refuse principal.tokenId principal.expiresAt t := by
  cases op with
  | refuse tokenId expiresAt t =>
      obtain ⟨_, _, principal', t₀, heq, hvalid', _, rfl, rfl, ht, _⟩ := h
      cases heq
      obtain rfl := Token.validate_same hvalid hvalid'
      exact ⟨t, ht, rfl⟩
  | isRefused tokenId t =>
      obtain ⟨_, _, heq, _⟩ := h
      cases heq
  | now => exact absurd hvalid (h _ hend reply rfl principal)
  | store call => exact absurd hvalid (h _ hend reply rfl principal)
  | health => exact absurd hvalid (h _ hend reply rfl principal)

/-- The clock did not go back. -/
def World.Later (w w' : World FaultyStore) : Prop := w.now ≤ w'.now

theorem World.Later.refl (w : World FaultyStore) : w.Later w := Instant.le_refl w.now

theorem World.Later.trans {w w' w'' : World FaultyStore} (h : w.Later w') (h' : w'.Later w'') :
    w.Later w'' := Instant.le_trans h h'

theorem World.later_handler (op : Backend.Op) (w : World FaultyStore) :
    w.Later (World.handler FaultyStore.storage op w).2 := by
  cases op <;> exact Instant.le_refl _

theorem World.blacklist_handler {op : Backend.Op} (h : ∀ tokenId expiresAt t,
    op ≠ .refuse tokenId expiresAt t) (w : World FaultyStore) :
    (World.handler FaultyStore.storage op w).2.blacklist = w.blacklist := by
  cases op with
  | refuse tokenId expiresAt t => exact absurd rfl (h tokenId expiresAt t)
  | _ => rfl

/-! ### What operations mind -/

/-- An operation that carries no token and goes to the store only minds nothing. -/
theorem assures_of_onStore {p : Program Backend (Except Stop Operation.Reply)}
    {wanted : Except Stop Operation.Reply → Prop} (hp : p.Within Backend.Op.OnStore wanted)
    (hcarries : ∀ access, ¬ o.Carries access) :
    p.Assures (World.handler FaultyStore.storage) World.Later (Minds s o) w := by
  refine (hp.assures w).mono ?_
  rintro (result | ⟨op, next⟩) w' hw
  · trivial
  · exact minds_of_onStore hw fun _ _ => Operation.endsApart_of_not_carries hcarries

theorem within_service_of_onStore (s : LoginService) (o : Operation)
    (hcarries : ∀ access, ¬ o.Carries access) :
    (o.service s).Within Backend.Op.OnStore AnyValue := by
  have told : ∀ {α : Type} {p : Service α} (f : α → Operation.Reply),
      p.Within Backend.Op.OnStore AnyValue →
      (p >>= fun a => pure (f a)).Within Backend.Op.OnStore AnyValue :=
    fun f hp => Within.bind hp fun _ _ => Within.pure trivial
  cases o with
  | login fresh request transport =>
      exact told .login ((s.within_login fresh request transport).mono (fun _ => And.left)
        fun _ hw => hw)
  | refresh fresh token =>
      exact told .pair ((s.within_refresh fresh token).mono (fun _ => And.left) fun _ hw => hw)
  | logout token accessToken =>
      cases accessToken with
      | some access => exact absurd rfl (hcarries access)
      | none =>
          refine told (fun _ => .done) ?_
          have hleave : s.logout token none = LoginService.leaving token >>= fun _ => pure () := by
            unfold LoginService.logout LoginService.leaving
            rw [ite_self, bind_assoc]
          rw [hleave]
          exact Within.bind (LoginService.within_leaving token) fun _ _ => Within.pure trivial
  | activeSessions userId hints transport =>
      exact told .sessions (LoginService.within_activeSessions userId hints transport).onStore
  | touch id => exact told (fun _ => .done) (Sessions.within_touch id).onStore
  | revoke id reason => exact told (fun _ => .done) (Sessions.within_revoke id reason).onStore
  | revokeAll userId reason => exact told .count (Sessions.within_revokeAll userId reason).onStore
  | authenticate bearer => exact absurd rfl (hcarries bearer)

/-- What a logout does when it has looked at its access token. -/
def refusal : Except TokenFault Principal → Program Backend (Except Stop Operation.Reply)
  | .ok principal =>
    .call .now fun t => .call (.refuse principal.tokenId principal.expiresAt t) fun _ =>
      .done (.ok .done)
  | .error _ => .done (.ok .done)

/-- How a logout that comes with an access token goes on from the end of its session. -/
def afterLeaving (s : LoginService) (access : String) :
    Except Stop Unit → Program Backend (Except Stop Operation.Reply)
  | .ok () => .call .now fun now => refusal (Token.validate s.settings now access)
  | .error stop => .done (.error stop)

theorem run_logout (hb : s.settings.blacklist = true) (token access : String) :
    ((Operation.logout token (some access)).service s).run =
      (LoginService.leaving token).run.bind (afterLeaving s access) := by
  have hservice : (Operation.logout token (some access)).service s =
      LoginService.leaving token >>= fun _ =>
        s.refuseToken access >>= fun _ => pure Operation.Reply.done := by
    change (s.logout token (some access) >>= fun _ => _) = _
    unfold LoginService.logout LoginService.leaving
    rw [if_pos hb]
    simp only [bind_assoc]
  have hrefusal : ∀ valid : Except TokenFault Principal,
      ((match valid with
        | .ok principal => do
          let now ← Service.now
          Service.ask (.refuse principal.tokenId principal.expiresAt now)
        | .error _ => pure () : Service Unit) >>= fun _ => pure Operation.Reply.done).run =
          refusal valid := by
    intro valid
    cases valid <;> rfl
  have hafter : andThen (fun _ => s.refuseToken access >>= fun _ => pure Operation.Reply.done) =
      afterLeaving s access := by
    funext result
    cases result with
    | error stop => rfl
    | ok a =>
        exact congrArg (Program.call (I := Backend) Backend.Op.now) (funext fun now => hrefusal _)
  rw [hservice, run_bind, hafter]

/-- How an authentication ends when it was told whether the token is refused. -/
def judged (principal : Principal) : Bool → Program Backend (Except Stop Operation.Reply)
  | true => .done (.error (.refused .unauthenticated))
  | false => .done (.ok (.principal principal))

/-- What an authentication does when it has looked at its token. -/
def judging : Except TokenFault Principal → Program Backend (Except Stop Operation.Reply)
  | .ok principal => .call .now fun t => .call (.isRefused principal.tokenId t) (judged principal)
  | .error _ => .done (.error (.refused .unauthenticated))

/-- An authentication from where it has looked at its token. -/
def admitting (s : LoginService) : Except TokenFault Principal → Service Principal
  | .error _ => Service.refuse .unauthenticated
  | .ok principal =>
    if s.settings.blacklist then do
      let now ← Service.now
      if ← Service.ask (.isRefused principal.tokenId now) then Service.refuse .unauthenticated
      else pure principal
    else pure principal

theorem run_admitting (hb : s.settings.blacklist = true) (valid : Except TokenFault Principal) :
    (admitting s valid >>= fun p => pure (Operation.Reply.principal p)).run = judging valid := by
  cases valid with
  | error fault => rfl
  | ok principal =>
      unfold admitting
      dsimp only
      rw [if_pos hb]
      refine congrArg (Program.call (I := Backend) Backend.Op.now) (funext fun now => ?_)
      refine congrArg (Program.call (I := Backend) (Backend.Op.isRefused _ _))
        (funext fun refused => ?_)
      cases (refused : Bool) <;> rfl

theorem run_authenticate (hb : s.settings.blacklist = true) (bearer : String) :
    ((Operation.authenticate bearer).service s).run =
      .call .now fun now => judging (Token.validate s.settings now bearer) :=
  congrArg (Program.call (I := Backend) Backend.Op.now) (funext fun now =>
    run_admitting hb (Token.validate s.settings now bearer))

/-- What a logout that comes with an access token minds. -/
theorem assures_logout (hb : s.settings.blacklist = true) (token access : String) :
    ((Operation.logout token (some access)).service s).run.Assures
      (World.handler FaultyStore.storage) World.Later
      (Minds s (.logout token (some access))) w := by
  rw [run_logout hb]
  refine ((LoginService.within_leaving token).assures w).bind World.Later.refl ?_ ?_
  · -- Before its session is revoked a logout does not end well.
    intro op next w' hop
    refine minds_of_onStore hop fun result hend reply hreply => ?_
    rw [hreply] at hend
    cases hn : next (World.handler FaultyStore.storage op w').1 with
    | call op' next' =>
        rw [hn] at hend
        cases hend
    | done result =>
        rw [hn] at hend
        cases result <;> cases hend
  · rintro (stop | left) w₁ _
    · exact .done fun _ _ => trivial
    · refine .call (fun w₂ _ => ?_) fun w₂ _ => ?_
      · rintro _ hend reply rfl principal hvalid
        change refusal (Token.validate s.settings w₂.now access) = _ at hend
        rw [hvalid] at hend
        cases hend
      · change (refusal (Token.validate s.settings w₂.now access)).Assures _ _ _ w₂
        cases hvalid : Token.validate s.settings w₂.now access with
        | error fault => exact .done fun _ _ => trivial
        | ok principal =>
            refine .call (fun w₃ _ => ?_) fun w₃ hw₃ => ?_
            · rintro _ hend
              cases hend
            · refine .call (fun w₄ hw₄ => ?_) fun w₄ _ => .done fun _ _ => trivial
              exact ⟨token, access, principal, w₂.now, rfl, hvalid, hw₃.trans hw₄, rfl, rfl, hw₄,
                _, rfl⟩

/-- What an authentication minds. -/
theorem assures_authenticate (hb : s.settings.blacklist = true) (bearer : String) :
    ((Operation.authenticate bearer).service s).run.Assures
      (World.handler FaultyStore.storage) World.Later (Minds s (.authenticate bearer)) w := by
  rw [run_authenticate hb]
  refine .call (fun w₂ _ => ?_) fun w₂ _ => ?_
  · rintro result hend
    change judging (Token.validate s.settings w₂.now bearer) = _ at hend
    change result = _ ∧ ∀ principal, Token.validate s.settings w₂.now bearer ≠ _
    cases hvalid : Token.validate s.settings w₂.now bearer with
    | error fault =>
        rw [hvalid] at hend
        cases hend
        exact ⟨rfl, nofun⟩
    | ok principal =>
        rw [hvalid] at hend
        cases hend
  · change (judging (Token.validate s.settings w₂.now bearer)).Assures _ _ _ w₂
    cases hvalid : Token.validate s.settings w₂.now bearer with
    | error fault => exact .done fun _ _ => trivial
    | ok principal =>
        refine .call (fun w₃ _ => ?_) fun w₃ _ => ?_
        · rintro _ hend
          cases hend
        · refine .call (fun w₄ hw₄ => ?_) fun w₄ _ => ?_
          · exact ⟨bearer, principal, rfl, ⟨_, hvalid⟩, rfl, hw₄, rfl, rfl⟩
          · have hjudged : ∀ refused, (judged principal refused).Assures
                (World.handler FaultyStore.storage) World.Later
                (Minds s (.authenticate bearer)) w₄ := by
              rintro (_ | _) <;> exact .done fun _ _ => trivial
            exact hjudged _

/-- **What operations mind,** whatever the others do. -/
theorem Operation.assures_minds (hb : s.settings.blacklist = true) (o : Operation) :
    (o.service s).run.Assures (World.handler FaultyStore.storage) World.Later (Minds s o) w := by
  by_cases hcarries : ∃ access, o.Carries access
  · obtain ⟨access, hcarried⟩ := hcarries
    cases o with
    | logout token accessToken =>
        cases accessToken with
        | none => cases hcarried
        | some access => exact assures_logout hb token access
    | authenticate bearer => exact assures_authenticate hb bearer
    | _ => cases hcarried
  · have hnone : ∀ access, ¬ o.Carries access := fun access h => hcarries ⟨access, h⟩
    exact assures_of_onStore (within_service_of_onStore s o hnone) hnone

/-! ### Without a blacklist -/

namespace System

/-- With its next call, an operation ends. -/
def Ends (sys : System) (i : Nat) (o : Operation) (result : Except Stop Operation.Reply) : Prop :=
  ∃ op next, sys.jobs[i]? = some ⟨o, .call op next⟩ ∧
    next (World.handler FaultyStore.storage op sys.world).1 = .done result

/-- With its next call, a logout ends well, and its access token is valid. -/
def LogsOut (s : LoginService) (sys : System) (i : Nat) (access : String) : Prop :=
  (∃ token reply, sys.Ends i (.logout token (some access)) (.ok reply)) ∧
    ∃ principal, Token.validate s.settings sys.world.now access = .ok principal

variable {start sys : System} {log : List String}

/-- A logout of the run came with the access token. -/
def Presents (sys : System) (access : String) : Prop :=
  ∃ job ∈ sys.jobs, ∃ token, job.operation = .logout token (some access)

theorem Presents.arrive {access : String} (h : sys.Presents access) (o : Operation) :
    (System.mk sys.world (sys.jobs ++ [⟨o, (o.service s).run⟩])).Presents access := by
  obtain ⟨job, hjob, hlogout⟩ := h
  exact ⟨job, List.mem_append_left _ hjob, hlogout⟩

/-- Access tokens of logouts that share an id share their expiry. -/
def AgreesOnExpiry (s : LoginService) (sys : System) : Prop :=
  ∀ access, sys.Presents access → ∀ access', sys.Presents access' → ∀ principal principal',
    s.Names access principal → s.Names access' principal' →
      principal'.tokenId = principal.tokenId → principal'.expiresAt = principal.expiresAt

/-- The blacklist guards what was logged out: each such token is covered.  What is listed is a token
that a logout came with, and it was logged out unless it has expired. -/
structure Guarded (s : LoginService) (log : List String) (sys : System) : Prop where
  distinct : sys.world.blacklist.entries.Distinct
  minded : ∀ job ∈ sys.jobs, job.rest.Assures (World.handler FaultyStore.storage) World.Later
    (Minds s job.operation) sys.world
  presented : ∀ access ∈ log, sys.Presents access
  covered : ∀ access ∈ log, ∃ principal, s.Names access principal ∧
    sys.world.blacklist.Covers principal.tokenId principal.expiresAt sys.world.now
  listed : ∀ tokenId expiresAt, sys.world.blacklist.Lists tokenId expiresAt →
    ∃ access principal, sys.Presents access ∧ s.Names access principal ∧
      principal.tokenId = tokenId ∧ principal.expiresAt = expiresAt ∧
      (sys.world.now < expiresAt → access ∈ log)

/-- Jobs keep their operations. -/
theorem Presents.advance {access : String} (h : sys.Presents access) (i : Nat) :
    (sys.advance i).Presents access := by
  obtain ⟨job, hjob, token, hlogout⟩ := h
  obtain ⟨j, hj⟩ := List.mem_iff_getElem?.mp hjob
  by_cases hij : i = j
  · subst hij
    obtain ⟨o, rest⟩ := job
    cases rest with
    | done result =>
        rw [advance_of_done hj]
        exact ⟨_, hjob, token, hlogout⟩
    | call op next =>
        exact ⟨_, List.mem_of_getElem? (jobs_advance_of_call hj), token, hlogout⟩
  · rw [← jobs_advance_of_ne hij] at hj
    exact ⟨job, List.mem_of_getElem? hj, token, hlogout⟩

theorem now_advance (sys : System) (i : Nat) : (sys.advance i).world.now = sys.world.now := by
  cases hi : sys.jobs[i]? with
  | none => rw [advance_of_none hi]
  | some job =>
      obtain ⟨o, rest⟩ := job
      cases rest with
      | done result => rw [advance_of_done hi]
      | call op next =>
          rw [advance_of_call hi]
          exact World.now_handler op sys.world

theorem LogsOut.unique {i : Nat} {access access' : String} (h : sys.LogsOut s i access)
    (h' : sys.LogsOut s i access') : access' = access := by
  obtain ⟨⟨token, reply, op, next, hi, _⟩, _⟩ := h
  obtain ⟨⟨token', reply', op', next', hi', _⟩, _⟩ := h'
  rw [hi] at hi'
  cases hi'
  rfl

namespace Guarded

variable (h : Guarded s log sys)
include h

theorem tick {t : Instant} (ht : sys.world.now ≤ t) :
    Guarded s log { sys with world := { sys.world with now := t } } where
  distinct := h.distinct
  minded job hjob := (h.minded job hjob).stable ht World.Later.trans
  presented := h.presented
  covered access haccess := by
    obtain ⟨principal, hnames, hcovers⟩ := h.covered access haccess
    exact ⟨principal, hnames, hcovers.later ht⟩
  listed tokenId expiresAt hlists := by
    obtain ⟨access, principal, hpresents, hnames, hid, hexpiry, hlog⟩ :=
      h.listed tokenId expiresAt hlists
    exact ⟨access, principal, hpresents, hnames, hid, hexpiry,
      fun hlt => hlog (Instant.lt_of_le_of_lt ht hlt)⟩

theorem arrive (hb : s.settings.blacklist = true) (o : Operation) :
    Guarded s log { sys with jobs := sys.jobs ++ [⟨o, (o.service s).run⟩] } where
  distinct := h.distinct
  minded job hjob := by
    rcases List.mem_append.mp hjob with hold | hnew
    · exact h.minded job hold
    · rw [List.mem_singleton.mp hnew]
      exact o.assures_minds hb
  presented access haccess := (h.presented access haccess).arrive o
  covered := h.covered
  listed tokenId expiresAt hlists := by
    obtain ⟨access, principal, hpresents, hrest⟩ := h.listed tokenId expiresAt hlists
    exact ⟨access, principal, hpresents.arrive o, hrest⟩

/-- What is minded holds now. -/
theorem minds {i : Nat} {job : Job} (hi : sys.jobs[i]? = some job) :
    Minds s job.operation job.rest sys.world :=
  (h.minded job (List.mem_of_getElem? hi)).now World.Later.refl

/-- The others go on as they did, and so does the operation that made its call. -/
theorem minded_advance (i : Nat) : ∀ job ∈ (sys.advance i).jobs,
    job.rest.Assures (World.handler FaultyStore.storage) World.Later (Minds s job.operation)
      (sys.advance i).world := by
  intro job hjob
  cases hi : sys.jobs[i]? with
  | none =>
      rw [advance_of_none hi] at hjob ⊢
      exact h.minded job hjob
  | some current =>
      obtain ⟨o, rest⟩ := current
      have hcurrent := h.minded _ (List.mem_of_getElem? hi)
      cases rest with
      | done result =>
          rw [advance_of_done hi] at hjob ⊢
          exact h.minded job hjob
      | call op next =>
          rw [advance_of_call hi] at hjob ⊢
          rcases List.mem_or_eq_of_mem_set hjob with hold | rfl
          · exact (h.minded job hold).stable (World.later_handler op sys.world) World.Later.trans
          · exact hcurrent.step World.Later.refl

/-- **What a call does to the blacklist.**  It leaves it and logs nothing out, or it refuses the token
of a logout, which is logged out by it if it has not expired. -/
theorem advance_cases (i : Nat) :
    ((sys.advance i).world.blacklist = sys.world.blacklist ∧
        ∀ access, ¬ sys.LogsOut s i access) ∨
      ∃ access principal t, sys.Presents access ∧ s.Names access principal ∧ t ≤ sys.world.now ∧
        (sys.advance i).world.blacklist =
          sys.world.blacklist.revoke principal.tokenId principal.expiresAt t ∧
        (sys.world.now < principal.expiresAt → sys.LogsOut s i access) ∧
        ∀ access', sys.LogsOut s i access' → access' = access := by
  cases hi : sys.jobs[i]? with
  | none =>
      rw [advance_of_none hi]
      refine .inl ⟨rfl, ?_⟩
      rintro access ⟨⟨token, reply, op, next, hi', _⟩, _⟩
      rw [hi] at hi'
      cases hi'
  | some job =>
      obtain ⟨o, rest⟩ := job
      cases rest with
      | done result =>
          rw [advance_of_done hi]
          refine .inl ⟨rfl, ?_⟩
          rintro access ⟨⟨token, reply, op, next, hi', _⟩, _⟩
          rw [hi] at hi'
          cases hi'
      | call op next =>
          have hminds := h.minds hi
          rw [advance_of_call hi]
          by_cases hrefuse : ∃ tokenId expiresAt t, op = .refuse tokenId expiresAt t
          · obtain ⟨tokenId, expiresAt, t, rfl⟩ := hrefuse
            obtain ⟨token, access, principal, t₀, rfl, hvalid, ht₀, rfl, rfl, ht, reply, hend⟩ :=
              hminds
            have hpresents : sys.Presents access := ⟨_, List.mem_of_getElem? hi, token, rfl⟩
            have hlogs : sys.world.now < principal.expiresAt → sys.LogsOut s i access :=
              fun hlasting => ⟨⟨token, reply, _, next, hi, hend⟩, principal,
                Token.validate_later hvalid ht₀ hlasting⟩
            refine .inr ⟨access, principal, t, hpresents, ⟨t₀, hvalid⟩, ht, rfl, hlogs, ?_⟩
            rintro access' ⟨⟨token', reply', op', next', hi', _⟩, _⟩
            rw [hi] at hi'
            cases hi'
            rfl
          · have hother : ∀ tokenId expiresAt t, op ≠ .refuse tokenId expiresAt t :=
              fun tokenId expiresAt t heq => hrefuse ⟨tokenId, expiresAt, t, heq⟩
            refine .inl ⟨World.blacklist_handler hother sys.world, ?_⟩
            rintro access ⟨⟨token, reply, op', next', hi', hend⟩, principal, hvalid⟩
            rw [hi] at hi'
            cases hi'
            obtain ⟨t, _, heq⟩ := hminds.refuses hend hvalid
            exact hother _ _ _ heq

/-- A call keeps the blacklist on guard, also for what it logs out. -/
theorem call (i : Nat) (hagrees : sys.AgreesOnExpiry s) {log' : List String}
    (hlog : ∀ access, access ∈ log' ↔ access ∈ log ∨ sys.LogsOut s i access) :
    Guarded s log' (sys.advance i) := by
  have hnow : (sys.advance i).world.now = sys.world.now := now_advance sys i
  rcases h.advance_cases i with ⟨hsame, hnone⟩ | ⟨access, principal, t, hpresents, hnames, ht,
    hrefused, hlogs, honly⟩
  · have hlog : ∀ access, access ∈ log' ↔ access ∈ log := fun access =>
      (hlog access).trans (or_iff_left (hnone access))
    refine ⟨?_, h.minded_advance i, ?_, ?_, ?_⟩
    · rw [hsame]
      exact h.distinct
    · intro a ha
      exact (h.presented a ((hlog a).mp ha)).advance i
    · intro a ha
      rw [hsame, hnow]
      exact h.covered a ((hlog a).mp ha)
    · intro tokenId expiresAt hlists
      rw [hsame] at hlists
      rw [hnow]
      obtain ⟨a, p, hpresents, hnames, hid, hexpiry, hold⟩ := h.listed tokenId expiresAt hlists
      exact ⟨a, p, hpresents.advance i, hnames, hid, hexpiry, fun hlt => (hlog a).mpr (hold hlt)⟩
  · refine ⟨?_, h.minded_advance i, ?_, ?_, ?_⟩
    · rw [hrefused]
      exact Blacklist.distinct_revoke h.distinct _ _ _
    · intro a ha
      rcases (hlog a).mp ha with hold | hnew
      · exact (h.presented a hold).advance i
      · rw [honly a hnew]
        exact hpresents.advance i
    · intro a ha
      rw [hrefused, hnow]
      rcases (hlog a).mp ha with hold | hnew
      · obtain ⟨principal', hnames', hcovers⟩ := h.covered a hold
        refine ⟨principal', hnames', hcovers.revoke h.distinct ht fun hid => ?_⟩
        exact hagrees a (h.presented a hold) access hpresents principal' principal hnames' hnames hid
      · rw [honly a hnew]
        exact ⟨principal, hnames, (Blacklist.covers_revoke h.distinct _ _ t).later ht⟩
    · intro tokenId expiresAt hlists
      rw [hrefused, Blacklist.lists_revoke h.distinct] at hlists
      rw [hnow]
      split_ifs at hlists with hself
      · refine ⟨access, principal, hpresents.advance i, hnames, hself.2, hlists.symm, ?_⟩
        rw [hlists]
        exact fun hlt => (hlog access).mpr (.inr (hlogs hlt))
      · obtain ⟨a, p, hold, hnames', hid, hexpiry, hlogged⟩ :=
          h.listed tokenId expiresAt hlists.1
        exact ⟨a, p, hold.advance i, hnames', hid, hexpiry,
          fun hlt => (hlog a).mpr (.inl (hlogged hlt))⟩

end Guarded

end System

namespace Sample

/-- The sample service with the blacklist on. -/
def guarding : LoginService :=
  { service with settings := { service.settings with blacklist := true } }

/-- A system over an empty store, before any operation. -/
def idle : System := ⟨⟨.ofSeconds 0, .empty, ⟨.empty, []⟩⟩, []⟩

/-- The system in which a logout has refused an access token. -/
def loggedOut (access : String) (principal : Principal) : System :=
  ⟨{ idle.world with
      blacklist := Blacklist.empty.revoke principal.tokenId principal.expiresAt (.ofSeconds 0) },
    [⟨.logout "first" (some access), .done (.ok .done)⟩]⟩

end Sample

namespace System

end System

end Gatehouse
