import Gatehouse.Proofs.Service.Login
import Gatehouse.Proofs.Service.Trace

/-! # What a login tells about accounts

The check of the credentials asks the store one question, whatever the answer is
(`Credentials.trace_verify`), and rejects an address that nobody has just as it rejects a wrong
password (`Credentials.verify_cases`).  Nothing that a login does after the check stops it for its
credentials (`LoginService.impartial_proceed`), so the two failures of the check say exactly what it
has found (`LoginService.login_invalid_iff`, `LoginService.login_inactive_iff`).

Who does not know the password of an account is therefore told the same as for an address that is
free, and cannot tell a disabled account from either (`LoginService.login_hides_accounts`).  The
placeholder plays no part in this: the password may even be the one behind it. -/

namespace Gatehouse

open Service

variable {w w' : World FaultyStore}

/-! ### The check of the credentials -/

namespace Credentials

/-- The address and the password name nobody: the address is free, or its identity has another
password. -/
def NamesNobody (c : Credentials) (st : MemoryStore) (email password : String) : Prop :=
  ∀ identity, st.findByEmail (Email.normalize email) = some identity →
    c.hasher.verify password identity.passwordHash = false

/-- The address and the password name an identity. -/
structure Names (c : Credentials) (st : MemoryStore) (email password : String)
    (identity : Identity) : Prop where
  found : st.findByEmail (Email.normalize email) = some identity
  verified : c.hasher.verify password identity.passwordHash = true

variable {c : Credentials} {st : MemoryStore} {email password : String}
  {identity identity' : Identity}

theorem Names.not_namesNobody (h : c.Names st email password identity) :
    ¬ c.NamesNobody st email password :=
  fun hnobody => Bool.false_ne_true ((hnobody identity h.found).symm.trans h.verified)

theorem Names.unique (h : c.Names st email password identity)
    (h' : c.Names st email password identity') : identity = identity' :=
  Option.some.inj (h.found.symm.trans h'.found)

/-- What the check makes of the identity of an address. -/
def judge (c : Credentials) (password : String) (found : Option Identity) : Service Identity := do
  let identity ← require .invalidCredentials (found.filter fun _ =>
    c.hasher.verify password (found.elim c.placeholderHash (·.passwordHash)))
  if identity.enabled then pure identity else refuse .inactiveUser

theorem verify_eq (c : Credentials) (email password : String) :
    c.verify email password =
      store (.findByEmail (Email.normalize email)) >>= c.judge password := rfl

theorem outcome_judge_none (c : Credentials) (password : String) :
    outcome (c.judge password none) FaultyStore.storage w =
      (.error (.refused .invalidCredentials), w) := rfl

theorem outcome_judge_some (c : Credentials) (password : String) (identity : Identity) :
    outcome (c.judge password (some identity)) FaultyStore.storage w =
      (if c.hasher.verify password identity.passwordHash then
        if identity.enabled then .ok identity else .error (.refused .inactiveUser)
      else .error (.refused .invalidCredentials), w) := by
  unfold judge
  rw [Option.filter_some, Option.elim_some]
  cases c.hasher.verify password identity.passwordHash with
  | false => rfl
  | true =>
      rw [if_pos rfl, outcome_bind_ok (outcome_require _ _)]
      cases identity.enabled <;> rfl

theorem trace_judge (c : Credentials) (password : String) (found : Option Identity) :
    trace (c.judge password found) FaultyStore.storage w = [] := by
  unfold judge
  generalize found.filter _ = named
  cases named with
  | none => rfl
  | some identity =>
      have hnamed : outcome (require .invalidCredentials (some identity)) FaultyStore.storage w =
          (.ok identity, w) := outcome_require _ _
      rw [trace_bind_ok hnamed, trace_require]
      cases identity.enabled <;> rfl

/-- The check asks for the identity of the address, and nothing else. -/
theorem trace_verify (c : Credentials) (email password : String) :
    trace (c.verify email password) FaultyStore.storage w =
      [.store (.findByEmail (Email.normalize email))] := by
  rw [verify_eq]
  cases h : outcome (store (.findByEmail (Email.normalize email))) FaultyStore.storage w with
  | mk result w' =>
      cases result with
      | error stop => rw [trace_bind_error h, trace_store]
      | ok found => rw [trace_bind_ok h, trace_store, trace_judge, List.append_nil]

/-- **The ends of the check.**  Its question is faulted, or the credentials name nobody, or they
name an identity, which may be disabled. -/
theorem verify_cases (c : Credentials) (email password : String) (w : World FaultyStore) :
    (∃ fault : StoreFault, w.stored.faults.lookup "find_by_email" = some fault ∧
      outcome (c.verify email password) FaultyStore.storage w =
        (.error (stopOf none fault.trouble), w)) ∨
    w.stored.faults.lookup "find_by_email" = none ∧
      (c.NamesNobody w.stored.store email password ∧
          outcome (c.verify email password) FaultyStore.storage w =
            (.error (.refused .invalidCredentials), w) ∨
        ∃ identity, c.Names w.stored.store email password identity ∧
          outcome (c.verify email password) FaultyStore.storage w =
            (if identity.enabled then .ok identity else .error (.refused .inactiveUser), w)) := by
  let call : StoreCall := .findByEmail (Email.normalize email)
  rw [verify_eq]
  cases hf : w.stored.faults.lookup "find_by_email" with
  | some fault => exact .inl ⟨fault, rfl, outcome_bind_error (outcome_faulted call hf none)⟩
  | none =>
      have hread : outcome (store call) FaultyStore.storage w =
          (.ok (w.stored.store.findByEmail (Email.normalize email)), w) :=
        outcome_read call hf rfl none
      refine .inr ⟨rfl, ?_⟩
      rw [outcome_bind_ok hread]
      cases hfound : w.stored.store.findByEmail (Email.normalize email) with
      | none =>
          refine .inl ⟨fun identity h => ?_, outcome_judge_none c password⟩
          cases hfound.symm.trans h
      | some identity =>
          rw [outcome_judge_some]
          cases hverify : c.hasher.verify password identity.passwordHash with
          | false =>
              refine .inl ⟨fun identity' h => ?_, rfl⟩
              cases hfound.symm.trans h
              exact hverify
          | true => exact .inr ⟨identity, ⟨hfound, hverify⟩, rfl⟩

/-- Credentials that name nobody are rejected alike in all worlds in which the question of the check
is faulted alike. -/
theorem verify_of_namesNobody {c : Credentials} {w w' : World FaultyStore}
    (hfaults : w.stored.faults.lookup "find_by_email" = w'.stored.faults.lookup "find_by_email")
    (h : c.NamesNobody w.stored.store email password)
    (h' : c.NamesNobody w'.stored.store email password) :
    ∃ stop, outcome (c.verify email password) FaultyStore.storage w = (.error stop, w) ∧
      outcome (c.verify email password) FaultyStore.storage w' = (.error stop, w') := by
  rcases verify_cases c email password w with
    ⟨fault, hf, hend⟩ | ⟨hf, ⟨_, hend⟩ | ⟨identity, hnames, _⟩⟩
  · have hquestion := outcome_faulted (.findByEmail (Email.normalize email)) (hfaults ▸ hf) none
    refine ⟨_, hend, ?_⟩
    rw [verify_eq]
    exact outcome_bind_error hquestion
  · rcases verify_cases c email password w' with
      ⟨fault, hf', _⟩ | ⟨_, ⟨_, hend'⟩ | ⟨identity, hnames, _⟩⟩
    · cases hf.symm.trans (hfaults.trans hf')
    · exact ⟨_, hend, hend'⟩
    · exact absurd h' hnames.not_namesNobody
  · exact absurd h hnames.not_namesNobody

theorem verify_invalid_iff : (outcome (c.verify email password) FaultyStore.storage w).1 =
      .error (.refused .invalidCredentials) ↔
    w.stored.faults.lookup "find_by_email" = none ∧
      c.NamesNobody w.stored.store email password := by
  rcases verify_cases c email password w with
    ⟨fault, hf, hend⟩ | ⟨hf, ⟨hnobody, hend⟩ | ⟨identity, hnames, hend⟩⟩
  · rw [hend, hf]
    cases fault <;> simp [stopOf, ofTrouble, StoreFault.trouble]
  · rw [hend]
    exact ⟨fun _ => ⟨hf, hnobody⟩, fun _ => rfl⟩
  · rw [hend]
    refine ⟨fun h => ?_, fun h => absurd h.2 hnames.not_namesNobody⟩
    cases he : identity.enabled <;> simp [he] at h

theorem verify_inactive_iff : (outcome (c.verify email password) FaultyStore.storage w).1 =
      .error (.refused .inactiveUser) ↔
    w.stored.faults.lookup "find_by_email" = none ∧
      ∃ identity, c.Names w.stored.store email password identity ∧ identity.enabled = false := by
  rcases verify_cases c email password w with
    ⟨fault, hf, hend⟩ | ⟨hf, ⟨hnobody, hend⟩ | ⟨identity, hnames, hend⟩⟩
  · rw [hend, hf]
    cases fault <;> simp [stopOf, ofTrouble, StoreFault.trouble]
  · rw [hend]
    refine ⟨fun h => by simp at h, ?_⟩
    rintro ⟨_, identity, hnames, _⟩
    exact absurd hnobody hnames.not_namesNobody
  · rw [hend]
    constructor
    · intro h
      refine ⟨hf, identity, hnames, ?_⟩
      cases he : identity.enabled with
      | false => rfl
      | true => simp [he] at h
    · rintro ⟨_, identity', hnames', henabled⟩
      rw [hnames.unique hnames', henabled]
      rfl

end Credentials

/-! ### What follows the check -/

/-- The stop tells what the check of the credentials has found. -/
def Stop.OfCredentials (stop : Stop) : Prop :=
  stop = .refused .invalidCredentials ∨ stop = .refused .inactiveUser

theorem Stop.not_ofCredentials_stopOf (context : Option String) (trouble : Trouble) :
    ¬ (stopOf context trouble).OfCredentials := by
  rintro (h | h) <;> cases trouble <;> cases h

/-- A deadline tells nothing of the credentials that was not told without it. -/
theorem Stop.deadlined_eq_iff {stop stop' : Stop} (h : stop.OfCredentials) (context : String) :
    deadlined context stop' = stop ↔ stop' = stop := by
  rcases h with rfl | rfl <;> cases stop' <;> simp [deadlined]

namespace Service

variable {α β : Type}

/-- The service does not stop for credentials. -/
def Impartial (p : Service α) : Prop :=
  ∀ w stop, (outcome p FaultyStore.storage w).1 = .error stop → ¬ stop.OfCredentials

namespace Impartial

theorem pure (a : α) : Impartial (pure a : Service α) := fun _ _ h => by cases h

theorem now : Impartial now := fun _ _ h => by cases h

theorem inCalendar (a : Option α) : Impartial (inCalendar a) := by
  intro w stop h
  cases a with
  | some a => cases h
  | none =>
      cases h
      rintro (h | h) <;> cases h

theorem unauthenticated : Impartial (refuse .unauthenticated : Service α) := by
  intro w stop h
  cases h
  rintro (h | h) <;> cases h

theorem store (call : StoreCall) (context : Option String) : Impartial (store call context) := by
  intro w stop h
  rw [outcome_store] at h
  cases ha : (FaultyStore.storage.answer call w.stored).1 with
  | ok reply =>
      rw [ha] at h
      cases h
  | error trouble =>
      rw [ha] at h
      cases h
      exact Stop.not_ofCredentials_stopOf context trouble

theorem bind {p : Service α} {f : α → Service β} (hp : Impartial p) (hf : ∀ a, Impartial (f a)) :
    Impartial (p >>= f) := by
  intro w stop h
  rw [outcome_bind] at h
  cases hr : outcome p FaultyStore.storage w with
  | mk result w' =>
      rw [hr] at h
      cases result with
      | ok a => exact hf a w' stop h
      | error stop' =>
          cases h
          exact hp w stop (congrArg Prod.fst hr)

end Impartial

end Service

theorem Sessions.impartial_commit (pending : PendingSession) : Impartial (commit pending) := by
  refine Impartial.now.bind fun now => (Impartial.store _ none).bind fun reply => ?_
  cases reply with
  | committed ids => exact .pure _
  | superseded => exact .unauthenticated

namespace LoginService

variable {s : LoginService} {fresh fresh' : Fresh} {request : LoginRequest} {transport : Transport}

/-- What a login does for an identity that has passed the check. -/
def proceed (s : LoginService) (fresh : Fresh) (client : ClientInfo) (identity : Identity) :
    Service LoginAnswer := do
  let pending ← Sessions.prepare s.lifetimes fresh.session identity.id client
  let access ← Resolution.resolve identity.id
  let issued ← s.sign fresh.tokenId identity access
  let session ← Sessions.commit pending
  let activeSessions ← Sessions.list identity.id client.deviceId
  pure
    { tokens := ⟨issued, pending.refreshToken, session.expiresAt, client.flavor⟩
      user := summary identity access, activeSessions }

theorem login_eq_proceed (s : LoginService) (fresh : Fresh) (request : LoginRequest)
    (transport : Transport) :
    s.login fresh request transport = (do
      accept (Validation.login request.email request.password)
      withDeadline deadlineContext (s.credentials.verify request.email request.password >>=
        s.proceed fresh (Client.classify request.hints transport))) := rfl

/-- No later step of a login tells anything of the credentials. -/
theorem impartial_proceed (s : LoginService) (fresh : Fresh) (client : ClientInfo)
    (identity : Identity) : Impartial (s.proceed fresh client identity) := by
  unfold proceed
  refine (Impartial.now.bind fun _ => .inCalendar _).bind fun pending => ?_
  refine ((Impartial.store _ none).bind fun _ => .pure _).bind fun access => ?_
  refine (Impartial.now.bind fun _ => .inCalendar _).bind fun issued => ?_
  refine (Sessions.impartial_commit pending).bind fun session => ?_
  refine (Impartial.now.bind fun _ => (Impartial.store _ none).bind fun _ => .pure _).bind ?_
  exact fun _ => .pure _

theorem outcome_accepted (hvalid : Validation.login request.email request.password = .ok ()) :
    outcome (accept (Validation.login request.email request.password)) FaultyStore.storage w =
      (.ok (), w) := by
  rw [outcome_accept, hvalid]
  rfl

/-- A login whose credentials are rejected ends there. -/
theorem login_of_rejected (fresh : Fresh) (transport : Transport)
    (hvalid : Validation.login request.email request.password = .ok ()) {stop : Stop}
    (h : outcome (s.credentials.verify request.email request.password)
      FaultyStore.storage w = (.error stop, w)) :
    outcome (s.login fresh request transport) FaultyStore.storage w =
        (.error (deadlined deadlineContext stop), w) ∧
      trace (s.login fresh request transport) FaultyStore.storage w =
        [.store (.findByEmail (Email.normalize request.email))] := by
  rw [login_eq_proceed, outcome_bind_ok (outcome_accepted hvalid),
    trace_bind_ok (outcome_accepted hvalid)]
  constructor
  · rw [outcome_withDeadline, outcome_bind_error h]
    rfl
  · rw [trace_accept, trace_withDeadline, trace_bind_error h, Credentials.trace_verify]
    rfl

/-- With input that is accepted, a login stops for the credentials just where their check does. -/
theorem login_stop_iff (hvalid : Validation.login request.email request.password = .ok ())
    {stop : Stop} (hstop : stop.OfCredentials) :
    (outcome (s.login fresh request transport) FaultyStore.storage w).1 = .error stop ↔
      (outcome (s.credentials.verify request.email request.password) FaultyStore.storage w).1 =
        .error stop := by
  rw [login_eq_proceed, outcome_bind_ok (outcome_accepted hvalid), outcome_withDeadline,
    outcome_bind]
  cases hverify : outcome (s.credentials.verify request.email request.password)
      FaultyStore.storage w with
  | mk result w' =>
      cases result with
      | error stop' => simp [Except.mapError, Stop.deadlined_eq_iff hstop]
      | ok identity =>
          have hproceed := s.impartial_proceed fresh
            (Client.classify request.hints transport) identity w'
          cases hend : (outcome (s.proceed fresh (Client.classify request.hints transport) identity)
              FaultyStore.storage w').1 with
          | ok answer => simp [Except.mapError]
          | error stop' =>
              have hne : stop' ≠ stop := fun heq => hproceed stop' hend (heq ▸ hstop)
              simp [Except.mapError, Stop.deadlined_eq_iff hstop, hne]

/-- A login is told that its credentials are invalid if and only if they name nobody. -/
theorem login_invalid_iff (hvalid : Validation.login request.email request.password = .ok ()) :
    (outcome (s.login fresh request transport) FaultyStore.storage w).1 =
        .error (.refused .invalidCredentials) ↔
      w.stored.faults.lookup "find_by_email" = none ∧
        s.credentials.NamesNobody w.stored.store request.email request.password := by
  rw [login_stop_iff hvalid (.inl rfl), Credentials.verify_invalid_iff]

/-- A login is told that an account is disabled if and only if it has the password. -/
theorem login_inactive_iff (hvalid : Validation.login request.email request.password = .ok ()) :
    (outcome (s.login fresh request transport) FaultyStore.storage w).1 =
        .error (.refused .inactiveUser) ↔
      w.stored.faults.lookup "find_by_email" = none ∧ ∃ identity,
        s.credentials.Names w.stored.store request.email request.password identity ∧
          identity.enabled = false := by
  rw [login_stop_iff hvalid (.inr rfl), Credentials.verify_inactive_iff]

/-- **A failed login hides accounts.**  Take any hasher and any placeholder, a request with input that
is accepted, and two worlds in each of which its credentials name nobody: the address is free, or its
identity, enabled or disabled, has another password.  Let the question for the address be faulted
alike in both, if at all.  Then the login ends the same in both worlds, asks the same of the store,
and leaves both as they were, whatever else they hold and whoever asks; if the question is not
faulted it is told that its credentials are invalid.  And only with the password of a disabled
identity is a login ever told that an account is disabled. -/
theorem login_hides_accounts (s : LoginService) (fresh fresh' : Fresh) (request : LoginRequest)
    (transport transport' : Transport)
    (hvalid : Validation.login request.email request.password = .ok ()) :
    (∀ w w' : World FaultyStore,
      w.stored.faults.lookup "find_by_email" = w'.stored.faults.lookup "find_by_email" →
      s.credentials.NamesNobody w.stored.store request.email request.password →
      s.credentials.NamesNobody w'.stored.store request.email request.password → ∃ stop,
        outcome (s.login fresh request transport) FaultyStore.storage w = (.error stop, w) ∧
        outcome (s.login fresh' request transport') FaultyStore.storage w' = (.error stop, w') ∧
        trace (s.login fresh request transport) FaultyStore.storage w =
          trace (s.login fresh' request transport') FaultyStore.storage w' ∧
        (w.stored.faults.lookup "find_by_email" = none → stop = .refused .invalidCredentials)) ∧
    ∀ w : World FaultyStore,
      (outcome (s.login fresh request transport) FaultyStore.storage w).1 =
          .error (.refused .inactiveUser) →
        ∃ identity,
          s.credentials.Names w.stored.store request.email request.password identity ∧
            identity.enabled = false := by
  refine ⟨fun w w' hfaults h h' => ?_, fun w hend => ((login_inactive_iff hvalid).mp hend).2⟩
  obtain ⟨stop, hverify, hverify'⟩ := Credentials.verify_of_namesNobody hfaults h h'
  obtain ⟨hrun, htrace⟩ := login_of_rejected fresh transport hvalid hverify
  obtain ⟨hrun', htrace'⟩ := login_of_rejected fresh' transport' hvalid hverify'
  refine ⟨_, hrun, hrun', htrace.trans htrace'.symm, fun hf => ?_⟩
  have hinvalid : (outcome (s.login fresh request transport) FaultyStore.storage w).1 =
      .error (.refused .invalidCredentials) := (login_invalid_iff hvalid).mpr ⟨hf, h⟩
  rw [hrun] at hinvalid
  exact Except.error.inj hinvalid

end LoginService

namespace Sample

/-- A hasher that only marks passwords. -/
def markingHasher : PasswordHasher where
  hash _ password := .ok ("#" ++ password)
  verify password hash := hash == "#" ++ password

/-- A service with the placeholder of this hasher. -/
def markingService : LoginService :=
  ⟨service.settings, ⟨markingHasher, "#" ++ Credentials.placeholderPassword⟩⟩

/-- A login with the password behind the placeholder. -/
def placeholderRequest : LoginRequest :=
  ⟨" Ada@Example.org", Credentials.placeholderPassword, .none⟩

/-- A world with a disabled account under the address. -/
def lockedWorld : World FaultyStore where
  now := .ofSeconds 0
  blacklist := .empty
  stored := ⟨{ MemoryStore.empty with
    identities := ⟨[(identity.id, { identity with passwordHash := "#secret", enabled := false })]⟩ },
    []⟩

/-- A world without accounts. -/
def vacantWorld : World FaultyStore := ⟨.ofSeconds 0, .empty, ⟨.empty, []⟩⟩

end Sample

namespace LoginService

/-- The password behind the placeholder tells a disabled account from a free address as little as
any other. -/
theorem login_hides_accounts_placeholder :
    let login := Sample.markingService.login Sample.fresh Sample.placeholderRequest ⟨none, none⟩
    Sample.markingHasher.verify Sample.placeholderRequest.password
        Sample.markingService.credentials.placeholderHash = true ∧
      outcome login FaultyStore.storage Sample.lockedWorld =
        (.error (.refused .invalidCredentials), Sample.lockedWorld) ∧
      outcome login FaultyStore.storage Sample.vacantWorld =
        (.error (.refused .invalidCredentials), Sample.vacantWorld) := by
  intro login
  have hvalid : Validation.login Sample.placeholderRequest.email
      Sample.placeholderRequest.password = .ok () := by decide
  have hlocked : Sample.markingService.credentials.NamesNobody Sample.lockedWorld.stored.store
      Sample.placeholderRequest.email Sample.placeholderRequest.password := by
    intro identity h
    cases h
    decide
  have hvacant : Sample.markingService.credentials.NamesNobody Sample.vacantWorld.stored.store
      Sample.placeholderRequest.email Sample.placeholderRequest.password := fun _ h => by cases h
  obtain ⟨stop, hrun, hrun', _, hstop⟩ :=
    (login_hides_accounts Sample.markingService Sample.fresh Sample.fresh Sample.placeholderRequest
      ⟨none, none⟩ ⟨none, none⟩ hvalid).1 Sample.lockedWorld Sample.vacantWorld rfl hlocked hvacant
  cases hstop rfl
  exact ⟨by decide, hrun, hrun'⟩

end LoginService

end Gatehouse
