import Gatehouse.Proofs.Service.Answers

/-! # The stages of a login

After its input is accepted a login goes through three stages (`login_eq`): it makes itself ready,
which only reads; it commits the session that it prepared, which is written in one store call or not
at all (`commit_ok`, `commit_error_unchanged`); and it lists the active sessions, which only reads
again.

The listing comes after the write, so a login whose listing fails ends with an error and leaves its
session behind.  `login_error_writes_iff` says that this is the one way for a login to end with an
error and to change the sessions. -/

namespace Gatehouse

open Service

/-! ### Writing and listing sessions -/

namespace Sessions

variable {w w' : World FaultyStore} {pending : PendingSession}

theorem commit_committed {ids : List Uuid} {stored : FaultyStore}
    (h : FaultyStore.answer (.rotate (pending.rotation w.now)) w.stored =
      (.ok (.committed ids), stored)) :
    outcome (commit pending) FaultyStore.storage w = (.ok pending.session, { w with stored }) := by
  unfold commit
  rw [outcome_bind_ok outcome_now, outcome_bind_ok (outcome_store_ok h none)]
  rfl

theorem commit_superseded {stored : FaultyStore}
    (h : FaultyStore.answer (.rotate (pending.rotation w.now)) w.stored =
      (.ok .superseded, stored)) :
    outcome (commit pending) FaultyStore.storage w =
      (.error (.refused .unauthenticated), { w with stored }) := by
  unfold commit
  rw [outcome_bind_ok outcome_now, outcome_bind_ok (outcome_store_ok h none)]
  rfl

theorem commit_failed {trouble : Trouble} {stored : FaultyStore}
    (h : FaultyStore.answer (.rotate (pending.rotation w.now)) w.stored =
      (.error trouble, stored)) :
    outcome (commit pending) FaultyStore.storage w =
      (.error (stopOf none trouble), { w with stored }) := by
  unfold commit
  rw [outcome_bind_ok outcome_now, outcome_bind_error (outcome_store_error h none)]

/-- **The ends of a commit.**  It carries out its rotation, or ends with an error and writes
nothing. -/
theorem commit_cases (pending : PendingSession) (w : World FaultyStore) :
    (∃ stop, outcome (commit pending) FaultyStore.storage w = (.error stop, w)) ∨
    w.stored.store.rotate (pending.rotation w.now) =
        .ok (.committed (w.stored.store.supersededIds (pending.rotation w.now)),
          w.stored.store.afterRotation (pending.rotation w.now)) ∧
      outcome (commit pending) FaultyStore.storage w = (.ok pending.session,
        { w with stored :=
          { w.stored with store := w.stored.store.afterRotation (pending.rotation w.now) } }) := by
  cases hf : w.stored.faults.lookup "rotate" with
  | some fault => exact .inl ⟨_, commit_failed (FaultyStore.answer_faulted hf)⟩
  | none =>
      rcases w.stored.store.rotate_cases (pending.rotation w.now) with
        ⟨_, hr⟩ | ⟨_, _, hr⟩ | ⟨_, _, _, hr⟩ | ⟨_, _, _, hr⟩
      · exact .inl ⟨_, commit_superseded (FaultyStore.answer_ok hf hr)⟩
      · exact .inl ⟨_, commit_failed (FaultyStore.answer_refused hf hr)⟩
      · exact .inl ⟨_, commit_failed (FaultyStore.answer_refused hf hr)⟩
      · exact .inr ⟨hr, commit_committed (FaultyStore.answer_ok hf hr)⟩

/-- A commit that ends with a value has carried out its rotation. -/
theorem commit_ok {session : Session}
    (h : outcome (commit pending) FaultyStore.storage w = (.ok session, w')) :
    session = pending.session ∧
      w.stored.store.rotate (pending.rotation w.now) =
        .ok (.committed (w.stored.store.supersededIds (pending.rotation w.now)),
          w.stored.store.afterRotation (pending.rotation w.now)) ∧
      w' = { w with stored :=
        { w.stored with store := w.stored.store.afterRotation (pending.rotation w.now) } } := by
  rcases commit_cases pending w with ⟨stop, he⟩ | ⟨hr, ho⟩
  · rw [he] at h
    cases h
  · rw [ho] at h
    cases h
    exact ⟨rfl, hr, rfl⟩

theorem commit_error_unchanged {stop : Stop}
    (h : outcome (commit pending) FaultyStore.storage w = (.error stop, w')) : w' = w := by
  rcases commit_cases pending w with ⟨_, he⟩ | ⟨_, ho⟩
  · rw [he] at h
    cases h
    rfl
  · rw [ho] at h
    cases h

theorem commutes_commit {label : String} (hl : "rotate" ≠ label) (pending : PendingSession) :
    Commutes FaultyStore.storage (FaultyStore.mend label) (commit pending) := by
  unfold commit
  refine Commutes.bind Commutes.now fun now => Commutes.bind (Commutes.store ?_ none) ?_
  · exact FaultyStore.answer_mend hl
  · intro reply
    cases reply with
    | committed ids => exact Commutes.pure pending.session
    | superseded => exact Commutes.refuse .unauthenticated

/-- The listing is the one of the store, unless its call is faulted. -/
theorem list_of_sound (hf : w.stored.faults.lookup "list_active" = none) (userId : Uuid)
    (device : String) : outcome (list userId device) FaultyStore.storage w =
      (.ok ((w.stored.store.listActive userId w.now).map (·.summary device)), w) := by
  have hread := outcome_read (.listActive userId w.now) hf rfl none
  unfold list
  rw [outcome_bind_ok outcome_now, outcome_bind_ok hread]
  rfl

theorem list_of_faulted {fault : StoreFault}
    (hf : w.stored.faults.lookup "list_active" = some fault) (userId : Uuid) (device : String) :
    outcome (list userId device) FaultyStore.storage w =
      (.error (stopOf none fault.trouble), w) := by
  have hread := outcome_faulted (.listActive userId w.now) hf none
  unfold list
  rw [outcome_bind_ok outcome_now, outcome_bind_error hread]

end Sessions

/-! ### Reading for a login -/

theorem Credentials.readOnly_verify (c : Credentials) (email password : String) :
    ReadOnly FaultyStore.storage (c.verify email password) := by
  unfold Credentials.verify
  refine ReadOnly.bind (readOnly_store rfl none) fun found => ?_
  refine ReadOnly.bind (ReadOnly.require _ _) fun identity => ?_
  by_cases h : identity.enabled = true
  · rw [if_pos h]
    exact ReadOnly.pure identity
  · rw [if_neg h]
    exact ReadOnly.refuse .inactiveUser

theorem Credentials.commutes_verify {label : String} (hl : "find_by_email" ≠ label)
    (c : Credentials) (email password : String) :
    Commutes FaultyStore.storage (FaultyStore.mend label) (c.verify email password) := by
  unfold Credentials.verify
  refine Commutes.bind (Commutes.store ?_ none) fun found => ?_
  · exact FaultyStore.answer_mend hl
  refine Commutes.bind (Commutes.require _ _) fun identity => ?_
  by_cases h : identity.enabled = true
  · rw [if_pos h]
    exact Commutes.pure identity
  · rw [if_neg h]
    exact Commutes.refuse .inactiveUser

theorem Resolution.readOnly_resolve (userId : Uuid) :
    ReadOnly FaultyStore.storage (Resolution.resolve userId) :=
  ReadOnly.bind (readOnly_store rfl none) fun _ => ReadOnly.pure _

theorem Resolution.commutes_resolve {label : String} (hl : "role_assignments" ≠ label)
    (userId : Uuid) :
    Commutes FaultyStore.storage (FaultyStore.mend label) (Resolution.resolve userId) := by
  refine Commutes.bind (Commutes.store ?_ none) fun _ => Commutes.pure _
  exact FaultyStore.answer_mend hl

namespace LoginService

variable {s : LoginService} {fresh : Fresh} {request : LoginRequest} {transport : Transport}
  {w w' : World FaultyStore}

/-! ### The stages -/

/-- What a login has worked out when it is ready to write. -/
structure Ready where
  identity : Identity
  pending : PendingSession
  access : Access
  issued : IssuedToken

/-- The answer to a login whose session is written. -/
def Ready.answer (r : Ready) (session : Session) (flavor : Flavor)
    (activeSessions : List SessionSummary) : LoginAnswer where
  tokens := ⟨r.issued, r.pending.refreshToken, session.expiresAt, flavor⟩
  user := summary r.identity r.access
  activeSessions := activeSessions

/-- The stage of a login before its write. -/
def ready (s : LoginService) (fresh : Fresh) (request : LoginRequest) (transport : Transport) :
    Service Ready := do
  let identity ← s.credentials.verify request.email request.password
  let pending ← Sessions.prepare s.lifetimes fresh.session identity.id
    (Client.classify request.hints transport)
  let access ← Resolution.resolve identity.id
  let issued ← s.sign fresh.tokenId identity access
  pure ⟨identity, pending, access, issued⟩

/-- The stages of a login up to its write. -/
def opened (s : LoginService) (fresh : Fresh) (request : LoginRequest) (transport : Transport) :
    Service (Ready × Session) := do
  let r ← s.ready fresh request transport
  let session ← Sessions.commit r.pending
  pure (r, session)

/-- The stages of a login. -/
def stages (s : LoginService) (fresh : Fresh) (request : LoginRequest) (transport : Transport) :
    Service LoginAnswer := do
  let (r, session) ← s.opened fresh request transport
  let client := Client.classify request.hints transport
  let activeSessions ← Sessions.list r.identity.id client.deviceId
  pure (r.answer session client.flavor activeSessions)

theorem login_eq (s : LoginService) (fresh : Fresh) (request : LoginRequest)
    (transport : Transport) :
    s.login fresh request transport = (do
      accept (Validation.login request.email request.password)
      withDeadline deadlineContext (s.stages fresh request transport)) := by
  simp only [login, stages, opened, ready, Ready.answer, bind_assoc, pure_bind]

theorem readOnly_ready (s : LoginService) (fresh : Fresh) (request : LoginRequest)
    (transport : Transport) :
    ReadOnly FaultyStore.storage (s.ready fresh request transport) := by
  unfold ready
  refine ReadOnly.bind (Credentials.readOnly_verify _ _ _) fun identity => ?_
  refine ReadOnly.bind (ReadOnly.bind ReadOnly.now fun now => ReadOnly.inCalendar _) fun pending => ?_
  refine ReadOnly.bind (Resolution.readOnly_resolve _) fun access => ?_
  refine ReadOnly.bind (ReadOnly.bind ReadOnly.now fun now => ReadOnly.inCalendar _) fun issued => ?_
  exact ReadOnly.pure _

theorem commutes_ready {label : String} (hemail : "find_by_email" ≠ label)
    (hroles : "role_assignments" ≠ label) (s : LoginService) (fresh : Fresh)
    (request : LoginRequest) (transport : Transport) :
    Commutes FaultyStore.storage (FaultyStore.mend label)
      (s.ready fresh request transport) := by
  unfold ready
  refine Commutes.bind (Credentials.commutes_verify hemail _ _ _) fun identity => ?_
  refine Commutes.bind (Commutes.bind Commutes.now fun now => Commutes.inCalendar _) fun pending => ?_
  refine Commutes.bind (Resolution.commutes_resolve hroles _) fun access => ?_
  refine Commutes.bind (Commutes.bind Commutes.now fun now => Commutes.inCalendar _) fun issued => ?_
  exact Commutes.pure _

/-- Mending the listing is not seen before the listing. -/
theorem commutes_opened (s : LoginService) (fresh : Fresh) (request : LoginRequest)
    (transport : Transport) :
    Commutes FaultyStore.storage (FaultyStore.mend "list_active")
      (s.opened fresh request transport) := by
  unfold opened
  refine Commutes.bind (commutes_ready (by decide) (by decide) s fresh request transport) fun r => ?_
  exact Commutes.bind (Sessions.commutes_commit (by decide) r.pending) fun _ => Commutes.pure _

theorem opened_error_unchanged {stop : Stop}
    (h : outcome (s.opened fresh request transport) FaultyStore.storage w = (.error stop, w')) :
    w' = w := by
  unfold opened at h
  cases hr : outcome (s.ready fresh request transport) FaultyStore.storage w with
  | mk result w₁ =>
      have hw : w₁ = w := (readOnly_ready s fresh request transport).eq_of_outcome hr
      rw [hw] at hr
      cases result with
      | error stop =>
          rw [outcome_bind_error hr] at h
          cases h
          rfl
      | ok r =>
          rw [outcome_bind_ok hr, outcome_bind] at h
          cases hc : outcome (Sessions.commit r.pending) FaultyStore.storage w with
          | mk result w₂ =>
              rw [hc] at h
              cases result with
              | error stop =>
                  cases h
                  exact Sessions.commit_error_unchanged hc
              | ok session => cases h

/-- The stages up to the write, taken apart: making ready read the world, and the commit carried out
its rotation. -/
theorem opened_ok {r : Ready} {session : Session}
    (h : outcome (s.opened fresh request transport) FaultyStore.storage w = (.ok (r, session), w')) :
    outcome (s.ready fresh request transport) FaultyStore.storage w = (.ok r, w) ∧
      session = r.pending.session ∧
      w.stored.store.rotate (r.pending.rotation w.now) =
        .ok (.committed (w.stored.store.supersededIds (r.pending.rotation w.now)),
          w.stored.store.afterRotation (r.pending.rotation w.now)) ∧
      w' = { w with stored :=
        { w.stored with store := w.stored.store.afterRotation (r.pending.rotation w.now) } } := by
  unfold opened at h
  obtain ⟨r', w₁, hr, h⟩ := bind_eq_ok.mp h
  obtain ⟨session', w₂, hc, h⟩ := bind_eq_ok.mp h
  cases h
  have hw : w₁ = w := (readOnly_ready s fresh request transport).eq_of_outcome hr
  rw [hw] at hr hc
  exact ⟨hr, Sessions.commit_ok hc⟩

/-! ### Errors of a login -/

theorem login_of_invalid {failure : Failure}
    (hv : Validation.login request.email request.password = .error failure)
    (w : World FaultyStore) :
    outcome (s.login fresh request transport) FaultyStore.storage w =
      (.error (.refused failure), w) := by
  rw [login_eq]
  refine outcome_bind_error ?_
  rw [outcome_accept, hv]
  rfl

theorem login_of_valid (hv : Validation.login request.email request.password = .ok ())
    {result : Except Stop LoginAnswer}
    (h : outcome (s.stages fresh request transport) FaultyStore.storage w = (result, w')) :
    outcome (s.login fresh request transport) FaultyStore.storage w =
      (result.mapError (deadlined deadlineContext), w') := by
  have ha : outcome (accept (Validation.login request.email request.password))
      FaultyStore.storage w = (.ok (), w) := by
    rw [outcome_accept, hv]
    rfl
  rw [login_eq, outcome_bind_ok ha, outcome_withDeadline, h]

theorem login_of_unopened (hv : Validation.login request.email request.password = .ok ())
    {stop : Stop}
    (h : outcome (s.opened fresh request transport) FaultyStore.storage w = (.error stop, w')) :
    ∃ stop, outcome (s.login fresh request transport) FaultyStore.storage w = (.error stop, w') :=
  ⟨_, login_of_valid hv (outcome_bind_error h)⟩

theorem login_of_unlisted (hv : Validation.login request.email request.password = .ok ())
    {opening : Ready × Session} {fault : StoreFault}
    (h : outcome (s.opened fresh request transport) FaultyStore.storage w = (.ok opening, w'))
    (hf : w'.stored.faults.lookup "list_active" = some fault) :
    ∃ stop, outcome (s.login fresh request transport) FaultyStore.storage w = (.error stop, w') := by
  have hs : outcome (s.stages fresh request transport) FaultyStore.storage w =
      (.error (stopOf none fault.trouble), w') :=
    (outcome_bind_ok h).trans (outcome_bind_error (Sessions.list_of_faulted hf _ _))
  exact ⟨_, login_of_valid hv hs⟩

theorem login_of_listed (hv : Validation.login request.email request.password = .ok ())
    {r : Ready} {session : Session}
    (h : outcome (s.opened fresh request transport) FaultyStore.storage w = (.ok (r, session), w'))
    (hf : w'.stored.faults.lookup "list_active" = none) :
    outcome (s.login fresh request transport) FaultyStore.storage w =
      let client := Client.classify request.hints transport
      (.ok (r.answer session client.flavor
        ((w'.stored.store.listActive r.identity.id w'.now).map (·.summary client.deviceId))),
        w') := by
  have hs : outcome (s.stages fresh request transport) FaultyStore.storage w = (.ok _, w') :=
    (outcome_bind_ok h).trans (outcome_bind_ok (Sessions.list_of_sound hf _ _))
  exact login_of_valid hv hs

/-- **A login that fails writes nothing, unless its listing is what fails.**  A login ends with an
error and changes the sessions if and only if the listing after its write is faulted, and the login
would succeed if it were not. -/
theorem login_error_writes_iff (s : LoginService) (fresh : Fresh) (request : LoginRequest)
    (transport : Transport) (w : World FaultyStore) :
    let run := outcome (s.login fresh request transport) FaultyStore.storage
    ((∃ stop, (run w).1 = .error stop) ∧
        (run w).2.stored.store.sessions ≠ w.stored.store.sessions) ↔
      (w.stored.faults.lookup "list_active").isSome ∧
        ∃ answer, (run { w with stored := w.stored.mend "list_active" }).1 = .ok answer := by
  intro run
  have hmended := commutes_opened s fresh request transport w
  cases hv : Validation.login request.email request.password with
  | error failure =>
      -- Refused input: the login ends at once, mended or not.
      have hrun : ∀ w, run w = (.error (.refused failure), w) := login_of_invalid hv
      constructor
      · rintro ⟨_, hne⟩
        rw [hrun] at hne
        exact absurd rfl hne
      · rintro ⟨_, answer, ha⟩
        rw [hrun] at ha
        cases ha
  | ok =>
      cases ho : outcome (s.opened fresh request transport) FaultyStore.storage w with
      | mk result w₁ =>
          rw [ho] at hmended
          cases result with
          | error stop =>
              -- The login stops before its write is done, mended or not.
              obtain ⟨_, hrun⟩ := login_of_unopened hv ho
              obtain ⟨_, hrun'⟩ := login_of_unopened hv hmended
              constructor
              · rintro ⟨_, hne⟩
                rw [show run w = _ from hrun, opened_error_unchanged ho] at hne
                exact absurd rfl hne
              · rintro ⟨_, answer, ha⟩
                rw [show run _ = _ from hrun'] at ha
                cases ha
          | ok opening =>
              obtain ⟨hready, _, hrotate, hw₁⟩ := opened_ok ho
              have hfaults : w₁.stored.faults = w.stored.faults := by rw [hw₁]
              have hrun' :=
                login_of_listed hv hmended (FaultyStore.lookup_filter_self "list_active" _)
              have hne : w₁.stored.store.sessions ≠ w.stored.store.sessions := by
                rw [hw₁]
                exact MemoryStore.sessions_afterRotation_ne hrotate
              cases hf : w.stored.faults.lookup "list_active" with
              | none =>
                  have hrun := login_of_listed hv ho (by rw [hfaults, hf])
                  constructor
                  · rintro ⟨⟨stop, he⟩, _⟩
                    rw [show run w = _ from hrun] at he
                    cases he
                  · rintro ⟨hs, _⟩
                    cases hs
              | some fault =>
                  obtain ⟨stop, hrun⟩ := login_of_unlisted hv ho (by rw [hfaults, hf])
                  rw [show run w = _ from hrun, show run _ = _ from hrun']
                  exact ⟨fun _ => ⟨rfl, _, rfl⟩, fun _ => ⟨⟨stop, rfl⟩, hne⟩⟩

end LoginService

namespace Sample

/-- A service that takes every password. -/
def service : LoginService :=
  ⟨{ key := "a key of no fewer than 32 bytes." }, ⟨⟨fun _ _ => .ok "", fun _ _ => true⟩, ""⟩⟩

/-- An enabled account. -/
def identity : Identity := ⟨⟨1⟩, "Ada", "ada@example.org", "", true⟩

/-- A login to the account from a phone. -/
def request : LoginRequest := ⟨"ada@example.org", "secret", ⟨some "phone", none, none, none⟩⟩

/-- The random values of the login. -/
def fresh : Fresh := ⟨⟨⟨2⟩, "refresh"⟩, ⟨3⟩⟩

/-- A world with the account and no sessions. -/
def world (faults : List (String × StoreFault)) : World FaultyStore where
  now := .ofSeconds 0
  blacklist := .empty
  stored := ⟨{ MemoryStore.empty with identities := ⟨[(identity.id, identity)]⟩ }, faults⟩

end Sample

namespace LoginService

/-- A login may end with an error and leave its session behind: its listing does not answer. -/
theorem login_error_may_write :
    ¬ ∀ (s : LoginService) (fresh : Fresh) (request : LoginRequest) (transport : Transport)
      (w : World FaultyStore),
      let run := outcome (s.login fresh request transport) FaultyStore.storage
      (∃ stop, (run w).1 = .error stop) →
        (run w).2.stored.store.sessions = w.stored.store.sessions := by
  intro h
  have hs := h Sample.service Sample.fresh Sample.request ⟨none, none⟩
    (Sample.world [("list_active", .stalls)]) ⟨_, rfl⟩
  have hsize : (1 : Nat) = 0 := congrArg Table.size hs
  cases hsize

end LoginService

end Gatehouse
