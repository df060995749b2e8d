import Gatehouse.Proofs.Service.LoginSuccess
import Gatehouse.Proofs.Service.Refresh
import Gatehouse.Proofs.Store.Renewal
import Mathlib.Data.List.TakeWhile

/-! # What a refresh decides and does

A refresh first works out a renewal of the session behind its token, which only reads, and then
commits it, so it ends with an error and changes nothing or it carries out one rotation
(`refresh_cases`).  `Refreshed` says what a refresh that ends with tokens has done, and what its
tokens are (`refreshed_of_prepared`).

If no store call is faulted, whether a session can be renewed and whether its account is enabled
decide how the refresh ends (`refresh_sound_cases`).  `refresh_exact` puts both together. -/

namespace Gatehouse

open Service

/-! ### Tokens that are not blank -/

theorem exists_mem_dropWhile {α : Type} {p : α → Bool} {l : List α}
    (h : ∃ a ∈ l, p a = false) : ∃ a ∈ l.dropWhile p, p a = false := by
  obtain ⟨a, ha, hp⟩ := h
  rw [← List.takeWhile_append_dropWhile (p := p) (l := l), List.mem_append] at ha
  rcases ha with ha | ha
  · cases hp.symm.trans (List.mem_takeWhile_imp ha)
  · exact ⟨a, ha, hp⟩

theorem Validation.refreshToken_of_notBlank {token : String}
    (h : ∃ c ∈ token.toList, Text.isBlank c = false) : refreshToken token = .ok () := by
  -- Trimming drops blanks in front, and then those in front of what is left reversed.
  obtain ⟨c, hc, hblank⟩ := exists_mem_dropWhile h
  obtain ⟨c, hc, _⟩ := exists_mem_dropWhile ⟨c, List.mem_reverse.mpr hc, hblank⟩
  have htrim : (Text.trim token).isEmpty = false := by
    rw [Bool.eq_false_iff, Ne, String.isEmpty_iff]
    intro hempty
    have hmem : c ∈ (Text.trim token).toList := by
      simpa [Text.trim, Text.trimChars, Text.trimEnd, Text.trimStart] using hc
    rw [hempty] at hmem
    cases hmem
  unfold refreshToken
  rw [htrim]
  rfl

/-! ### The stages of a refresh -/

theorem Sessions.readOnly_findActiveByToken (token : String) :
    ReadOnly FaultyStore.storage (findActiveByToken token) :=
  ReadOnly.bind ReadOnly.now fun _ => ReadOnly.bind (readOnly_store rfl none) fun _ =>
    ReadOnly.pure _

variable {w w' : World FaultyStore}

theorem Sessions.findActiveByToken_of_sound (hf : w.stored.faults = []) (token : String) :
    outcome (findActiveByToken token) FaultyStore.storage w =
      (.ok (w.stored.store.activeByToken token w.now), w) := by
  unfold findActiveByToken findByToken
  rw [outcome_bind_ok outcome_now,
    outcome_bind_ok (outcome_read_of_sound hf (.findByTokenHash _) rfl none)]
  rfl

theorem Sessions.findActiveByToken_eq_ok {token : String} {found : Option Session}
    (h : outcome (findActiveByToken token) FaultyStore.storage w = (.ok found, w')) :
    found = w.stored.store.activeByToken token w.now ∧ w' = w := by
  unfold findActiveByToken findByToken at h
  rw [outcome_bind_ok outcome_now] at h
  obtain ⟨session, w₁, hread, hended⟩ := bind_eq_ok.mp h
  obtain ⟨hanswer, hw₁⟩ := read_eq_ok rfl hread
  cases hanswer
  cases hended
  exact ⟨rfl, hw₁⟩

/-- Without faults a session with a new digest is committed to its device, unless what it replaces
is not active any more. -/
theorem Sessions.commit_of_sound (hf : w.stored.faults = []) {pending : PendingSession}
    (hreplaced : w.stored.store.replacedIsActive (pending.rotation w.now) = true)
    (hhash : w.stored.store.findByTokenHash pending.session.tokenHash = none)
    (hscope : pending.scope = ⟨pending.session.deviceId⟩) :
    outcome (commit pending) FaultyStore.storage w = (.ok pending.session,
      { w with stored :=
        { w.stored with store := w.stored.store.afterRotation (pending.rotation w.now) } }) := by
  have hrotate := MemoryStore.rotate_of_scope (r := pending.rotation w.now) hreplaced hhash hscope
  exact commit_committed
    (FaultyStore.answer_ok (FaultyStore.lookup_of_sound hf "rotate") hrotate)

namespace LoginService

variable {s : LoginService} {fresh : Fresh} {token : String}

/-- The session that is to be renewed, and the enabled account that holds it. -/
def eligible (token : String) : Service (Session × Identity) := do
  let current ← require .unauthenticated (← Sessions.findActiveByToken token)
  let identity ← require .unauthenticated (← store (.findIdentity current.userId))
  if identity.enabled then pure (current, identity) else refuse .inactiveUser

/-- The renewal of a session that an account holds. -/
def renewFor (s : LoginService) (fresh : Fresh) (current : Session) (identity : Identity) :
    Service Renewal := do
  let pending ← Sessions.prepareRotation s.lifetimes fresh.session current
  let access ← Resolution.resolve identity.id
  let issued ← s.sign fresh.tokenId identity access
  pure ⟨pending, issued⟩

/-- The stages of a refresh up to its write. -/
def prepared (s : LoginService) (fresh : Fresh) (token : String) : Service Renewal := do
  let (current, identity) ← eligible token
  s.renewFor fresh current identity

/-- The answer to a refresh whose renewal is committed. -/
def Renewal.answer (r : Renewal) : TokenPair :=
  ⟨r.issued, r.pending.refreshToken, r.pending.session.expiresAt, r.pending.session.flavor⟩

theorem refresh_eq_prepared (s : LoginService) (fresh : Fresh) (token : String) :
    s.refresh fresh token = (do
      accept (Validation.refreshToken token)
      withDeadline deadlineContext (s.prepared fresh token >>= Renewal.commit)) := by
  rw [refresh_eq]
  simp only [prepared, eligible, renewal, renewFor, bind_assoc]
  refine bind_congr fun _ => congrArg (withDeadline deadlineContext) ?_
  refine bind_congr fun found => bind_congr fun current => ?_
  refine bind_congr fun holder => bind_congr fun identity => ?_
  by_cases h : identity.enabled = true
  · simp [h]
  · simp [h, refuse]

/-- What follows the check of the input, under its deadline. -/
theorem refresh_of_valid (hv : Validation.refreshToken token = .ok ())
    {result : Except Stop TokenPair}
    (h : outcome (s.prepared fresh token >>= Renewal.commit) FaultyStore.storage w = (result, w')) :
    outcome (s.refresh fresh token) FaultyStore.storage w =
      (result.mapError (deadlined deadlineContext), w') := by
  have haccept : outcome (accept (.ok ())) FaultyStore.storage w = (.ok (), w) := outcome_accept _
  rw [refresh_eq_prepared, hv, outcome_bind_ok haccept, outcome_withDeadline, h]

theorem readOnly_prepared (s : LoginService) (fresh : Fresh) (token : String) :
    ReadOnly FaultyStore.storage (s.prepared fresh token) := by
  unfold prepared eligible renewFor
  refine ReadOnly.bind ?_ fun _ => ?_
  · refine ReadOnly.bind (Sessions.readOnly_findActiveByToken _) fun found => ?_
    refine ReadOnly.bind (ReadOnly.require _ _) fun current => ?_
    refine ReadOnly.bind (readOnly_store rfl none) fun _ => ?_
    refine ReadOnly.bind (ReadOnly.require _ _) fun identity => ?_
    by_cases h : identity.enabled = true
    · rw [if_pos h]
      exact ReadOnly.pure _
    · rw [if_neg h]
      exact ReadOnly.refuse .inactiveUser
  refine ReadOnly.bind (ReadOnly.bind ReadOnly.now fun _ => ReadOnly.inCalendar _) fun pending => ?_
  refine ReadOnly.bind (Resolution.readOnly_resolve _) fun access => ?_
  refine ReadOnly.bind (ReadOnly.bind ReadOnly.now fun _ => ReadOnly.inCalendar _) fun issued => ?_
  exact ReadOnly.pure _

/-- **The ends of a refresh.**  It ends with an error and changes nothing, or it has carried out the
rotation of its renewal. -/
theorem refresh_cases (s : LoginService) (fresh : Fresh) (token : String) (w : World FaultyStore) :
    (∃ stop, outcome (s.refresh fresh token) FaultyStore.storage w = (.error stop, w)) ∨
    ∃ r : Renewal, outcome (s.prepared fresh token) FaultyStore.storage w = (.ok r, w) ∧
      outcome (s.refresh fresh token) FaultyStore.storage w = (.ok r.answer,
        { w with stored :=
          { w.stored with store := w.stored.store.afterRotation (r.pending.rotation w.now) } }) := by
  cases hv : Validation.refreshToken token with
  | error failure =>
      rw [refresh_eq_prepared, hv]
      exact .inl ⟨.refused failure, outcome_bind_error (outcome_accept _)⟩
  | ok =>
      cases hr : outcome (s.prepared fresh token) FaultyStore.storage w with
      | mk result w₁ =>
          have hw₁ : w₁ = w := (readOnly_prepared s fresh token).eq_of_outcome hr
          rw [hw₁] at hr ⊢
          cases result with
          | error stop => exact .inl ⟨_, refresh_of_valid hv (outcome_bind_error hr)⟩
          | ok r =>
              rcases Sessions.commit_cases r.pending w with ⟨stop, hc⟩ | ⟨_, hc⟩
              · exact .inl ⟨_, refresh_of_valid hv
                  ((outcome_bind_ok hr).trans (outcome_bind_error hc))⟩
              · exact .inr ⟨r, rfl, refresh_of_valid hv
                  ((outcome_bind_ok hr).trans (outcome_bind_ok hc))⟩

/-! ### What a renewal is -/

theorem eligible_eq_ok {old : Session} {identity : Identity}
    (h : outcome (eligible token) FaultyStore.storage w = (.ok (old, identity), w')) :
    w.stored.store.activeByToken token w.now = some old ∧
      w.stored.store.identities.get? old.userId = some identity ∧ identity.enabled = true ∧
      w' = w := by
  unfold eligible at h
  obtain ⟨found, w₁, hfind, h⟩ := bind_eq_ok.mp h
  obtain ⟨hactive, hw₁⟩ := Sessions.findActiveByToken_eq_ok hfind
  obtain ⟨current, w₂, hcurrent, h⟩ := bind_eq_ok.mp h
  obtain ⟨hfound, hw₂⟩ := require_eq_ok hcurrent
  rw [hw₂, hw₁] at h
  obtain ⟨holder, w₃, hread, h⟩ := bind_eq_ok.mp h
  obtain ⟨hanswer, hw₃⟩ := read_eq_ok rfl hread
  cases hanswer
  obtain ⟨user, w₄, huser, h⟩ := bind_eq_ok.mp h
  obtain ⟨hholder, hw₄⟩ := require_eq_ok huser
  by_cases henabled : user.enabled = true
  · rw [if_pos henabled] at h
    cases h
    exact ⟨hactive.symm.trans hfound, hholder, henabled, hw₄.trans hw₃⟩
  · rw [if_neg henabled] at h
    cases h

theorem renewFor_eq_ok {old : Session} {identity : Identity} {r : Renewal}
    (h : outcome (s.renewFor fresh old identity) FaultyStore.storage w = (.ok r, w')) :
    PendingSession.ofRefresh s.lifetimes fresh.session w.now old = some r.pending ∧
      ∃ access, outcome (Resolution.resolve identity.id) FaultyStore.storage w = (.ok access, w) ∧
        Token.issue s.settings w.now fresh.tokenId identity access = some r.issued := by
  unfold renewFor at h
  obtain ⟨pending, w₁, hprepare, h⟩ := bind_eq_ok.mp h
  obtain ⟨hpending, hw₁⟩ := Sessions.prepareRotation_eq_ok hprepare
  rw [hw₁] at h
  obtain ⟨access, w₂, hresolve, h⟩ := bind_eq_ok.mp h
  rw [(Resolution.resolve_eq_ok hresolve).2] at h hresolve
  obtain ⟨issued, w₃, hsign, h⟩ := bind_eq_ok.mp h
  cases h
  exact ⟨hpending, access, hresolve, (sign_eq_ok hsign).1⟩

/-! ### Renewals without faults -/

/-- **Who can renew.**  Without faults a session that can be renewed is found, and its account is
enabled or not; or there is none. -/
theorem eligible_cases (hst : w.stored.store.Orderly) (hf : w.stored.faults = [])
    (token : String) :
    (∃ old identity, w.stored.store.Renewable token w.now old identity ∧
      (identity.enabled = true ∧
          outcome (eligible token) FaultyStore.storage w = (.ok (old, identity), w) ∨
        identity.enabled = false ∧
          outcome (eligible token) FaultyStore.storage w =
            (.error (.refused .inactiveUser), w))) ∨
    (∀ old identity, ¬ w.stored.store.Renewable token w.now old identity) ∧
      outcome (eligible token) FaultyStore.storage w =
        (.error (.refused .unauthenticated), w) := by
  have hunauthenticated : ∀ {α : Type}, outcome (require .unauthenticated (none : Option α))
      FaultyStore.storage w = (.error (.refused .unauthenticated), w) := outcome_require _ _
  -- Two lookups decide, in this order; each that finds nothing ends as unauthenticated.
  unfold eligible
  rw [outcome_bind_ok (Sessions.findActiveByToken_of_sound hf token)]
  cases hactive : w.stored.store.activeByToken token w.now with
  | none =>
      refine .inr ⟨fun old identity h => ?_, outcome_bind_error hunauthenticated⟩
      rw [hst.renewable_iff, hactive] at h
      cases h.1
  | some old =>
      have hread : outcome (store (.findIdentity old.userId)) FaultyStore.storage w =
          (.ok (w.stored.store.identities.get? old.userId), w) :=
        outcome_read_of_sound hf (.findIdentity old.userId) rfl none
      rw [outcome_bind_ok (outcome_require _ _), outcome_bind_ok hread]
      cases hholder : w.stored.store.identities.get? old.userId with
      | none =>
          refine .inr ⟨fun old' identity h => ?_, outcome_bind_error hunauthenticated⟩
          rw [hst.renewable_iff, hactive] at h
          cases h.1
          cases hholder.symm.trans h.2
      | some identity =>
          have hrenewable := hst.renewable_iff.mpr ⟨hactive, hholder⟩
          rw [outcome_bind_ok (outcome_require _ _)]
          refine .inl ⟨old, identity, hrenewable, ?_⟩
          cases henabled : identity.enabled with
          | true => exact .inl ⟨rfl, rfl⟩
          | false => exact .inr ⟨rfl, rfl⟩

/-- The calendar holds the ends of what a refresh makes now. -/
def InCalendar (s : LoginService) (now : Instant) : Prop :=
  (∃ expiry, now.add? (Token.lifetime s.settings) = some expiry) ∧
    ∀ flavor, ∃ expiry, now.add? (s.lifetimes.ofFlavor flavor) = some expiry

/-- The calendar holds the end of an access token. -/
theorem InCalendar.issue {now : Instant} (hc : s.InCalendar now) (tokenId : Uuid)
    (identity : Identity) (access : Access) :
    ∃ issued, Token.issue s.settings now tokenId identity access = some issued := by
  obtain ⟨⟨expiresAt, hissued⟩, _⟩ := hc
  unfold Token.issue
  rw [hissued]
  exact ⟨_, rfl⟩

/-- The calendar holds the end of the session of a login. -/
theorem InCalendar.ofLogin {now : Instant} (hc : s.InCalendar now) (seed : SessionSeed)
    (userId : Uuid) (client : ClientInfo) :
    ∃ pending, PendingSession.ofLogin s.lifetimes seed now userId client = some pending := by
  obtain ⟨expiresAt, hexpiry⟩ := hc.2 client.flavor
  unfold PendingSession.ofLogin
  rw [hexpiry]
  exact ⟨_, rfl⟩

/-- The calendar holds the end of the session of a refresh. -/
theorem InCalendar.ofRefresh {now : Instant} (hc : s.InCalendar now) (seed : SessionSeed)
    (current : Session) :
    ∃ pending, PendingSession.ofRefresh s.lifetimes seed now current = some pending := by
  obtain ⟨expiresAt, hexpiry⟩ := hc.2 current.flavor
  unfold PendingSession.ofRefresh
  rw [hexpiry]
  exact ⟨_, rfl⟩

theorem renewFor_of_sound (hf : w.stored.faults = []) (hc : s.InCalendar w.now) (fresh : Fresh)
    (old : Session) (identity : Identity) :
    ∃ r, outcome (s.renewFor fresh old identity) FaultyStore.storage w = (.ok r, w) := by
  obtain ⟨pending, hprepare⟩ := hc.ofRefresh fresh.session old
  obtain ⟨issued, hissue⟩ := hc.issue fresh.tokenId identity
    (Access.flatten (w.stored.store.roleAssignments identity.id))
  refine ⟨⟨pending, issued⟩, ?_⟩
  have hprepared := Sessions.outcome_prepareRotation (w := w) s.lifetimes fresh.session old
  have hsigned := s.outcome_sign (w := w) fresh.tokenId identity
    (Access.flatten (w.stored.store.roleAssignments identity.id))
  rw [hprepare] at hprepared
  rw [hissue] at hsigned
  unfold renewFor
  rw [outcome_bind_ok hprepared, outcome_bind_ok (Resolution.resolve_of_sound hf _),
    outcome_bind_ok hsigned]
  rfl

theorem refresh_of_eligible_error (hv : Validation.refreshToken token = .ok ()) {stop : Stop}
    (h : outcome (eligible token) FaultyStore.storage w = (.error stop, w)) :
    outcome (s.refresh fresh token) FaultyStore.storage w =
      (.error (deadlined deadlineContext stop), w) := by
  have hprepared : outcome (s.prepared fresh token) FaultyStore.storage w = (.error stop, w) :=
    outcome_bind_error h
  exact refresh_of_valid hv (outcome_bind_error hprepared)

/-- Without faults the renewal of a session by a fresh one is committed. -/
theorem refresh_of_eligible (hv : Validation.refreshToken token = .ok ())
    (hf : w.stored.faults = []) (hc : s.InCalendar w.now)
    (hhash : w.stored.store.findByTokenHash (refreshTokenHash fresh.session.refreshToken) = none)
    {old : Session} {identity : Identity}
    (hr : w.stored.store.Renewable token w.now old identity)
    (h : outcome (eligible token) FaultyStore.storage w = (.ok (old, identity), w)) :
    ∃ pair, (outcome (s.refresh fresh token) FaultyStore.storage w).1 = .ok pair := by
  obtain ⟨r, hrenew⟩ := renewFor_of_sound hf hc fresh old identity
  obtain ⟨hpending, _⟩ := renewFor_eq_ok hrenew
  obtain ⟨expiresAt, _, hsession, _, hscope, _, hreplaces⟩ :=
    PendingSession.ofRefresh_eq_some hpending
  have hnew : w.stored.store.findByTokenHash r.pending.session.tokenHash = none := by
    rw [hsession]
    exact hhash
  have hdevice : r.pending.scope = ⟨r.pending.session.deviceId⟩ := by
    rw [hsession]
    exact hscope
  have hactive : old.isActive w.now = true :=
    Session.isActive_iff.mpr ⟨hr.not_revoked, hr.not_expired⟩
  have hreplaced : w.stored.store.replacedIsActive (r.pending.rotation w.now) = true := by
    unfold MemoryStore.replacedIsActive PendingSession.rotation
    rw [hreplaces, Option.all_some, hr.stored, Option.any_some, hactive]
  have hprepared : outcome (s.prepared fresh token) FaultyStore.storage w = (.ok r, w) :=
    (outcome_bind_ok h).trans hrenew
  have hcommit := Sessions.commit_of_sound hf hreplaced hnew hdevice
  have hrefresh := refresh_of_valid hv ((outcome_bind_ok hprepared).trans (outcome_bind_ok hcommit))
  exact ⟨_, congrArg Prod.fst hrefresh⟩

/-! ### What a refresh decides and does -/

/-- A refresh has replaced a session by a new one and was answered. -/
structure Refreshed (s : LoginService) (token : String) (w w' : World FaultyStore)
    (old new : Session) (pair : TokenPair) : Prop where
  /-- The session could be renewed, and its account is enabled. -/
  renewable : ∃ identity, w.stored.store.Renewable token w.now old identity ∧
    identity.enabled = true
  /-- The new session is the old one in all that does not belong to one token. -/
  renewed : new = { old with
    id := new.id, tokenHash := Sha256.digest (Bytes.ofText pair.refreshToken)
    issuedAt := w.now, expiresAt := pair.refreshExpiry, lastUsed := w.now
    revoked := false, revokedReason := none, revokedAt := none }
  lifetime : w.now.add? (s.lifetimes.ofFlavor old.flavor) = some pair.refreshExpiry
  flavor : pair.flavor = old.flavor
  replaces : w.stored.store.Replaces w'.stored.store old new w.now
  world : w' = { w with stored := { w.stored with store := w'.stored.store } }
  /-- The access token names the account with the access that the resolver yields now. -/
  access : ∃ access principal,
    outcome (Resolution.resolve old.userId) FaultyStore.storage w = (.ok access, w) ∧
      Token.validate s.settings w.now pair.accessToken.token = .ok principal ∧
      principal.userId = some old.userId ∧ principal.roles = access.roles ∧
      principal.permissions = access.permissions

theorem refreshed_of_prepared (hs : s.settings.Built) (hreach : w.stored.store.Reachable)
    (hnow : 0 ≤ w.now.second) (hfree : w.stored.store.sessions.get? fresh.session.id = none)
    {r : Renewal} (h : outcome (s.prepared fresh token) FaultyStore.storage w = (.ok r, w)) :
    ∃ old, r.pending.session.id = fresh.session.id ∧
      s.Refreshed token w
        { w with stored :=
          { w.stored with store := w.stored.store.afterRotation (r.pending.rotation w.now) } }
        old r.pending.session r.answer := by
  obtain ⟨⟨old, identity⟩, w₁, heligible, hrenew⟩ := bind_eq_ok.mp h
  obtain ⟨hactive, hholder, henabled, hw₁⟩ := eligible_eq_ok heligible
  rw [hw₁] at hrenew
  obtain ⟨hpending, access, hresolve, hissue⟩ := renewFor_eq_ok hrenew
  obtain ⟨expiresAt, hlifetime, hsession, hrefresh, hscope, hreason, hreplaces⟩ :=
    PendingSession.ofRefresh_eq_some hpending
  have hrenewable := hreach.orderly.renewable_iff.mpr ⟨hactive, hholder⟩
  have hvalid := Token.validate_issue_now hs hnow hissue
  -- The access is resolved for the id in the account, which is the one in the session.
  have hid : identity.id = old.userId := hreach.identity_id hholder
  rw [hid] at hresolve hvalid
  have hnew : w.stored.store.sessions.get? r.pending.session.id = none := by
    rw [hsession]
    exact hfree
  have huser : r.pending.session.userId = old.userId := by rw [hsession]
  have hreplaced := MemoryStore.replaces_afterRotation (r := r.pending.rotation w.now) hreach.orderly
    hrenewable.stored hrenewable.not_revoked hnew huser hscope hreason hreplaces
  refine ⟨old, by rw [hsession], ?_⟩
  exact
    { renewable := ⟨identity, hrenewable, henabled⟩
      renewed := by
        unfold Renewal.answer
        rw [hrefresh, hsession]
        rfl
      lifetime := by
        unfold Renewal.answer
        rw [hsession]
        exact hlifetime
      flavor := by
        unfold Renewal.answer
        rw [hsession]
      replaces := hreplaced
      world := rfl
      access := ⟨access, _, hresolve, hvalid, rfl, rfl, rfl⟩ }

/-- **The ends of a refresh without faults.**  A session that can be renewed is renewed if its
account is enabled, and refused for the account if it is not; where there is no such session the
token is not accepted. -/
theorem refresh_sound_cases (hst : w.stored.store.Orderly) (hf : w.stored.faults = [])
    (hc : s.InCalendar w.now)
    (hhash : w.stored.store.findByTokenHash (refreshTokenHash fresh.session.refreshToken) = none)
    (hv : Validation.refreshToken token = .ok ()) :
    let run := outcome (s.refresh fresh token) FaultyStore.storage w
    (∃ old identity, w.stored.store.Renewable token w.now old identity ∧
      (identity.enabled = true ∧ (∃ pair, run.1 = .ok pair) ∨
        identity.enabled = false ∧ run.1 = .error (.refused .inactiveUser))) ∨
    (∀ old identity, ¬ w.stored.store.Renewable token w.now old identity) ∧
      run.1 = .error (.refused .unauthenticated) := by
  intro run
  rcases eligible_cases hst hf token with
    ⟨old, identity, hr, ⟨henabled, he⟩ | ⟨hdisabled, he⟩⟩ | ⟨hnone, he⟩
  · exact .inl ⟨old, identity, hr, .inl ⟨henabled, refresh_of_eligible hv hf hc hhash hr he⟩⟩
  · refine .inl ⟨old, identity, hr, .inr ⟨hdisabled, ?_⟩⟩
    exact congrArg Prod.fst (refresh_of_eligible_error hv he)
  · exact .inr ⟨hnone, congrArg Prod.fst (refresh_of_eligible_error hv he)⟩

/-- What decides how a refresh ends without faults. -/
theorem refresh_of_sound (hst : w.stored.store.Orderly) (hf : w.stored.faults = [])
    (hc : s.InCalendar w.now)
    (hhash : w.stored.store.findByTokenHash (refreshTokenHash fresh.session.refreshToken) = none)
    (hv : Validation.refreshToken token = .ok ()) :
    let run := outcome (s.refresh fresh token) FaultyStore.storage w
    ((∃ pair, run.1 = .ok pair) ↔ ∃ old identity,
      w.stored.store.Renewable token w.now old identity ∧ identity.enabled = true) ∧
    (run.1 = .error (.refused .inactiveUser) ↔ ∃ old identity,
      w.stored.store.Renewable token w.now old identity ∧ identity.enabled = false) ∧
    (run.1 = .error (.refused .unauthenticated) ↔ ∀ old identity,
      ¬ w.stored.store.Renewable token w.now old identity) := by
  intro run
  rcases refresh_sound_cases (s := s) hst hf hc hhash hv with
    ⟨old, identity, hr, hend⟩ | ⟨hnone, hend⟩
  · have hholder : ∀ enabled : Bool, (∃ old identity,
        w.stored.store.Renewable token w.now old identity ∧ identity.enabled = enabled) ↔
          identity.enabled = enabled := by
      intro enabled
      constructor
      · rintro ⟨old', identity', hr', henabled⟩
        rw [hst.renewable_unique hr hr'] at henabled
        exact henabled
      · intro henabled
        exact ⟨old, identity, hr, henabled⟩
    have hsome : ¬ ∀ old identity, ¬ w.stored.store.Renewable token w.now old identity :=
      fun h => h old identity hr
    rw [hholder, hholder]
    rcases hend with ⟨henabled, pair, hpair⟩ | ⟨hdisabled, hend⟩
    · have hrun : run.1 = .ok pair := hpair
      simp [hrun, henabled, hsome]
    · have hrun : run.1 = .error (.refused .inactiveUser) := hend
      simp [hrun, hdisabled, hsome]
  · have hrun : run.1 = .error (.refused .unauthenticated) := hend
    simp [hrun, hnone]

/-- **A refresh is exact.**  In every store that can come about, from 1970 on and with drawn values
that are new to the store: a refresh that ends with an error has changed nothing, whatever calls are
faulted; one that ends with tokens has replaced the session behind its token and done nothing else.
Without faults, for a token that is not blank and where the calendar holds the lifetimes, it ends
with tokens if and only if an active session has the digest of the token and its account exists and
is enabled; it tells of the account if only that is disabled, and accepts the token in no other
case. -/
theorem refresh_exact (s : LoginService) (hs : s.settings.Built) (fresh : Fresh) (token : String)
    {w : World FaultyStore} (hreach : w.stored.store.Reachable) (hnow : 0 ≤ w.now.second)
    (hfree : w.stored.store.sessions.get? fresh.session.id = none)
    (hhash :
      w.stored.store.findByTokenHash (refreshTokenHash fresh.session.refreshToken) = none) :
    let run := outcome (s.refresh fresh token) FaultyStore.storage w
    (∀ stop, run.1 = .error stop → run.2 = w) ∧
    (∀ pair, run.1 = .ok pair → ∃ old new, new.id = fresh.session.id ∧
      s.Refreshed token w run.2 old new pair) ∧
    (w.stored.faults = [] → s.InCalendar w.now → (∃ c ∈ token.toList, Text.isBlank c = false) →
      ((∃ pair, run.1 = .ok pair) ↔ ∃ old identity,
        w.stored.store.Renewable token w.now old identity ∧ identity.enabled = true) ∧
      (run.1 = .error (.refused .inactiveUser) ↔ ∃ old identity,
        w.stored.store.Renewable token w.now old identity ∧ identity.enabled = false) ∧
      (run.1 = .error (.refused .unauthenticated) ↔ ∀ old identity,
        ¬ w.stored.store.Renewable token w.now old identity)) := by
  intro run
  refine ⟨?_, ?_, ?_⟩
  · intro stop hstop
    rcases refresh_cases s fresh token w with ⟨_, hend⟩ | ⟨r, _, hend⟩
    · exact congrArg Prod.snd hend
    · cases hstop.symm.trans (congrArg Prod.fst hend)
  · intro pair hpair
    rcases refresh_cases s fresh token w with ⟨_, hend⟩ | ⟨r, hprepared, hend⟩
    · cases hpair.symm.trans (congrArg Prod.fst hend)
    · have hanswer : r.answer = pair :=
        Except.ok.inj ((congrArg Prod.fst hend).symm.trans hpair)
      obtain ⟨old, hid, hrefreshed⟩ := refreshed_of_prepared hs hreach hnow hfree hprepared
      have hworld : run.2 = _ := congrArg Prod.snd hend
      rw [hworld, ← hanswer]
      exact ⟨old, _, hid, hrefreshed⟩
  · intro hf hc hblank
    exact refresh_of_sound hreach.orderly hf hc hhash (Validation.refreshToken_of_notBlank hblank)

end LoginService

namespace Sample

/-- A session of the account on a phone. -/
def session : Session where
  id := ⟨7⟩
  userId := identity.id
  tokenHash := refreshTokenHash "first"
  flavor := .mobile
  issuedAt := .ofSeconds 0
  expiresAt := .ofSeconds 60
  lastUsed := .ofSeconds 0
  revoked := false
  revokedReason := none
  revokedAt := none
  deviceId := "phone"
  deviceName := "Phone"
  platform := "ios"
  appVersion := none
  userAgent := none
  ipAddress := none

/-- The store with the account and its session. -/
def store : MemoryStore :=
  { MemoryStore.empty with
    identities := ⟨[(identity.id, identity)]⟩, sessions := ⟨[(session.id, session)]⟩ }

theorem reachable_store : store.Reachable :=
  .call (.change .empty (.insertIdentity identity))
    (.rotate ⟨⟨"phone"⟩, reasonMobileLogin, session, .ofSeconds 0, none⟩)

theorem renewable_session : store.Renewable "first" (.ofSeconds 0) session identity where
  stored := rfl
  tokenHash := rfl
  not_revoked := rfl
  not_expired := by decide
  holder := rfl

theorem active_first : store.activeByToken "first" (.ofSeconds 0) = some session :=
  (reachable_store.orderly.renewable_iff.mp renewable_session).1

theorem find_refresh : store.findByTokenHash (refreshTokenHash "refresh") = none := by
  decide +kernel

theorem valid_first : Validation.refreshToken "first" = .ok () :=
  Validation.refreshToken_of_notBlank ⟨_, .head _, rfl⟩

theorem inCalendar_service : service.InCalendar (.ofSeconds 0) := by
  refine ⟨⟨_, rfl⟩, fun flavor => ?_⟩
  cases flavor with
  | mobile => exact ⟨_, rfl⟩
  | web => exact ⟨_, rfl⟩

end Sample

namespace LoginService

/-- The session of the sample account is renewed. -/
theorem refresh_exact_renews :
    let w : World FaultyStore := ⟨.ofSeconds 0, .empty, ⟨Sample.store, []⟩⟩
    ∃ w' old new pair, new.id = Sample.fresh.session.id ∧
      Sample.service.Refreshed "first" w w' old new pair := by
  intro w
  obtain ⟨_, hrefreshed, hdecided⟩ := refresh_exact Sample.service Sample.built_service Sample.fresh
    "first" (w := w) Sample.reachable_store (Int.le_refl 0) rfl Sample.find_refresh
  obtain ⟨hok, _⟩ := hdecided rfl Sample.inCalendar_service ⟨_, .head _, rfl⟩
  obtain ⟨pair, hpair⟩ := hok.mpr ⟨_, _, Sample.renewable_session, rfl⟩
  obtain ⟨old, new, hid, h⟩ := hrefreshed pair hpair
  exact ⟨_, old, new, pair, hid, h⟩

end LoginService

end Gatehouse
