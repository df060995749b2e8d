import Gatehouse.Proofs.Concurrency.Keeping
import Gatehouse.Proofs.Concurrency.LoggedOut
import Gatehouse.Proofs.Service.Meanwhile
import Gatehouse.Proofs.Service.Renewal
import Gatehouse.Proofs.Store.Logout

/-! # What a logout leaves behind

A logout ends the session of its refresh token and then refuses its access token.  The first part
may break off, and has then changed nothing (`elapses_endSession`); the second does not break off
(`elapses_refusing`).

After a logout that ended well the session has ended, and the access token is covered by the
blacklist for as long as it would be valid (`LoggedOut`).  Both last as long as others spare the
logout (`Spares`, `LoggedOut.meanwhile`), as operations do that draw tokens of their own
(`meanwhile_spares`), and they are all that a later refresh and the next logout depend on
(`LoggedOut.refresh`, `LoggedOut.again`).  `logout_effective` puts this together. -/

namespace Gatehouse

open Service

variable {w w₁ w' : World FaultyStore}

/-! ### Authentications that agree -/

/-- An authentication sees nothing of the world but the clock and which ids are refused. -/
theorem AuthorizationService.authenticate_congr (s : AuthorizationService) {t : Instant}
    (hrevoked : ∀ id, w'.blacklist.isRevoked id t = w.blacklist.isRevoked id t) (bearer : String) :
    (outcome (s.authenticate bearer) FaultyStore.storage { w' with now := t }).1 =
      (outcome (s.authenticate bearer) FaultyStore.storage { w with now := t }).1 := by
  have haccepts (principal : Principal) : s.Accepts { w' with now := t } bearer principal ↔
      s.Accepts { w with now := t } bearer principal := by
    constructor
    · intro h
      exact ⟨h.valid, fun hb => (hrevoked _).symm.trans (h.not_refused hb)⟩
    · intro h
      exact ⟨h.valid, fun hb => (hrevoked _).trans (h.not_refused hb)⟩
  rcases authenticate_cases s { w with now := t } bearer with
    ⟨principal, h, hend⟩ | ⟨hrejected, hend⟩
  · rw [hend, authenticate_of_accepts ((haccepts principal).mpr h)]
  · rcases authenticate_cases s { w' with now := t } bearer with ⟨principal, h, _⟩ | ⟨_, hend'⟩
    · exact absurd ((haccepts principal).mp h) (hrejected principal)
    · rw [hend, hend']

/-! ### Tokens that operations draw -/

/-- The operation draws the refresh token for a new session. -/
def Operation.DrawsToken : Operation → String → Prop
  | login fresh _ _, token => token = fresh.session.refreshToken
  | refresh fresh _, token => token = fresh.session.refreshToken
  | _, _ => False

/-- What an operation adds to the sessions has the digest of the token that it drew. -/
theorem Operation.within_drawn (s : LoginService) (o : Operation) :
    (o.service s).Within (fun op => ∀ r, op = .store (.rotate r) →
      ∃ token, o.DrawsToken token ∧ r.session.tokenHash = refreshTokenHash token) AnyValue := by
  by_cases hdraws : ∃ id, o.Draws id
  · obtain ⟨_, hdraws⟩ := hdraws
    cases o with
    | login fresh request transport =>
        refine Within.bind ((s.within_login fresh request transport).mono ?_ fun _ h => h)
          fun _ _ => Within.pure trivial
        exact fun op hop r hr => ⟨_, rfl, hop.2 r hr⟩
    | refresh fresh token =>
        refine Within.bind ((s.within_refresh fresh token).mono ?_ fun _ h => h)
          fun _ _ => Within.pure trivial
        exact fun op hop r hr => ⟨_, rfl, hop.2 r hr⟩
    | _ => cases hdraws
  · refine (o.within_service s fun id h => hdraws ⟨id, h⟩).mono ?_ fun _ h => h
    exact fun op hop r hr => absurd hr (hop r)

/-! ### The parts of a logout -/

/-- The world with the session of a digest logged out. -/
def World.withLogout (w : World FaultyStore) (hash : Bytes) (t : Instant) : World FaultyStore :=
  { w with stored := { w.stored with store := w.stored.store.afterLogout hash t } }

theorem World.Elapsed.withLogout (h : w.Elapsed w') (hash : Bytes) (t : Instant) :
    (w.withLogout hash t).Elapsed (w'.withLogout hash t) := by
  unfold World.withLogout
  rw [h.stored_eq]
  exact h.store _

namespace LoginService

variable {s : LoginService} {token : String} {access : Option String} {result : Except Stop Unit}

/-- The revocation of the session that a digest finds logs the digest out, or it breaks off. -/
theorem elapses_revoke (hst : w.stored.store.Orderly) {hash : Bytes} {c : Session}
    (hfound : w.stored.store.findByTokenHash hash = some c)
    (h : (Sessions.revoke c.id reasonLogout).run.Elapses FaultyStore.storage w result w') :
    (result = .ok () ∧ ∃ t, w.now ≤ t ∧ t ≤ w'.now ∧ (w.withLogout hash t).Elapsed w') ∨
      ∃ stop, result = .error stop ∧ w.Elapsed w' ∧ w.stored.faults ≠ [] := by
  obtain ⟨t, w₁, hle, hle', hbefore, h⟩ := elapses_bind_now h
  have hanswer : w₁.stored.store.answer (.revoke c.id reasonLogout t) =
      .ok (if c.revoked then .alreadyRevoked else .revoked, w₁.stored.store.afterLogout hash t) := by
    rw [hbefore.stored_eq]
    exact congrArg Except.ok (hst.revoke_eq_afterLogout hfound t)
  rcases elapses_bind_answered hanswer h with ⟨stop, hstop, hend, hfaults⟩ | ⟨w₂, hafter, h⟩
  · rw [hbefore.stored_eq] at hfaults
    exact .inr ⟨stop, hstop, hbefore.trans hend, hfaults⟩
  · have hdone : result = .ok () ∧ w₂.Elapsed w' := by
      cases hrevoked : c.revoked with
      | true =>
          rw [hrevoked] at h
          exact elapses_pure h
      | false =>
          rw [hrevoked] at h
          exact elapses_pure h
    obtain ⟨hok, hend⟩ := hdone
    have hafter : (w₁.withLogout hash t).Elapsed w' := hafter.trans hend
    exact .inl ⟨hok, t, hle, Instant.le_trans hle' hafter.le, (hbefore.withLogout hash t).trans hafter⟩

/-- **The ends of the first part.**  The session of the token is logged out, or the service breaks
off and has changed nothing; without faults it does not break off. -/
theorem elapses_endSession (hst : w.stored.store.Orderly)
    (h : (endSession token).run.Elapses FaultyStore.storage w result w') :
    (result = .ok () ∧ ∃ t, w.now ≤ t ∧ t ≤ w'.now ∧
        (w.withLogout (refreshTokenHash token) t).Elapsed w') ∨
      ∃ stop, result = .error stop ∧ w.Elapsed w' ∧ w.stored.faults ≠ [] := by
  have hanswer : w.stored.store.answer (.findByTokenHash (refreshTokenHash token)) =
      .ok (w.stored.store.findByTokenHash (refreshTokenHash token), w.stored.store) := rfl
  rcases elapses_bind_answered hanswer h with hstopped | ⟨w₁, hbefore, h⟩
  · exact .inr hstopped
  have hbefore : w.Elapsed w₁ := hbefore
  cases hfound : w.stored.store.findByTokenHash (refreshTokenHash token) with
  | none =>
      rw [hfound] at h
      obtain ⟨hok, hend⟩ := elapses_pure h
      have hend := hbefore.trans hend
      refine .inl ⟨hok, w.now, Instant.le_refl _, hend.le, ?_⟩
      unfold World.withLogout
      rw [(hst.ended_of_not_found hfound).afterLogout hst]
      exact hend
  | some c =>
      rw [hfound] at h
      rw [← hbefore.stored_eq] at hst hfound
      rcases elapses_revoke hst hfound h with ⟨hok, t, hle, hle', hend⟩ | ⟨stop, hstop, hend, hf⟩
      · refine .inl ⟨hok, t, Instant.le_trans hbefore.le hle, hle', ?_⟩
        exact (hbefore.withLogout _ t).trans hend
      · rw [hbefore.stored_eq] at hf
        exact .inr ⟨stop, hstop, hbefore.trans hend, hf⟩

/-- What became of the access token: it was valid at some time, and refused after that; or there was
none to refuse. -/
inductive Refusing (s : LoginService) (access : Option String) (w w' : World FaultyStore) : Prop
  | spared (h : w.Elapsed w') (hinvalid : s.settings.blacklist = true → ∀ a, access = some a →
      ∃ t, w.now ≤ t ∧ t ≤ w'.now ∧ ∀ principal, Token.validate s.settings t a ≠ .ok principal)
  | refused {a : String} {principal : Principal} {t t' : Instant}
      (hblacklist : s.settings.blacklist = true) (haccess : access = some a)
      (hvalid : Token.validate s.settings t a = .ok principal) (hle : w.now ≤ t) (hle' : t ≤ t')
      (h : World.Elapsed
        { w with blacklist := w.blacklist.revoke principal.tokenId principal.expiresAt t' } w')
      (hend : t' ≤ w'.now)

theorem Refusing.stored_eq (h : s.Refusing access w w') : w'.stored = w.stored := by
  cases h with
  | spared h => exact h.stored_eq
  | refused _ _ _ _ _ h => exact h.stored_eq

theorem Refusing.le (h : s.Refusing access w w') : w.now ≤ w'.now := by
  cases h with
  | spared h => exact h.le
  | refused _ _ _ _ _ h => exact h.le

/-- The second part of a logout. -/
def refusing (s : LoginService) (access : Option String) : Service Unit :=
  if s.settings.blacklist then
    match access with
    | some access => s.refuseToken access
    | none => pure ()
  else pure ()

theorem logout_eq (s : LoginService) (token : String) (access : Option String) :
    s.logout token access = (do
      accept (Validation.refreshToken token)
      withDeadline deadlineContext (endSession token)
      s.refusing access) := rfl

theorem elapses_refuseToken (hb : s.settings.blacklist = true) {a : String}
    (h : (s.refuseToken a).run.Elapses FaultyStore.storage w result w') :
    result = .ok () ∧ s.Refusing (some a) w w' := by
  obtain ⟨t, w₁, hle, hle', hbefore, h⟩ := elapses_bind_now h
  cases hvalid : Token.validate s.settings t a with
  | error fault =>
      rw [hvalid] at h
      obtain ⟨hok, hend⟩ := elapses_pure h
      refine ⟨hok, .spared (hbefore.trans hend) fun _ _ ha => ?_⟩
      cases ha
      refine ⟨t, hle, Instant.le_trans hle' hend.le, fun principal hvalid' => ?_⟩
      rw [hvalid] at hvalid'
      cases hvalid'
  | ok principal =>
      rw [hvalid] at h
      obtain ⟨t', w₂, hle₁, hle₂, hbefore₁, h⟩ := elapses_bind_now h
      obtain ⟨w₃, hbefore₂, hok, hafter⟩ := elapses_ask h
      have hquiet := hbefore.trans (hbefore₁.trans hbefore₂)
      have hrefused : World.Elapsed
          { w with blacklist := w.blacklist.revoke principal.tokenId principal.expiresAt t' }
          { w₃ with
            blacklist := w₃.blacklist.revoke principal.tokenId principal.expiresAt t' } := by
        refine ⟨hquiet.le, ?_⟩
        rw [hquiet.eq]
      refine ⟨hok, .refused hb rfl hvalid hle (Instant.le_trans hle' hle₁)
        (hrefused.trans hafter) ?_⟩
      exact Instant.le_trans hle₂ (Instant.le_trans hbefore₂.le hafter.le)

/-- **The end of the second part.**  It does not break off. -/
theorem elapses_refusing (h : (s.refusing access).run.Elapses FaultyStore.storage w result w') :
    result = .ok () ∧ s.Refusing access w w' := by
  unfold refusing at h
  split_ifs at h with hb
  · cases access with
    | some a => exact elapses_refuseToken hb h
    | none =>
        obtain ⟨hok, hend⟩ := elapses_pure h
        exact ⟨hok, .spared hend fun _ a ha => by cases ha⟩
  · obtain ⟨hok, hend⟩ := elapses_pure h
    exact ⟨hok, .spared hend fun hb' => absurd hb' hb⟩

/-- **The ends of a logout.**  It breaks off before its session is logged out and has changed
nothing, which it does not if its input is valid and no call faulted; or it ends well, its session
logged out and its access token refused. -/
theorem logout_cases (hst : w.stored.store.Orderly)
    (h : (s.logout token access).run.Elapses FaultyStore.storage w result w') :
    (∃ stop, result = .error stop ∧ w.Elapsed w' ∧
        (Validation.refreshToken token = .ok () → w.stored.faults ≠ [])) ∨
      (result = .ok () ∧ Validation.refreshToken token = .ok () ∧ ∃ t w₁, w.now ≤ t ∧ t ≤ w₁.now ∧
        (w.withLogout (refreshTokenHash token) t).Elapsed w₁ ∧ s.Refusing access w₁ w') := by
  rw [logout_eq] at h
  rcases elapses_bind h with ⟨stop, rfl, hstop⟩ | ⟨_, w₁, haccept, h⟩
  · obtain ⟨hinvalid, hend⟩ := elapses_accept hstop
    refine .inl ⟨stop, rfl, hend, fun hvalid => ?_⟩
    rw [hvalid] at hinvalid
    cases hinvalid
  obtain ⟨hvalid, hbefore⟩ := elapses_accept haccept
  have hvalid : Validation.refreshToken token = .ok () := by
    cases hv : Validation.refreshToken token with
    | ok => rfl
    | error failure =>
        rw [hv] at hvalid
        cases hvalid
  rw [← hbefore.stored_eq] at hst
  rcases elapses_bind h with ⟨stop, rfl, hstop⟩ | ⟨_, w₂, hended, h⟩
  · obtain ⟨first, hfirst, hfailed⟩ := elapses_withDeadline hstop
    rcases elapses_endSession hst hfirst with ⟨rfl, _⟩ | ⟨_, _, hend, hfaults⟩
    · cases hfailed
    · rw [hbefore.stored_eq] at hfaults
      exact .inl ⟨stop, rfl, hbefore.trans hend, fun _ => hfaults⟩
  · rcases elapses_endSession hst (elapses_withDeadline_ok hended) with
      ⟨_, t, hle, hle', hend⟩ | ⟨_, hstop, _⟩
    · obtain ⟨hok, hrefusing⟩ := elapses_refusing h
      refine .inr ⟨hok, hvalid, t, w₂, Instant.le_trans hbefore.le hle, hle', ?_, hrefusing⟩
      exact (hbefore.withLogout _ t).trans hend
    · cases hstop

/-- The search for an active session changes nothing; it breaks off if the store is in trouble, or
tells which session was active at some time in between. -/
theorem elapses_findActiveByToken {result : Except Stop (Option Session)}
    (h : (Sessions.findActiveByToken token).run.Elapses FaultyStore.storage w result w') :
    w.Elapsed w' ∧ ((∃ stop, result = .error stop ∧ w.stored.faults ≠ []) ∨
      ∃ t, w.now ≤ t ∧ t ≤ w'.now ∧ result = .ok (w.stored.store.activeByToken token t)) := by
  obtain ⟨t, w₁, hle, hle', hbefore, hsearch⟩ := elapses_bind_now h
  have hanswer : w₁.stored.store.answer (.findByTokenHash (refreshTokenHash token)) =
      .ok (w₁.stored.store.findByTokenHash (refreshTokenHash token), w₁.stored.store) := rfl
  rcases elapses_bind_answered hanswer hsearch with
    ⟨stop, hstop, hend, hfaults⟩ | ⟨w₂, hafter, hrest⟩
  · rw [hbefore.stored_eq] at hfaults
    exact ⟨hbefore.trans hend, .inl ⟨stop, hstop, hfaults⟩⟩
  · obtain ⟨hok, hend⟩ := elapses_pure hrest
    rw [hbefore.stored_eq] at hok
    have hafter : w₁.Elapsed w' := World.Elapsed.trans hafter hend
    exact ⟨hbefore.trans hafter, .inr ⟨t, hle, Instant.le_trans hle' hafter.le, hok⟩⟩

/-! ### What stays after a logout -/

/-- What a logout leaves: its session has ended, and its access token stays refused whenever it
would be valid. -/
structure LoggedOut (s : LoginService) (token : String) (access : Option String)
    (w : World FaultyStore) : Prop where
  ended : w.stored.store.Ended (refreshTokenHash token)
  covered : s.settings.blacklist = true → ∀ a, access = some a → ∀ t, w.now ≤ t →
    ∀ principal, Token.validate s.settings t a = .ok principal →
      w.blacklist.Covers principal.tokenId principal.expiresAt w.now

/-- The call spares a logout: it does not draw its refresh token for a session while none has it, and
it refuses ids as the clock stands, the id of its access token until the expiry of that. -/
structure Spares (s : LoginService) (token : String) (access : Option String)
    (w : World FaultyStore) (op : Backend.Op) : Prop where
  session : ∀ r, op = .store (.rotate r) → r.session.tokenHash = refreshTokenHash token →
    w.sessions.any (·.tokenHash = refreshTokenHash token) = true
  refusal : ∀ tokenId expiresAt t, op = .refuse tokenId expiresAt t → t ≤ w.now ∧
    ∀ a, access = some a → ∀ principal, s.Names a principal →
      tokenId = principal.tokenId → expiresAt = principal.expiresAt

/-- Operations spare a logout that draw other refresh tokens than its own, and come with access
tokens that do not share the id of its own without sharing the expiry. -/
theorem meanwhile_spares (hb : s.settings.blacklist = true) {o : Operation}
    {reply : Except Stop Operation.Reply}
    (hdraws : ∀ drawn, o.DrawsToken drawn → refreshTokenHash drawn ≠ refreshTokenHash token)
    (hcarries : ∀ carried, o.Carries carried → ∀ principal', s.Names carried principal' →
      ∀ a, access = some a → ∀ principal, s.Names a principal →
        principal'.tokenId = principal.tokenId → principal'.expiresAt = principal.expiresAt)
    (h : (o.service s).run.Elapses FaultyStore.storage w reply w') :
    w.Meanwhile (s.Spares token access) w' := by
  have hassured := (o.assures_minds hb (w := w)).and ((o.within_drawn s).assures w)
  refine hassured.meanwhile World.Later.refl (fun h h' => h.trans h') (fun _ _ ht => ht) ?_ h
  rintro op next w ⟨hminds, hdrawn⟩
  constructor
  · intro r hr hsame
    obtain ⟨drawn, hdraw, hhash⟩ := hdrawn r hr
    exact absurd (hhash.symm.trans hsame) (hdraws drawn hdraw)
  · rintro tokenId expiresAt t rfl
    obtain ⟨_, carried, principal', t₀, rfl, hvalid, _, rfl, rfl, hle, _⟩ := hminds
    exact ⟨hle, fun a ha principal hnames =>
      hcarries carried rfl principal' ⟨t₀, hvalid⟩ a ha principal hnames⟩

/-- A logout that ended well leaves what it should.  Had the access token been invalid when it was
looked at, its time being begun, it would be invalid for ever. -/
theorem loggedOut_of_refusing (begun : Instant) (hw : w₁.blacklist.entries.Distinct)
    (hended : w₁.stored.store.Ended (refreshTokenHash token))
    (hbegun : ∀ a, access = some a →
      Token.validate s.settings begun a ≠ .error .notYetValid) (hle : begun ≤ w₁.now)
    (h : s.Refusing access w₁ w') : s.LoggedOut token access w' := by
  constructor
  · rw [h.stored_eq]
    exact hended
  · intro hb a ha t ht principal hvalid
    cases h with
    | spared _ hinvalid =>
        obtain ⟨t', hle₁, hle₂, hinvalid⟩ := hinvalid hb a ha
        have hvalid' := Token.validate_between (hbegun a ha) hvalid
          (Instant.le_trans hle hle₁) (Instant.le_trans hle₂ ht)
        exact absurd hvalid' (hinvalid principal)
    | @refused a' principal' _ t' _ ha' hvalid' _ _ h hend =>
        rw [ha] at ha'
        cases ha'
        obtain rfl := Token.validate_same hvalid' hvalid
        have hcovers := Blacklist.covers_revoke hw principal.tokenId principal.expiresAt t'
        rw [h.eq]
        exact hcovers.later hend

namespace LoggedOut

/-- What a logout left stays in each step that spares it. -/
theorem step (h : s.LoggedOut token access w) (hd : w.blacklist.entries.Distinct)
    (hstep : w.Step (s.Spares token access) w') : s.LoggedOut token access w' := by
  cases hstep with
  | tick hle =>
      refine ⟨h.ended, fun hb a ha t ht principal hvalid => ?_⟩
      exact (h.covered hb a ha t (Instant.le_trans hle ht) principal hvalid).later hle
  | change c =>
      refine ⟨fun id session hsession => h.ended id session ?_, h.covered⟩
      have hsame := (MemoryStore.afterChange_edits w.stored.store c).sessions
      rw [← hsame]
      exact hsession
  | trouble => exact ⟨h.ended, h.covered⟩
  | @call op hspares =>
      constructor
      · cases op with
        | store call =>
            change MemoryStore.Ended (FaultyStore.answer call w.stored).2.store _
            rcases FaultyStore.answer_store call w.stored with heq | heq
            · rw [heq]
              exact h.ended
            · rw [heq]
              exact h.ended.after call fun r hr => hspares.session r (congrArg _ hr)
        | _ => exact h.ended
      · rw [World.now_handler]
        intro hb a ha t ht principal hvalid
        have hcovers := h.covered hb a ha t ht principal hvalid
        cases op with
        | refuse tokenId expiresAt t' =>
            obtain ⟨hle, hsame⟩ := hspares.refusal tokenId expiresAt t' rfl
            exact hcovers.revoke hd hle (hsame a ha principal ⟨t, hvalid⟩)
        | _ => exact hcovers

theorem meanwhile (h : s.LoggedOut token access w) (hw : w.Reachable)
    (hmeanwhile : w.Meanwhile (s.Spares token access) w') : s.LoggedOut token access w' := by
  have hboth : w'.blacklist.entries.Distinct ∧ s.LoggedOut token access w' := by
    apply hmeanwhile.keeps (P := fun w => w.blacklist.entries.Distinct ∧ s.LoggedOut token access w)
    · rintro w₁ w₂ hstep ⟨hd, h⟩
      exact ⟨hstep.distinct_blacklist hd, h.step hd hstep⟩
    · exact ⟨hw.distinct_blacklist, h⟩
  exact hboth.2

/-- A refresh with the token changes nothing and fails, as unauthenticated if no call is faulted. -/
theorem refresh (h : s.LoggedOut token access w) (hst : w.stored.store.Orderly)
    (hvalid : Validation.refreshToken token = .ok ()) {other : LoginService} {fresh : Fresh}
    {result : Except Stop TokenPair}
    (hrun : (other.refresh fresh token).run.Elapses FaultyStore.storage w result w') :
    w.Elapsed w' ∧ (∃ stop, result = .error stop) ∧
      (w.stored.faults = [] → result = .error (.refused .unauthenticated)) := by
  unfold LoginService.refresh at hrun
  rw [hvalid] at hrun
  rcases elapses_bind hrun with ⟨_, _, hstop⟩ | ⟨_, w₁, haccept, hunder⟩
  · obtain ⟨hok, _⟩ := elapses_accept hstop
    cases hok
  obtain ⟨_, hbefore⟩ := elapses_accept haccept
  obtain ⟨first, hfirst, rfl⟩ := elapses_withDeadline hunder
  rcases elapses_bind hfirst with ⟨stop, rfl, hstop⟩ | ⟨found, w₂, hfind, hrest⟩
  · obtain ⟨hend, hstopped | ⟨_, _, _, hok⟩⟩ := elapses_findActiveByToken hstop
    · obtain ⟨_, _, hfaults⟩ := hstopped
      rw [hbefore.stored_eq] at hfaults
      exact ⟨hbefore.trans hend, ⟨_, rfl⟩, fun hf => absurd hf hfaults⟩
    · cases hok
  · -- The session that was looked for is not active, whenever that was.
    obtain ⟨hend, ⟨_, hstop, _⟩ | ⟨t, _, _, hok⟩⟩ := elapses_findActiveByToken hfind
    · cases hstop
    have hnone : found = none := by
      rw [Except.ok.inj hok, hbefore.stored_eq]
      exact h.ended.filter_findByTokenHash hst t
    rw [hnone] at hrest
    rcases elapses_bind hrest with ⟨stop, rfl, hstop⟩ | ⟨_, _, hfound, _⟩
    · obtain ⟨hresult, hend'⟩ := elapses_require hstop
      cases hresult
      exact ⟨hbefore.trans (hend.trans hend'), ⟨_, rfl⟩, fun _ => rfl⟩
    · obtain ⟨hresult, _⟩ := elapses_require hfound
      cases hresult

/-- The same logout once more ends well if no call is faulted, and whether or not it does, it leaves
the sessions as they are, and every id refused or not as it is. -/
theorem again (h : s.LoggedOut token access w) (hw : w.Reachable)
    (hrun : (s.logout token access).run.Elapses FaultyStore.storage w result w') :
    (Validation.refreshToken token = .ok () → w.stored.faults = [] → result = .ok ()) ∧
      w'.sessions = w.sessions ∧
      ∀ id t, w'.now ≤ t → w'.blacklist.isRevoked id t = w.blacklist.isRevoked id t := by
  rcases logout_cases hw.orderly hrun with
    ⟨stop, rfl, hend, hfaults⟩ | ⟨rfl, _, t, w₁, _, _, hended, hrefusing⟩
  · refine ⟨fun hvalid hf => absurd hf (hfaults hvalid), ?_, fun id t _ => ?_⟩
    · exact congrArg (·.store.sessions) hend.stored_eq
    · rw [hend.eq]
  · have hquiet : w.Elapsed w₁ := by
      unfold World.withLogout at hended
      rw [h.ended.afterLogout hw.orderly] at hended
      exact hended
    refine ⟨fun _ _ => rfl, ?_, fun id t ht => ?_⟩
    · exact congrArg (·.store.sessions) (hrefusing.stored_eq.trans hquiet.stored_eq)
    · cases hrefusing with
      | spared hend => rw [(hquiet.trans hend).eq]
      | @refused a principal t₁ t₂ hb ha hvalid hle hle' hend hlast =>
          have hcovers := h.covered hb a ha t₁ (Instant.le_trans hquiet.le hle) principal hvalid
          have hlater : w.now ≤ t₂ :=
            Instant.le_trans hquiet.le (Instant.le_trans hle hle')
          rw [hend.eq, hquiet.eq]
          exact hcovers.isRevoked_revoke hw.distinct_blacklist hlater
            (Instant.le_trans hlast ht) id

end LoggedOut

/-- **A logout is effective, and to repeat it changes nothing.**  A logout that breaks off has
changed nothing.  One that ends well has revoked the session under the digest of its refresh token,
if there is one, and left every other session as it was.

Whatever happens afterwards, every refresh with the token changes nothing and is told that it is
unauthenticated, and the same logout ends well again; both may be kept from telling so by a store in
trouble only.  Having been repeated, a logout has left every session as it was before, with the
reason and the time of its revocation, and from then on every authentication ends as it would have
without.  This holds as long as others spare the logout; and an access token that the logout came with
must not have been before its time then, for it would not have been refused. -/
theorem logout_effective (s : LoginService) (hw : w.Reachable) (token : String)
    (access : Option String)
    (hbegun : ∀ a, access = some a → Token.validate s.settings w.now a ≠ .error .notYetValid)
    (h : (s.logout token access).run.Elapses FaultyStore.storage w result w') :
    (∀ stop, result = .error stop → w.Elapsed w') ∧
    (result = .ok () →
      (∃ t, w.now ≤ t ∧ t ≤ w'.now ∧ w'.sessions = w.sessions.map fun _ c =>
        if c.tokenHash = refreshTokenHash token then c.revoke reasonLogout t else c) ∧
      (∀ id c, w'.sessions.get? id = some c → c.tokenHash = refreshTokenHash token →
        c.revoked = true) ∧
      ∀ w₂, w'.Meanwhile (s.Spares token access) w₂ →
        (∀ (other : LoginService) fresh result₃ w₃,
          (other.refresh fresh token).run.Elapses FaultyStore.storage w₂ result₃ w₃ →
            w₂.Elapsed w₃ ∧ (∃ stop, result₃ = .error stop) ∧
              (w₂.stored.faults = [] → result₃ = .error (.refused .unauthenticated))) ∧
        ∀ result₃ w₃, (s.logout token access).run.Elapses FaultyStore.storage w₂ result₃ w₃ →
          (w₂.stored.faults = [] → result₃ = .ok ()) ∧ w₃.sessions = w₂.sessions ∧
          ∀ (guard : AuthorizationService) bearer t, w₃.now ≤ t →
            (outcome (guard.authenticate bearer) FaultyStore.storage { w₃ with now := t }).1 =
              (outcome (guard.authenticate bearer) FaultyStore.storage { w₂ with now := t }).1) := by
  rcases logout_cases hw.orderly h with
    ⟨stop, rfl, hend, _⟩ | ⟨rfl, hvalid, t, w₁, hle, hle', hended, hrefusing⟩
  · exact ⟨fun _ _ => hend, fun hok => (by cases hok)⟩
  refine ⟨fun stop hstop => (by cases hstop), fun _ => ?_⟩
  have hstored : w'.stored = (w.withLogout (refreshTokenHash token) t).stored :=
    hrefusing.stored_eq.trans hended.stored_eq
  have hleft : s.LoggedOut token access w' := by
    refine loggedOut_of_refusing w.now ?_ ?_ hbegun (Instant.le_trans hle hle') hrefusing
    · rw [hended.eq]
      exact hw.distinct_blacklist
    · rw [hended.stored_eq]
      exact w.stored.store.ended_afterLogout (refreshTokenHash token) t
  have hw' : w'.Reachable := hw.meanwhile h.meanwhile
  refine ⟨⟨t, hle, Instant.le_trans hle' hrefusing.le, ?_⟩, hleft.ended, fun w₂ hmeanwhile => ?_⟩
  · exact congrArg (·.store.sessions) hstored
  · have hw₂ := hw'.meanwhile hmeanwhile
    have hleft₂ := hleft.meanwhile hw' hmeanwhile
    refine ⟨fun other fresh result₃ w₃ hrun => hleft₂.refresh hw₂.orderly hvalid hrun, ?_⟩
    intro result₃ w₃ hrun
    obtain ⟨hok, hsessions, hrevoked⟩ := hleft₂.again hw₂ hrun
    refine ⟨hok hvalid, hsessions, fun guard bearer t ht => ?_⟩
    exact guard.authenticate_congr (fun id => hrevoked id t ht) bearer

/-- The sample session is logged out together with a token that is valid, and then the account logs
in anew: the session is revoked, a refresh with its token is told so, and the same logout changes no
session any more. -/
theorem logout_effective_sample :
    let w : World FaultyStore := ⟨.ofSeconds 0, .empty, ⟨Sample.store, []⟩⟩
    let login := (Operation.login Sample.fresh Sample.request ⟨none, none⟩).service Sample.guarding
    ∃ access principal w', w.Reachable ∧
      Token.validate Sample.guarding.settings w.now access = .ok principal ∧
      (Sample.guarding.logout "first" (some access)).run.Elapses FaultyStore.storage w (.ok ()) w' ∧
      w.sessions.get? Sample.session.id = some Sample.session ∧ Sample.session.revoked = false ∧
      (∃ c, w'.sessions.get? Sample.session.id = some c ∧ c.revoked = true) ∧
      let w₂ := (outcome login FaultyStore.storage w').2
      (outcome (Sample.service.refresh Sample.fresh "first") FaultyStore.storage w₂).1 =
        .error (.refused .unauthenticated) ∧
      ∀ w₃, (Sample.guarding.logout "first" (some access)).run.Elapses FaultyStore.storage w₂
        (.ok ()) w₃ → w₃.sessions = w₂.sessions := by
  intro w login
  have hw : w.Reachable := .of_store Sample.reachable_store _
  obtain ⟨issued, hissued⟩ : ∃ issued, Token.issue Sample.guarding.settings (.ofSeconds 0) ⟨3⟩
      Sample.identity ⟨[], []⟩ = some issued := ⟨_, rfl⟩
  obtain ⟨principal, hvalid⟩ : ∃ principal, Token.validate Sample.guarding.settings w.now
      issued.token = .ok principal :=
    ⟨_, Token.validate_issue_now (.new _ _ _ _ true) (Int.le_refl 0) hissued⟩
  generalize issued.token = access at hvalid
  have hbegun : ∀ a, some access = some a →
      Token.validate Sample.guarding.settings w.now a ≠ .error .notYetValid := by
    intro a ha
    cases ha
    rw [hvalid]
    exact fun h => nomatch h
  obtain ⟨w', hrun, hfaults⟩ : ∃ w', (Sample.guarding.logout "first" (some access)).run.Elapses
      FaultyStore.storage w (.ok ()) w' ∧ w'.stored.faults = [] := by
    have hrun := Program.elapses_run FaultyStore.storage
      (Sample.guarding.logout "first" (some access)).run w
    rcases logout_cases hw.orderly hrun with ⟨_, _, _, hfaults⟩ | ⟨hok, _, _, _, _, _, hend, hlast⟩
    · exact absurd rfl (hfaults Sample.valid_first)
    · rw [hok] at hrun
      refine ⟨_, hrun, ?_⟩
      rw [hlast.stored_eq, hend.stored_eq]
      rfl
  obtain ⟨_, hdone⟩ := logout_effective Sample.guarding hw "first" (some access) hbegun hrun
  obtain ⟨⟨t, _, _, hsessions⟩, hrevoked, hafter⟩ := hdone rfl
  have hspared : w'.Meanwhile (Sample.guarding.Spares "first" (some access))
      (outcome login FaultyStore.storage w').2 := by
    refine meanwhile_spares rfl ?_ ?_ (Program.elapses_run FaultyStore.storage login.run w')
    · rintro _ rfl
      decide +kernel
    · intro carried hcarried
      cases hcarried
  have hfaults₂ : (outcome login FaultyStore.storage w').2.stored.faults = [] :=
    outcome_invariant (P := fun w => w.stored.faults = [])
      (fun op w hw => (World.faults_handler op w).trans hw) login hfaults
  obtain ⟨hrefresh, hagain⟩ := hafter _ hspared
  refine ⟨access, principal, w', hw, hvalid, hrun, rfl, rfl, ?_, ?_, ?_⟩
  · have hstored : w'.sessions.get? Sample.session.id =
        some (MemoryStore.loggedOut (refreshTokenHash "first") t Sample.session) := by
      rw [hsessions, Table.get?_map]
      rfl
    exact ⟨_, hstored, hrevoked _ _ hstored (MemoryStore.onward_loggedOut _ _ _).tokenHash_eq⟩
  · exact (hrefresh Sample.service Sample.fresh _ _ (Program.elapses_run _ _ _)).2.2 hfaults₂
  · intro w₃ hrun₃
    exact (hagain _ _ hrun₃).2.1

end LoginService

end Gatehouse
