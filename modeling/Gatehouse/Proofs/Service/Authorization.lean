import Gatehouse.Proofs.Service.Answers
import Gatehouse.Proofs.Service.Login
import Gatehouse.Proofs.Store.Graph
import Gatehouse.Proofs.Token.RoundTrip
import Gatehouse.Service.Authorization

/-! # What a live check decides

A check first accepts its bearer or rejects it (`authenticate_cases`), which calls no store.  A
caller that is accepted is then looked up: the account, and if that is enabled its roles.  Either
lookup may be faulted, which breaks the check off; if neither is, the check ends with what the graph
says (`liveCheck_cases`).

`live_check_exact` puts the ends together and says of every check whether it is allowed, rejected,
broken off or denied.  Nothing but the user id of the token enters into it. -/

namespace Gatehouse

open Service

variable {w : World FaultyStore}

/-- The account exists and is enabled. -/
def MemoryStore.Enabled (st : MemoryStore) (userId : Uuid) : Prop :=
  ∃ identity, st.identities.get? userId = some identity ∧ identity.enabled = true

theorem MemoryStore.any_enabled {st : MemoryStore} {userId : Uuid} :
    (st.identities.get? userId).any (·.enabled) = true ↔ st.Enabled userId := by
  rw [Option.any_eq_true]
  rfl

theorem Decision.ofBool_eq_allow {b : Bool} : Decision.ofBool b = .allow ↔ b = true := by
  cases b <;> simp [Decision.ofBool]

namespace AuthorizationService

variable {s : AuthorizationService} {bearer : String} {principal : Principal}

/-! ### Bearers -/

/-- The bearer is accepted: its token is valid now, and not refused. -/
structure Accepts (s : AuthorizationService) (w : World FaultyStore) (bearer : String)
    (principal : Principal) : Prop where
  valid : Token.validate s.settings w.now bearer = .ok principal
  not_refused : s.settings.blacklist = true → w.blacklist.isRevoked principal.tokenId w.now = false

/-- A bearer is accepted as one caller. -/
theorem Accepts.iff_eq (h : s.Accepts w bearer principal) {principal' : Principal} :
    s.Accepts w bearer principal' ↔ principal' = principal := by
  constructor
  · intro h'
    exact Except.ok.inj (h'.valid.symm.trans h.valid)
  · rintro rfl
    exact h

/-- **The ends of an authentication.**  The bearer is accepted, or it is rejected and told the same
for every reason. -/
theorem authenticate_cases (s : AuthorizationService) (w : World FaultyStore) (bearer : String) :
    (∃ principal, s.Accepts w bearer principal ∧
      outcome (s.authenticate bearer) FaultyStore.storage w = (.ok principal, w)) ∨
    (∀ principal, ¬ s.Accepts w bearer principal) ∧
      outcome (s.authenticate bearer) FaultyStore.storage w =
        (.error (.refused .unauthenticated), w) := by
  unfold authenticate
  rw [outcome_bind_ok outcome_now]
  cases hv : Token.validate s.settings w.now bearer with
  | error fault =>
      refine .inr ⟨fun principal h => ?_, rfl⟩
      cases hv.symm.trans h.valid
  | ok principal =>
      dsimp only
      by_cases hb : s.settings.blacklist = true
      · have hasked : outcome (ask (.isRefused principal.tokenId w.now)) FaultyStore.storage w =
            (.ok (w.blacklist.isRevoked principal.tokenId w.now), w) := outcome_ask _
        rw [if_pos hb, outcome_bind_ok outcome_now, outcome_bind_ok hasked]
        cases hr : w.blacklist.isRevoked principal.tokenId w.now with
        | false =>
            rw [if_neg Bool.false_ne_true]
            exact .inl ⟨principal, ⟨hv, fun _ => hr⟩, rfl⟩
        | true =>
            rw [if_pos rfl]
            refine .inr ⟨fun principal' h => ?_, rfl⟩
            have hsame : principal = principal' := Except.ok.inj (hv.symm.trans h.valid)
            rw [← hsame] at h
            cases hr.symm.trans (h.not_refused hb)
      · rw [if_neg hb]
        exact .inl ⟨principal, ⟨hv, fun h => absurd h hb⟩, rfl⟩

theorem authenticate_of_accepts (h : s.Accepts w bearer principal) :
    outcome (s.authenticate bearer) FaultyStore.storage w = (.ok principal, w) := by
  rcases authenticate_cases s w bearer with ⟨principal', h', hend⟩ | ⟨hrejected, _⟩
  · rw [hend, h'.iff_eq.mp h]
  · exact absurd h (hrejected principal)

/-! ### Permissions in tokens -/

/-- From the token a caller with a user id is allowed what the token lists. -/
theorem authorize_of_token {settings : TokenSettings} {w : World FaultyStore} {userId : Uuid}
    (huser : principal.userId = some userId) (r : Requirement) :
    outcome (authorize ⟨settings, .token⟩ principal r) FaultyStore.storage w =
      (.ok (.ofBool (principal.hasPermission r.permission)), w) := by
  unfold authorize
  rw [huser]
  rfl

/-! ### Lookups -/

/-- A lookup that the decision on an account needs is faulted. -/
def Unanswered (w : World FaultyStore) (userId : Uuid) : Prop :=
  w.stored.faults.lookup "find_identity" ≠ none ∨
    w.stored.store.Enabled userId ∧ w.stored.faults.lookup "role_assignments" ≠ none

/-- **The ends of a live check.**  A lookup is faulted, or the check tells whether the account is
enabled and its access contains the permission. -/
theorem liveCheck_cases (w : World FaultyStore) (userId : Uuid) (permission : String) :
    (Unanswered w userId ∧ ∃ fault : StoreFault,
      outcome (liveCheck userId permission) FaultyStore.storage w =
        (.error (stopOf none fault.trouble), w)) ∨
    ¬ Unanswered w userId ∧ ∃ allowed,
      outcome (liveCheck userId permission) FaultyStore.storage w = (.ok allowed, w) ∧
        (allowed = true ↔ w.stored.store.Enabled userId ∧
          (Access.flatten (w.stored.store.roleAssignments userId)).contains permission = true) := by
  unfold liveCheck
  cases hf : w.stored.faults.lookup "find_identity" with
  | some fault =>
      refine .inl ⟨.inl (by simp [hf]), fault, ?_⟩
      exact outcome_bind_error (outcome_faulted (.findIdentity userId) hf none)
  | none =>
      have hfound : outcome (store (.findIdentity userId)) FaultyStore.storage w =
          (.ok (w.stored.store.identities.get? userId), w) :=
        outcome_read (.findIdentity userId) hf rfl none
      rw [outcome_bind_ok hfound]
      by_cases henabled : w.stored.store.Enabled userId
      · rw [if_pos (MemoryStore.any_enabled.mpr henabled)]
        unfold Resolution.hasPermission Resolution.resolve
        rw [bind_assoc]
        cases hr : w.stored.faults.lookup "role_assignments" with
        | some fault =>
            refine .inl ⟨.inr ⟨henabled, by simp [hr]⟩, fault, ?_⟩
            exact outcome_bind_error (outcome_faulted (.roleAssignments userId) hr none)
        | none =>
            refine .inr ⟨?_, _, outcome_bind_ok
              (outcome_read (.roleAssignments userId) hr rfl none), ?_⟩
            · simp [Unanswered, hf, hr]
            · simp [henabled]
      · rw [if_neg (fun h => henabled (MemoryStore.any_enabled.mp h))]
        refine .inr ⟨?_, false, rfl, ?_⟩
        · simp [Unanswered, hf, henabled]
        · simp [henabled]

/-! ### Decisions -/

/-- **The ends of a live decision** on a caller that is accepted. -/
theorem authorize_cases (hlive : s.source = .live) (principal : Principal) (r : Requirement) :
    (∃ userId, principal.userId = some userId ∧ Unanswered w userId ∧ ∃ cause,
      outcome (s.authorize principal r) FaultyStore.storage w =
        (.error (.refused (.infrastructure cause)), w)) ∨
    (∀ userId, principal.userId = some userId → ¬ Unanswered w userId) ∧ ∃ decision,
      outcome (s.authorize principal r) FaultyStore.storage w = (.ok decision, w) ∧
        (decision = .allow ↔ ∃ userId, principal.userId = some userId ∧
          w.stored.store.Enabled userId ∧
          (Access.flatten (w.stored.store.roleAssignments userId)).contains r.permission =
            true) := by
  unfold authorize
  cases hu : principal.userId with
  | none =>
      have hnobody : ∀ userId, (none : Option Uuid) ≠ some userId := fun _ h => by cases h
      exact .inr ⟨fun userId h => absurd h (hnobody userId), .deny, rfl, by simp⟩
  | some userId =>
      simp only [hlive]
      rcases liveCheck_cases w userId r.permission with
        ⟨hlookup, fault, hrun⟩ | ⟨hlookup, allowed, hrun, hallowed⟩
      · obtain ⟨cause, hcause⟩ := deadlined_stopOf deadlineContext fault
        refine .inl ⟨userId, rfl, hlookup, cause, ?_⟩
        rw [map_eq_pure_bind]
        refine outcome_bind_error ?_
        rw [outcome_withDeadline, hrun]
        exact congrArg (fun stop => (Except.error stop, w)) hcause
      · refine .inr ⟨fun _ h => by cases h; exact hlookup, Decision.ofBool allowed, ?_, ?_⟩
        · rw [map_eq_pure_bind, outcome_bind_ok (withDeadline_eq_ok.mpr hrun)]
          rfl
        · rw [Decision.ofBool_eq_allow, hallowed]
          simp

theorem authorize_congr (hlive : s.source = .live) {principal principal' : Principal}
    (h : principal.userId = principal'.userId) (r : Requirement) :
    s.authorize principal r = s.authorize principal' r := by
  unfold authorize
  rw [hlive, h]

/-- **The ends of a live check.**  The bearer is rejected, or a lookup is faulted, or there is a
decision. -/
theorem check_cases (hlive : s.source = .live) (hids : w.stored.store.DistinctIds)
    (bearer : String) (r : Requirement) :
    ((∀ principal, ¬ s.Accepts w bearer principal) ∧
      outcome (s.check bearer r) FaultyStore.storage w =
        (.error (.refused .unauthenticated), w)) ∨
    (∃ principal userId, s.Accepts w bearer principal ∧ principal.userId = some userId ∧
      Unanswered w userId ∧ ∃ cause, outcome (s.check bearer r) FaultyStore.storage w =
        (.error (.refused (.infrastructure cause)), w)) ∨
    ∃ principal, s.Accepts w bearer principal ∧
      (∀ userId, principal.userId = some userId → ¬ Unanswered w userId) ∧ ∃ decision,
        outcome (s.check bearer r) FaultyStore.storage w = (.ok decision, w) ∧
          (decision = .allow ↔ ∃ userId, principal.userId = some userId ∧
            w.stored.store.Enabled userId ∧ w.stored.store.Permits userId r.permission) := by
  unfold check
  rcases authenticate_cases s w bearer with ⟨principal, h, hcaller⟩ | ⟨hrejected, hcaller⟩
  · rw [outcome_bind_ok hcaller]
    rcases authorize_cases hlive principal r with
      ⟨userId, huser, hlookup, hend⟩ | ⟨hlookup, decision, hend, hallow⟩
    · exact .inr (.inl ⟨principal, userId, h, huser, hlookup, hend⟩)
    · simp only [MemoryStore.contains_access hids] at hallow
      exact .inr (.inr ⟨principal, h, hlookup, decision, hend, hallow⟩)
  · exact .inl ⟨hrejected, outcome_bind_error hcaller⟩

theorem check_congr (hlive : s.source = .live) {bearer' : String} {principal' : Principal}
    (h : s.Accepts w bearer principal) (h' : s.Accepts w bearer' principal')
    (huser : principal.userId = principal'.userId) (r : Requirement) :
    outcome (s.check bearer' r) FaultyStore.storage w =
      outcome (s.check bearer r) FaultyStore.storage w := by
  unfold check
  rw [outcome_bind_ok (authenticate_of_accepts h), outcome_bind_ok (authenticate_of_accepts h'),
    authorize_congr hlive huser]

/-- **A live check is exact.**  It allows a requirement if and only if the bearer is accepted, its
user id names an account that exists and is enabled, and the graph entitles that account to the
permission, no lookup being faulted.  It rejects exactly the bearers that are not accepted, breaks
off with a failure of the infrastructure exactly where a lookup is faulted, denies in all other
cases, and changes nothing.  Accepted bearers with the same user id are told the same, whatever else
their tokens say. -/
theorem live_check_exact (s : AuthorizationService) (hlive : s.source = .live)
    (w : World FaultyStore) (hids : w.stored.store.DistinctIds) (bearer : String)
    (r : Requirement) :
    let run := outcome (s.check bearer r) FaultyStore.storage w
    (run.1 = .ok .allow ↔ ∃ principal userId, s.Accepts w bearer principal ∧
      principal.userId = some userId ∧ ¬ Unanswered w userId ∧
      w.stored.store.Enabled userId ∧ w.stored.store.Permits userId r.permission) ∧
    (run.1 = .error (.refused .unauthenticated) ↔ ∀ principal, ¬ s.Accepts w bearer principal) ∧
    ((∃ cause, run.1 = .error (.refused (.infrastructure cause))) ↔
      ∃ principal userId, s.Accepts w bearer principal ∧ principal.userId = some userId ∧
        Unanswered w userId) ∧
    (run.1 = .ok .allow ∨ run.1 = .ok .deny ∨ run.1 = .error (.refused .unauthenticated) ∨
      ∃ cause, run.1 = .error (.refused (.infrastructure cause))) ∧
    run.2 = w ∧
    ∀ bearer' principal principal', s.Accepts w bearer principal →
      s.Accepts w bearer' principal' → principal.userId = principal'.userId →
        outcome (s.check bearer' r) FaultyStore.storage w = run := by
  intro run
  have hagree : ∀ bearer' principal principal', s.Accepts w bearer principal →
      s.Accepts w bearer' principal' → principal.userId = principal'.userId →
        outcome (s.check bearer' r) FaultyStore.storage w = run :=
    fun _ _ _ h h' huser => check_congr hlive h h' huser r
  rcases check_cases hlive hids bearer r with
    ⟨hrejected, hend⟩ | ⟨principal, userId, h, huser, hlookup, cause, hend⟩ |
      ⟨principal, h, hlookup, decision, hend, hallow⟩
  · have hrun : run = (.error (.refused .unauthenticated), w) := hend
    rw [hrun] at hagree ⊢
    exact ⟨by simp [hrejected], by simp [hrejected], by simp [hrejected], by simp, rfl, hagree⟩
  · have hrun : run = (.error (.refused (.infrastructure cause)), w) := hend
    rw [hrun] at hagree ⊢
    refine ⟨?_, ?_, ?_, by simp, rfl, hagree⟩
    · simp [h.iff_eq, huser, hlookup]
    · simp [h.iff_eq]
    · simp [h.iff_eq, huser, hlookup]
  · have hrun : run = (.ok decision, w) := hend
    rw [hrun] at hagree ⊢
    refine ⟨?_, ?_, ?_, ?_, rfl, hagree⟩
    · simp only [h.iff_eq, Except.ok.injEq, hallow, exists_and_left, exists_eq_left]
      refine exists_congr fun userId => and_congr_right fun huser => ?_
      simp [hlookup userId huser]
    · simp [h.iff_eq]
    · simpa [h.iff_eq] using hlookup
    · cases decision <;> simp

end AuthorizationService

namespace Sample

/-- A clerk may read orders. -/
def clerk : Role := ⟨⟨4⟩, "Clerk", "", true⟩

def orders : Module := ⟨⟨5⟩, "Orders", "", true⟩

def read : PermissionType := ⟨⟨6⟩, "Read", "R", ""⟩

def grant : Grant := ⟨clerk.id, orders.id, read.id, .ofSeconds 0⟩

/-- A store in which the account is a clerk. -/
def graph : MemoryStore :=
  { MemoryStore.empty with
    identities := ⟨[(identity.id, identity)]⟩, roles := ⟨[(clerk.id, clerk)]⟩
    modules := ⟨[(orders.name, orders)]⟩, permissionTypes := ⟨[(read.name, read)]⟩
    userRoles := ⟨[(identity.id, [clerk.id])]⟩, grants := [grant] }

theorem distinctIds_graph : graph.DistinctIds := ⟨by decide, by decide⟩

theorem entitles_graph : graph.Entitles identity.id "Orders:Read" clerk grant orders read where
  assigned := by decide
  role_found := by decide
  role_enabled := rfl
  granted := by decide
  module_found := by decide
  module_enabled := rfl
  type_found := by decide
  text := by decide

/-- Authorization from live data that refuses tokens. -/
def authorization : AuthorizationService := ⟨{ service.settings with blacklist := true }, .live⟩

end Sample

namespace AuthorizationService

/-- The clerk is allowed to read orders. -/
theorem live_check_allows :
    let w : World FaultyStore := ⟨.ofSeconds 0, .empty, ⟨Sample.graph, []⟩⟩
    Sample.authorization.source = .live ∧ w.stored.store.DistinctIds ∧ ∃ bearer,
      (outcome (Sample.authorization.check bearer ⟨"Orders", "Read"⟩) FaultyStore.storage w).1 =
        .ok .allow := by
  intro w
  obtain ⟨issued, hissued⟩ : ∃ issued, Token.issue Sample.authorization.settings (.ofSeconds 0) ⟨3⟩
      Sample.identity ⟨[], []⟩ = some issued := ⟨_, rfl⟩
  have hvalid := Token.validate_issue_now (.new _ _ _ _ true) (Int.le_refl 0) hissued
  have hexact := live_check_exact Sample.authorization rfl w Sample.distinctIds_graph issued.token
    ⟨"Orders", "Read"⟩
  have hlookups : ¬ Unanswered w Sample.identity.id := by simp [Unanswered, w]
  refine ⟨rfl, Sample.distinctIds_graph, issued.token, hexact.1.mpr ?_⟩
  exact ⟨_, Sample.identity.id, ⟨hvalid, fun _ => rfl⟩, rfl, hlookups, ⟨Sample.identity, rfl, rfl⟩,
    _, _, _, _, Sample.entitles_graph⟩

end AuthorizationService

end Gatehouse
