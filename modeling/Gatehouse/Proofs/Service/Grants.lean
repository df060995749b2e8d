import Gatehouse.Proofs.Policy
import Gatehouse.Proofs.Service.Authorization
import Gatehouse.Proofs.Store.Reachable

/-! # Which pairs satisfy a requirement

A live check compares texts: that of the requirement with those of the grants that the identity
holds.  `HoldsPair` says without texts which pairs of a module and a permission type an identity
holds.  A requirement is then allowed if and only if the account is enabled and holds a pair that is
written like it (`live_allow_iff`): the very pair, or one with its cut at another separator.  Where
no name contains the separator this is the pair itself (`live_allow_exact`); where one does, an
identity can be allowed what no grant of its gives it, even on a module that is switched off. -/

namespace Gatehouse

open Service

namespace MemoryStore

variable {st : MemoryStore} {userId : Uuid} {r : Requirement}

/-- The identity holds, through an enabled role, a grant of the very permission type on the very
module, which is enabled. -/
def HoldsPair (st : MemoryStore) (userId : Uuid) (r : Requirement) : Prop :=
  ∃ role g m p, st.Holds userId role g m p ∧ m.name = r.module ∧ p.name = r.permissionType

/-- A resolved access contains the text of a requirement exactly if the identity holds a pair that
is written like it. -/
theorem contains_permission_iff :
    (Access.flatten (st.roleAssignments userId)).contains r.permission = true ↔
      ∃ held, st.HoldsPair userId held ∧
        (held = r ∨ held.CutLater ':' r ∨ r.CutLater ':' held) := by
  rw [contains_access_iff]
  constructor
  · rintro ⟨role, g, m, p, h, htext⟩
    have hjoined : (Requirement.mk m.name p.name).joined ':' = r.joined ':' :=
      Requirement.permission_eq_iff.mp htext
    exact ⟨⟨m.name, p.name⟩, ⟨role, g, m, p, h, rfl, rfl⟩, Requirement.joined_eq_iff.mp hjoined⟩
  · rintro ⟨⟨_, _⟩, ⟨role, g, m, p, h, rfl, rfl⟩, halike⟩
    exact ⟨role, g, m, p, h,
      Requirement.permission_eq_iff.mpr (Requirement.joined_eq_iff.mpr halike)⟩

end MemoryStore

namespace AuthorizationService

variable {w : World FaultyStore} {s : AuthorizationService} {principal : Principal}
  {r : Requirement}

/-- A live decision allows a requirement if and only if no lookup is faulted, the account is enabled,
and it holds a pair that is written like the requirement. -/
theorem live_allow_iff (hlive : s.source = .live) :
    (outcome (s.authorize principal r) FaultyStore.storage w).1 = .ok .allow ↔
      ∃ userId, principal.userId = some userId ∧ ¬ Unanswered w userId ∧
        w.stored.store.Enabled userId ∧ ∃ held, w.stored.store.HoldsPair userId held ∧
          (held = r ∨ held.CutLater ':' r ∨ r.CutLater ':' held) := by
  rcases authorize_cases (w := w) hlive principal r with
    ⟨userId, huser, hlookup, cause, hend⟩ | ⟨hlookup, decision, hend, hallow⟩
  · rw [hend]
    simp [huser, hlookup]
  · rw [hend, Except.ok.injEq, hallow]
    simp only [MemoryStore.contains_permission_iff]
    refine exists_congr fun userId => and_congr_right fun huser => ?_
    simp [hlookup userId huser]

/-- **Which grant is behind what is allowed.**  A live decision allows a requirement if and only if
no lookup is faulted, the account is enabled, and it holds the very pair or one that is written like
it with the cut at another separator.  If the requirement's names contain no separator, or those of
all pairs that the account holds, only the very pair counts. -/
theorem live_allow_exact (s : AuthorizationService) (hlive : s.source = .live)
    (w : World FaultyStore) (principal : Principal) (r : Requirement) :
    let allowed := (outcome (s.authorize principal r) FaultyStore.storage w).1 = .ok .allow
    (allowed ↔ ∃ userId, principal.userId = some userId ∧ ¬ Unanswered w userId ∧
      w.stored.store.Enabled userId ∧ ∃ held, w.stored.store.HoldsPair userId held ∧
        (held = r ∨ held.CutLater ':' r ∨ r.CutLater ':' held)) ∧
    ∀ userId, principal.userId = some userId →
      (r.Plain ':' ∨ ∀ held, w.stored.store.HoldsPair userId held → held.Plain ':') →
      (allowed ↔ ¬ Unanswered w userId ∧ w.stored.store.Enabled userId ∧
        w.stored.store.HoldsPair userId r) := by
  intro allowed
  have hexact : allowed ↔ _ := live_allow_iff hlive
  refine ⟨hexact, fun userId huser hplain => ?_⟩
  have hsame : ∀ held, w.stored.store.HoldsPair userId held →
      (held = r ∨ held.CutLater ':' r ∨ r.CutLater ':' held) → held = r := by
    rintro held hheld halike
    have hjoined := Requirement.joined_eq_iff.mpr halike
    rcases hplain with hr | hall
    · exact Requirement.plain_iff.mp hr held hjoined
    · exact (Requirement.plain_iff.mp (hall held hheld) r hjoined.symm).symm
  rw [hexact]
  constructor
  · rintro ⟨userId', huser', hlookup, henabled, held, hheld, halike⟩
    obtain rfl : userId = userId' := Option.some.inj (huser.symm.trans huser')
    rw [hsame held hheld halike] at hheld
    exact ⟨hlookup, henabled, hheld⟩
  · rintro ⟨hlookup, henabled, hheld⟩
    exact ⟨userId, huser, hlookup, henabled, r, hheld, .inl rfl⟩

end AuthorizationService

namespace Sample

/-- The caller behind a token of the account with an id. -/
def caller (userId : Uuid) : Principal :=
  { subject := "", userId := some userId, name := "", email := "", tokenId := "", roles := []
    permissions := [], expiresAt := .ofSeconds 0 }

/-- The changes that make a store with two modules, one of them switched off, and two permission
types, whose names can be taken together in two ways.  One pair is granted. -/
def branchChanges : List GraphChange :=
  [.insertModule ⟨⟨1⟩, "Ventas", "", true⟩, .insertModule ⟨⟨2⟩, "Ventas:Norte", "", false⟩,
    .insertPermissionType ⟨⟨3⟩, "Leer", "L", ""⟩,
    .insertPermissionType ⟨⟨4⟩, "Norte:Leer", "NL", ""⟩,
    .insertIdentity ⟨⟨5⟩, "Ana", "ana@eshop.com", "", true⟩,
    .insertRole ⟨⟨6⟩, "Staff", "", true⟩, .assignRole ⟨5⟩ ⟨6⟩,
    .grant ⟨⟨6⟩, ⟨1⟩, ⟨4⟩, .ofSeconds 0⟩]

def branches : World FaultyStore :=
  ⟨.ofSeconds 0, .empty, ⟨branchChanges.foldl MemoryStore.afterChange .empty, []⟩⟩

theorem reachable_branches : branches.stored.store.Reachable :=
  MemoryStore.Reachable.empty.changes branchChanges

theorem distinctIds_branches : branches.stored.store.DistinctIds := ⟨by decide, by decide⟩

/-- The pair that was granted. -/
theorem holds_branches : branches.stored.store.HoldsPair ⟨5⟩ ⟨"Ventas", "Norte:Leer"⟩ := by
  refine ⟨⟨⟨6⟩, "Staff", "", true⟩, ⟨⟨6⟩, ⟨1⟩, ⟨4⟩, .ofSeconds 0⟩, ⟨⟨1⟩, "Ventas", "", true⟩,
    ⟨⟨4⟩, "Norte:Leer", "NL", ""⟩, ?_, rfl, rfl⟩
  exact
    { assigned := by decide, role_found := by decide, role_enabled := rfl, granted := by decide
      resolved := (MemoryStore.resolveGrant_eq_some_iff distinctIds_branches).mpr (by decide)
      module_enabled := rfl }

/-- The module that is switched off gives nothing. -/
theorem not_holds_branches : ¬ branches.stored.store.HoldsPair ⟨5⟩ ⟨"Ventas:Norte", "Leer"⟩ := by
  rintro ⟨role, g, m, p, h, hm, _⟩
  have hoff : ∀ m ∈ branches.stored.store.modules.values, m.name = "Ventas:Norte" →
      m.enabled = false := by decide
  have hfound := (MemoryStore.resolveGrant_eq_some_iff distinctIds_branches).mp h.resolved
  cases (hoff m hfound.1.1 hm).symm.trans h.module_enabled

theorem unanswered_branches : ¬ AuthorizationService.Unanswered branches ⟨5⟩ := by
  simp [AuthorizationService.Unanswered, branches]

/-- The one granted pair is written like the one that nobody has. -/
theorem cutLater_branches :
    (Requirement.mk "Ventas:Norte" "Leer").CutLater ':' ⟨"Ventas", "Norte:Leer"⟩ :=
  ⟨"Norte".toList, by decide, by decide⟩

end Sample

namespace AuthorizationService

/-- Ana, who was granted a type of her own on one module, is allowed that type on it. -/
theorem live_allow_exact_branches :
    Sample.authorization.source = .live ∧
      (outcome (Sample.authorization.authorize (Sample.caller ⟨5⟩) ⟨"Ventas", "Norte:Leer"⟩)
        FaultyStore.storage Sample.branches).1 = .ok .allow := by
  have hexact := live_allow_exact Sample.authorization rfl Sample.branches (Sample.caller ⟨5⟩)
    ⟨"Ventas", "Norte:Leer"⟩
  exact ⟨rfl, hexact.1.mpr ⟨⟨5⟩, rfl, Sample.unanswered_branches, ⟨_, rfl, rfl⟩, _,
    Sample.holds_branches, .inl rfl⟩⟩

/-- A live decision can allow what no grant of the account gives: Ana is allowed to read on a module
that is switched off and that none of her grants names. -/
theorem live_allow_without_grant :
    ¬ ∀ (s : AuthorizationService) (w : World FaultyStore) (principal : Principal)
      (r : Requirement), s.source = .live → w.stored.store.Reachable →
      (outcome (s.authorize principal r) FaultyStore.storage w).1 = .ok .allow →
      ∃ userId, principal.userId = some userId ∧ w.stored.store.HoldsPair userId r := by
  intro h
  have hallowed : (outcome (Sample.authorization.authorize (Sample.caller ⟨5⟩)
      ⟨"Ventas:Norte", "Leer"⟩) FaultyStore.storage Sample.branches).1 = .ok .allow :=
    (live_allow_iff rfl).mpr ⟨⟨5⟩, rfl, Sample.unanswered_branches, ⟨_, rfl, rfl⟩, _,
      Sample.holds_branches, .inr (.inr Sample.cutLater_branches)⟩
  obtain ⟨userId, huser, hheld⟩ := h Sample.authorization Sample.branches (Sample.caller ⟨5⟩)
    ⟨"Ventas:Norte", "Leer"⟩ rfl Sample.reachable_branches hallowed
  obtain rfl : (⟨5⟩ : Uuid) = userId := Option.some.inj huser
  exact Sample.not_holds_branches hheld

end AuthorizationService

end Gatehouse
