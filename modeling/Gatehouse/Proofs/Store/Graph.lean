import Gatehouse.Proofs.Permission
import Gatehouse.Proofs.Table
import Gatehouse.Store.Memory

/-! # Permissions in the graph

`Entitles` says along which edges of the graph an identity has a permission: from the identity to a
role that it holds, to a grant of that role, to the module and the permission type of the grant, the
role and the module being enabled.  Grants name modules and permission types by ids, which are looked
up among records that lie under their names, so the edges are what the store answers only if no two
records share an id (`DistinctIds`).  Then the access that is resolved for an identity contains
exactly the permissions to which the graph entitles it (`contains_access`).  Without that it contains
the texts of the grants that the identity holds, as the store resolves them (`Holds`,
`contains_access_iff`). -/

namespace Gatehouse

theorem Table.mem_sortedValues {α : Type} {t : Table String α} {a : α} :
    a ∈ t.sortedValues ↔ a ∈ t.values := by
  unfold sortedValues values
  exact ((List.mergeSort_perm _ _).map _).mem_iff

namespace MemoryStore

variable {st : MemoryStore}

/-- The graph entitles the identity to the permission, through a grant of a role that it holds. -/
structure Entitles (st : MemoryStore) (userId : Uuid) (permission : String) (role : Role)
    (g : Grant) (m : Module) (p : PermissionType) : Prop where
  assigned : g.roleId ∈ (st.userRoles.get? userId).getD []
  role_found : st.roles.get? g.roleId = some role
  role_enabled : role.enabled = true
  granted : g ∈ st.grants
  module_found : m ∈ st.modules.values ∧ m.id = g.moduleId
  module_enabled : m.enabled = true
  type_found : p ∈ st.permissionTypes.values ∧ p.id = g.permissionTypeId
  text : permissionText m.name p.name = permission

/-- The graph entitles the identity to the permission. -/
def Permits (st : MemoryStore) (userId : Uuid) (permission : String) : Prop :=
  ∃ role g m p, st.Entitles userId permission role g m p

/-- The identity holds the grant through an enabled role, and the grant resolves to the permission
type and to the module, which is enabled. -/
structure Holds (st : MemoryStore) (userId : Uuid) (role : Role) (g : Grant) (m : Module)
    (p : PermissionType) : Prop where
  assigned : g.roleId ∈ (st.userRoles.get? userId).getD []
  role_found : st.roles.get? g.roleId = some role
  role_enabled : role.enabled = true
  granted : g ∈ st.grants
  resolved : st.resolveGrant g = some ⟨m, p⟩
  module_enabled : m.enabled = true

/-- No two modules and no two permission types share an id. -/
structure DistinctIds (st : MemoryStore) : Prop where
  modules : ∀ m ∈ st.modules.values, ∀ m' ∈ st.modules.values, m.id = m'.id → m = m'
  permissionTypes : ∀ p ∈ st.permissionTypes.values, ∀ p' ∈ st.permissionTypes.values,
    p.id = p'.id → p = p'

/-! ### Records of a grant -/

/-- What passes a test stands in the same order in tables that have the same of it. -/
theorem filter_sortedValues_congr {α : Type} {t t' : Table String α} {test : α → Bool}
    (hd : t.Distinct) (hd' : t'.Distinct)
    (h : ∀ k a, test a = true → (t.get? k = some a ↔ t'.get? k = some a)) :
    t.sortedValues.filter test = t'.sortedValues.filter test := by
  let sorted (t : Table String α) : List (String × α) :=
    (t.entries.mergeSort fun a b => decide (a.1 ≤ b.1)).filter (test ∘ (·.2))
  have hmem : ∀ {t : Table String α}, t.Distinct →
      ∀ e, e ∈ sorted t ↔ t.get? e.1 = some e.2 ∧ test e.2 = true := by
    intro t hd e
    rw [List.mem_filter, (List.mergeSort_perm _ _).mem_iff, ← Table.mem_entries hd]
    rfl
  have hnodup : ∀ {t : Table String α}, t.Distinct → (sorted t).Nodup := by
    intro t hd
    have hkeys : (t.entries.map (·.1)).Nodup := hd
    have hentries : t.entries.Nodup := hkeys.of_map
    exact ((List.mergeSort_perm _ _).nodup_iff.mpr hentries).filter _
  have hpairwise : ∀ t : Table String α, (sorted t).Pairwise (·.1 ≤ ·.1) := by
    intro t
    refine List.Pairwise.imp of_decide_eq_true (List.Pairwise.filter _
      (List.pairwise_mergeSort ?_ ?_ t.entries))
    · intro a b c hab hbc
      exact decide_eq_true (le_trans (of_decide_eq_true hab) (of_decide_eq_true hbc))
    · intro a b
      rw [Bool.or_eq_true, decide_eq_true_eq, decide_eq_true_eq]
      exact le_total a.1 b.1
  have hperm : (sorted t).Perm (sorted t') := by
    rw [List.perm_ext_iff_of_nodup (hnodup hd) (hnodup hd')]
    intro e
    rw [hmem hd, hmem hd']
    exact and_congr_left fun htest => h e.1 e.2 htest
  have heq : sorted t = sorted t' := by
    refine hperm.eq_of_pairwise ?_ (hpairwise t) (hpairwise t')
    -- entries that are not apart in the order of names lie under the same name
    rintro ⟨k, a⟩ ⟨k', a'⟩ he he' hle hle'
    obtain rfl : k = k' := le_antisymm hle hle'
    obtain ⟨hget', _⟩ := (hmem hd' _).mp he'
    obtain ⟨hget, htest⟩ := (hmem hd _).mp he
    have := (h k a htest).mp hget
    rw [hget'] at this
    cases this
    rfl
  unfold Table.sortedValues
  rw [List.filter_map, List.filter_map]
  exact congrArg _ heq

/-- A search by names sees only what passes its test. -/
theorem lastByName_congr {α : Type} {t t' : Table String α} {test : α → Bool}
    (hd : t.Distinct) (hd' : t'.Distinct)
    (h : ∀ k a, test a = true → (t.get? k = some a ↔ t'.get? k = some a)) :
    lastByName t test = lastByName t' test := by
  unfold lastByName
  rw [← List.head?_filter, ← List.head?_filter, List.filter_reverse, List.filter_reverse,
    filter_sortedValues_congr hd hd' h]

/-- Where at most one value passes the test, the last that does is the one. -/
theorem lastByName_eq_some_iff {α : Type} {t : Table String α} {test : α → Bool}
    (unique : ∀ a ∈ t.values, ∀ b ∈ t.values, test a = true → test b = true → a = b) {a : α} :
    lastByName t test = some a ↔ a ∈ t.values ∧ test a = true := by
  have hmem : ∀ {b}, b ∈ t.sortedValues.reverse ↔ b ∈ t.values := by
    intro b
    rw [List.mem_reverse, Table.mem_sortedValues]
  unfold lastByName
  constructor
  · intro h
    exact ⟨hmem.mp (List.mem_of_find?_eq_some h), List.find?_some h⟩
  · rintro ⟨ha, htest⟩
    cases hfind : t.sortedValues.reverse.find? test with
    | none => exact absurd htest (List.find?_eq_none.mp hfind a (hmem.mpr ha))
    | some b =>
        have hb := hmem.mp (List.mem_of_find?_eq_some hfind)
        rw [unique b hb a ha (List.find?_some hfind) htest]

theorem lastByName_eq_none {α : Type} {t : Table String α} {test : α → Bool}
    (h : ∀ a ∈ t.values, test a = false) : lastByName t test = none := by
  refine List.find?_eq_none.mpr fun a ha => ?_
  rw [List.mem_reverse, Table.mem_sortedValues] at ha
  exact ne_true_of_eq_false (h a ha)

theorem resolveGrant_eq_some_iff (h : st.DistinctIds) {g : Grant} {r : ResolvedGrant} :
    st.resolveGrant g = some r ↔
      (r.module ∈ st.modules.values ∧ r.module.id = g.moduleId) ∧
        r.permissionType ∈ st.permissionTypes.values ∧
          r.permissionType.id = g.permissionTypeId := by
  have hmodule : ∀ {m}, lastByName st.modules (·.id = g.moduleId) = some m ↔
      m ∈ st.modules.values ∧ m.id = g.moduleId := by
    intro m
    rw [lastByName_eq_some_iff, decide_eq_true_eq]
    intro a ha b hb hida hidb
    rw [decide_eq_true_eq] at hida hidb
    exact h.modules a ha b hb (hida.trans hidb.symm)
  have htype : ∀ {p}, lastByName st.permissionTypes (·.id = g.permissionTypeId) = some p ↔
      p ∈ st.permissionTypes.values ∧ p.id = g.permissionTypeId := by
    intro p
    rw [lastByName_eq_some_iff, decide_eq_true_eq]
    intro a ha b hb hida hidb
    rw [decide_eq_true_eq] at hida hidb
    exact h.permissionTypes a ha b hb (hida.trans hidb.symm)
  rw [← hmodule, ← htype]
  unfold resolveGrant
  constructor
  · intro hr
    obtain ⟨m, hm, hr⟩ := Option.bind_eq_some_iff.mp hr
    obtain ⟨p, hp, hr⟩ := Option.bind_eq_some_iff.mp hr
    cases hr
    exact ⟨hm, hp⟩
  · rintro ⟨hm, hp⟩
    simp only [hm, hp, Option.bind_eq_bind, Option.bind_some, Option.pure_def]

/-! ### Roles of an identity -/

/-- The assignments of an identity are its roles with the grants that resolve. -/
theorem mem_roleAssignments {userId : Uuid} {a : RoleAssignment} :
    a ∈ st.roleAssignments userId ↔
      ∃ roleId ∈ (st.userRoles.get? userId).getD [], st.roles.get? roleId = some a.role ∧
        a.grants = (st.grants.filter (·.roleId = roleId)).filterMap st.resolveGrant := by
  unfold roleAssignments
  simp only [List.mem_filterMap, List.mem_eraseDups]
  constructor
  · rintro ⟨roleId, hheld, ha⟩
    obtain ⟨role, hrole, rfl⟩ := Option.map_eq_some_iff.mp ha
    exact ⟨roleId, hheld, hrole, rfl⟩
  · rintro ⟨roleId, hheld, hrole, hgrants⟩
    refine ⟨roleId, hheld, ?_⟩
    rw [hrole, Option.map_some, ← hgrants]

/-- A resolved access contains the texts of the grants that the identity holds, and no others. -/
theorem contains_access_iff {userId : Uuid} {permission : String} :
    (Access.flatten (st.roleAssignments userId)).contains permission = true ↔
      ∃ role g m p, st.Holds userId role g m p ∧ permissionText m.name p.name = permission := by
  rw [Access.contains_flatten]
  constructor
  · rintro ⟨a, ha, henabled, r, hr, hmodule, htext⟩
    obtain ⟨roleId, hheld, hrole, hgrants⟩ := mem_roleAssignments.mp ha
    rw [hgrants] at hr
    obtain ⟨g, hg, hresolve⟩ := List.mem_filterMap.mp hr
    obtain ⟨hgranted, hroleId⟩ := List.mem_filter.mp hg
    rw [decide_eq_true_eq] at hroleId
    rw [← hroleId] at hheld hrole
    exact ⟨a.role, g, r.module, r.permissionType,
      { assigned := hheld, role_found := hrole, role_enabled := henabled, granted := hgranted
        resolved := hresolve, module_enabled := hmodule }, htext⟩
  · rintro ⟨role, g, m, p, h, htext⟩
    let grants := (st.grants.filter (·.roleId = g.roleId)).filterMap st.resolveGrant
    have hgrant : ⟨m, p⟩ ∈ grants :=
      List.mem_filterMap.mpr ⟨g, List.mem_filter.mpr ⟨h.granted, decide_eq_true rfl⟩, h.resolved⟩
    have hassignment : ⟨role, grants⟩ ∈ st.roleAssignments userId :=
      mem_roleAssignments.mpr ⟨g.roleId, h.assigned, h.role_found, rfl⟩
    exact ⟨_, hassignment, h.role_enabled, _, hgrant, h.module_enabled, htext⟩

/-- **What a resolved access contains.**  It contains the permissions to which the graph entitles the
identity, and no others. -/
theorem contains_access (h : st.DistinctIds) {userId : Uuid} {permission : String} :
    (Access.flatten (st.roleAssignments userId)).contains permission = true ↔
      st.Permits userId permission := by
  rw [contains_access_iff]
  constructor
  · rintro ⟨role, g, m, p, held, htext⟩
    obtain ⟨hm, hp⟩ := (resolveGrant_eq_some_iff h).mp held.resolved
    exact ⟨role, g, m, p,
      { assigned := held.assigned, role_found := held.role_found
        role_enabled := held.role_enabled, granted := held.granted, module_found := hm
        module_enabled := held.module_enabled, type_found := hp, text := htext }⟩
  · rintro ⟨role, g, m, p, e⟩
    exact ⟨role, g, m, p,
      { assigned := e.assigned, role_found := e.role_found, role_enabled := e.role_enabled
        granted := e.granted, module_enabled := e.module_enabled
        resolved := (resolveGrant_eq_some_iff h).mpr ⟨e.module_found, e.type_found⟩ }, e.text⟩

end MemoryStore

end Gatehouse
