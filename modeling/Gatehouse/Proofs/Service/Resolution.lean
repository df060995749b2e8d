import Gatehouse.Proofs.Bytes.Order
import Gatehouse.Proofs.Service.Grants
import Gatehouse.Proofs.Store.Switches

/-! # What is resolved

Resolving what an identity may do comes to a set of role names and a set of permissions, each read
off the graph along its edges (`HoldsRole`, `Permits`).  They are listed in the order of their
bytes, each once, and the search by halving finds their members (`resolve_eq_graph`).  As nothing
but the graph counts, switching parts off and on again takes nothing away for good. -/

namespace Gatehouse

open Service

namespace MemoryStore

variable {st : MemoryStore} {userId : Uuid}

/-- The identity holds an enabled role of this name. -/
def HoldsRole (st : MemoryStore) (userId : Uuid) (name : String) : Prop :=
  ∃ roleId ∈ (st.userRoles.get? userId).getD [], ∃ role, st.roles.get? roleId = some role ∧
    role.enabled = true ∧ role.name = name

/-- The roles of a resolved access are the enabled roles that the identity holds. -/
theorem mem_roles_access {name : String} :
    name ∈ (Access.flatten (st.roleAssignments userId)).roles ↔ st.HoldsRole userId name := by
  simp only [Access.flatten, Access.mem_ascending, List.mem_map, List.mem_filter]
  constructor
  · rintro ⟨a, ⟨ha, henabled⟩, hname⟩
    obtain ⟨roleId, hheld, hrole, _⟩ := mem_roleAssignments.mp ha
    exact ⟨roleId, hheld, a.role, hrole, henabled, hname⟩
  · rintro ⟨roleId, hheld, role, hrole, henabled, hname⟩
    exact ⟨⟨role, _⟩, ⟨mem_roleAssignments.mpr ⟨roleId, hheld, hrole, rfl⟩, henabled⟩, hname⟩

end MemoryStore

namespace Sample

/-- A module and a role that are switched off and on again. -/
def switches : List Switch :=
  [Part.module "Ventas", .role "Staff"].map (⟨·, false⟩) ++
    [Part.module "Ventas", .role "Staff"].map (⟨·, true⟩)

theorem restores_switches : branches.stored.store.Restores switches :=
  MemoryStore.restores_off_on (by decide) (by decide)

theorem holdsRole_branches : branches.stored.store.HoldsRole ⟨5⟩ "Staff" :=
  ⟨⟨6⟩, by decide, ⟨⟨6⟩, "Staff", "", true⟩, by decide, rfl, rfl⟩

theorem permits_branches : branches.stored.store.Permits ⟨5⟩ "Ventas:Norte:Leer" := by
  obtain ⟨role, g, m, p, h, hm, hp⟩ := holds_branches
  obtain ⟨hmodule, htype⟩ :=
    (MemoryStore.resolveGrant_eq_some_iff distinctIds_branches).mp h.resolved
  exact ⟨role, g, m, p,
    { assigned := h.assigned, role_found := h.role_found, role_enabled := h.role_enabled
      granted := h.granted, module_found := hmodule, module_enabled := h.module_enabled
      type_found := htype, text := by rw [hm, hp]; decide }⟩

end Sample

/-- Ascending texts have ascending bytes. -/
theorem Access.pairwise_bytes {ss : List String} (h : ss.Pairwise (· < ·)) :
    (ss.map Bytes.ofText).Pairwise (· < ·) :=
  List.pairwise_map.mpr (h.imp Bytes.ofText_lt_iff.mpr)

namespace Resolution

variable {w : World FaultyStore}

theorem hasPermission_of_sound (hf : w.stored.faults = []) (userId : Uuid) (permission : String) :
    outcome (hasPermission userId permission) FaultyStore.storage w =
      (.ok ((Access.flatten (w.stored.store.roleAssignments userId)).contains permission), w) := by
  unfold hasPermission
  rw [outcome_bind_ok (resolve_of_sound hf userId)]
  rfl

/-- **What is resolved for an identity is what the graph says.**  In a store that can come about, in
which no two modules and no two permission types share an id, the role names are those of the
enabled roles that the identity holds, and the permissions are those of the stored grants of such
roles on enabled modules of the catalog.  Both are listed in the ascending order of their bytes, so
each once; whatever is asked is found exactly if it is listed.  After any switches of modules and
roles that leave each as it was, the same is resolved. -/
theorem resolve_eq_graph (hf : w.stored.faults = []) (hreach : w.stored.store.Reachable)
    (hids : w.stored.store.DistinctIds) (userId : Uuid) :
    ∃ access, outcome (resolve userId) FaultyStore.storage w = (.ok access, w) ∧
      (∀ name, name ∈ access.roles ↔ w.stored.store.HoldsRole userId name) ∧
      (∀ permission, permission ∈ access.permissions ↔
        w.stored.store.Permits userId permission) ∧
      (access.roles.map Bytes.ofText).Pairwise (· < ·) ∧
      (access.permissions.map Bytes.ofText).Pairwise (· < ·) ∧
      (∀ asked, access.contains asked = decide (asked ∈ access.permissions) ∧
        outcome (hasPermission userId asked) FaultyStore.storage w =
          (.ok (decide (asked ∈ access.permissions)), w)) ∧
      ∀ switches, w.stored.store.Restores switches →
        (outcome (resolve userId) FaultyStore.storage
          { w with stored := { w.stored with store := w.stored.store.afterSwitches switches } }).1 =
          .ok access := by
  let access := Access.flatten (w.stored.store.roleAssignments userId)
  have hcontains (asked : String) :
      access.contains asked = decide (asked ∈ access.permissions) := by
    rw [Bool.eq_iff_iff, decide_eq_true_eq]
    exact Access.contains_flatten_iff_mem
  refine ⟨access, resolve_of_sound hf userId, fun _ => MemoryStore.mem_roles_access, ?_,
    Access.pairwise_bytes (Access.pairwise_ascending _),
    Access.pairwise_bytes (Access.pairwise_ascending _), ?_, ?_⟩
  · intro permission
    rw [← Access.contains_flatten_iff_mem, MemoryStore.contains_access hids]
  · intro asked
    refine ⟨hcontains asked, ?_⟩
    rw [hasPermission_of_sound hf, ← hcontains asked]
  · intro switches hswitches
    rw [hswitches.afterSwitches_eq hreach, resolve_of_sound hf]

/-- Ana's role and her one permission are resolved, and again after a module and the role were
switched off and on. -/
theorem resolve_eq_graph_branches :
    Sample.branches.stored.faults = [] ∧ Sample.branches.stored.store.Reachable ∧
      Sample.branches.stored.store.DistinctIds ∧ ∃ access,
        outcome (resolve ⟨5⟩) FaultyStore.storage Sample.branches =
          (.ok access, Sample.branches) ∧
        "Staff" ∈ access.roles ∧ "Ventas:Norte:Leer" ∈ access.permissions ∧
        (outcome (resolve ⟨5⟩) FaultyStore.storage
          { Sample.branches with stored := { Sample.branches.stored with
            store := Sample.branches.stored.store.afterSwitches Sample.switches } }).1 =
          .ok access := by
  obtain ⟨access, hresolve, hroles, hpermissions, _, _, _, hswitched⟩ :=
    resolve_eq_graph (w := Sample.branches) rfl Sample.reachable_branches
      Sample.distinctIds_branches ⟨5⟩
  exact ⟨rfl, Sample.reachable_branches, Sample.distinctIds_branches, access, hresolve,
    (hroles _).mpr Sample.holdsRole_branches, (hpermissions _).mpr Sample.permits_branches,
    hswitched _ Sample.restores_switches⟩

end Resolution

end Gatehouse
