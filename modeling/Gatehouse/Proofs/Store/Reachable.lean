import Gatehouse.Proofs.Store.Orderly

/-! # Stores that can come about

A store comes about from the empty one by changes of the graph and by store calls, in any order and
with any arguments; one that is refused leaves the store (`MemoryStore.Reachable`).  What a change asks
of the store and does to it is said once (`Made`).  Changes of the graph leave the sessions alone,
so every such store is orderly; store calls leave the graph alone, and the changes edit its records
one at a time (`change_edits`), so each keeps a key of its own (`Reachable.graphOrderly`). -/

namespace Gatehouse

/-- A change of the graph of identities, roles and grants. -/
inductive GraphChange where
  | insertIdentity (identity : Identity)
  | insertRole (role : Role)
  | insertModule (m : Module)
  | insertPermissionType (p : PermissionType)
  | assignRole (userId roleId : Uuid)
  | grant (g : Grant)
  | setModuleEnabled (name : String) (enabled : Bool)
  | setRoleEnabled (name : String) (enabled : Bool)
  | setIdentityEnabled (userId : Uuid) (enabled : Bool)
  deriving DecidableEq, Repr

/-- What the grant is of. -/
def Grant.triple (g : Grant) : Uuid × Uuid × Uuid := (g.roleId, g.moduleId, g.permissionTypeId)

namespace MemoryStore

variable {st st' : MemoryStore} {c : GraphChange}

/-- The store with a change made. -/
def change (st : MemoryStore) : GraphChange → Except Failure MemoryStore
  | .insertIdentity identity => st.insertIdentity identity
  | .insertRole role => st.insertRole role
  | .insertModule m => .ok (st.insertModule m)
  | .insertPermissionType p => .ok (st.insertPermissionType p)
  | .assignRole userId roleId => st.assignRole userId roleId
  | .grant g => st.grant g
  | .setModuleEnabled name enabled => st.setModuleEnabled name enabled
  | .setRoleEnabled name enabled => st.setRoleEnabled name enabled
  | .setIdentityEnabled userId enabled => st.setIdentityEnabled userId enabled

/-- The store after a change.  Every change looks at all that it asks for before it writes anything,
so one that is refused has written nothing and leaves the store. -/
def afterChange (st : MemoryStore) (c : GraphChange) : MemoryStore :=
  match st.change c with
  | .ok st' => st'
  | .error _ => st

/-- The store can come about. -/
inductive Reachable : MemoryStore → Prop
  | empty : Reachable empty
  | change {st : MemoryStore} (h : Reachable st) (c : GraphChange) : Reachable (st.afterChange c)
  | call {st : MemoryStore} (h : Reachable st) (call : StoreCall) : Reachable (st.after call)

theorem demand_bind {failure : Failure} {condition : Bool} {k : Unit → Except Failure MemoryStore}
    (h : (demand failure condition >>= k) = .ok st') : condition = true ∧ k () = .ok st' := by
  cases condition with
  | true => exact ⟨rfl, h⟩
  | false => cases h

/-! ### What a change asks and does -/

/-- The change is carried out: what it asks of the store, and the store after it. -/
inductive Made (st : MemoryStore) : GraphChange → MemoryStore → Prop
  | insertIdentity {identity : Identity}
      (free : ∀ i ∈ st.identities.values, i.email ≠ Email.normalize identity.email) :
      Made st (.insertIdentity identity)
        { st with
          identities := st.identities.insert identity.id
            { identity with email := Email.normalize identity.email } }
  | insertRole {role : Role} (free : ∀ r ∈ st.roles.values, r.name ≠ role.name) :
      Made st (.insertRole role) { st with roles := st.roles.insert role.id role }
  | insertModule {m : Module} :
      Made st (.insertModule m) { st with modules := st.modules.insert m.name m }
  | insertPermissionType {p : PermissionType} :
      Made st (.insertPermissionType p)
        { st with permissionTypes := st.permissionTypes.insert p.name p }
  | assignRole {userId roleId : Uuid} {held : List Uuid}
      (user : st.identities.has userId = true) (role : st.roles.has roleId = true)
      (before : (st.userRoles.get? userId).getD [] = held) :
      Made st (.assignRole userId roleId)
        { st with
          userRoles := st.userRoles.insert userId
            (if held.contains roleId then held else held ++ [roleId]) }
  | grant {g : Grant} (role : st.roles.has g.roleId = true)
      (module : st.modules.any (·.id = g.moduleId) = true)
      (permissionType : st.permissionTypes.any (·.id = g.permissionTypeId) = true)
      (free : ∀ h ∈ st.grants, h.triple ≠ g.triple) :
      Made st (.grant g) { st with grants := st.grants ++ [g] }
  | setModuleEnabled {name : String} {enabled : Bool} (module : st.modules.has name = true) :
      Made st (.setModuleEnabled name enabled)
        { st with modules := st.modules.modify name fun m => { m with enabled } }
  | setRoleEnabled {role : Role} {enabled : Bool} (found : st.roleByName role.name = some role) :
      Made st (.setRoleEnabled role.name enabled)
        { st with roles := st.roles.modify role.id fun r => { r with enabled } }
  | setIdentityEnabled {userId : Uuid} {enabled : Bool} (user : st.identities.has userId = true) :
      Made st (.setIdentityEnabled userId enabled)
        { st with identities := st.identities.modify userId fun i => { i with enabled } }

theorem pairs_iff_triple {g h : Grant} :
    Pairs h g.roleId g.moduleId g.permissionTypeId ↔ h.triple = g.triple := by
  unfold Pairs Grant.triple
  rw [Prod.mk.injEq, Prod.mk.injEq]

/-- A change that is answered is carried out. -/
theorem made_of_change (h : st.change c = .ok st') : st.Made c st' := by
  cases c with
  | insertIdentity identity =>
      simp only [change, insertIdentity] at h
      split_ifs at h with htaken
      cases h
      refine .insertIdentity fun i hi heq => htaken ?_
      exact List.any_eq_true.mpr ⟨i, hi, decide_eq_true heq⟩
  | insertRole role =>
      simp only [change, insertRole] at h
      split_ifs at h with htaken
      cases h
      refine .insertRole fun r hr heq => htaken ?_
      exact List.any_eq_true.mpr ⟨r, hr, decide_eq_true heq⟩
  | insertModule m =>
      cases h
      exact .insertModule
  | insertPermissionType p =>
      cases h
      exact .insertPermissionType
  | assignRole userId roleId =>
      obtain ⟨huser, h⟩ := demand_bind h
      obtain ⟨hrole, h⟩ := demand_bind h
      cases h
      exact .assignRole huser hrole rfl
  | grant g =>
      obtain ⟨hrole, h⟩ := demand_bind h
      obtain ⟨hmodule, h⟩ := demand_bind h
      obtain ⟨htype, h⟩ := demand_bind h
      obtain ⟨hfree, h⟩ := demand_bind h
      cases h
      refine .grant hrole hmodule htype fun other hother heq => ?_
      rw [Bool.not_eq_true', List.any_eq_false] at hfree
      exact hfree other hother (decide_eq_true (pairs_iff_triple.mpr heq))
  | setModuleEnabled name enabled =>
      obtain ⟨hmodule, h⟩ := demand_bind h
      cases h
      exact .setModuleEnabled hmodule
  | setRoleEnabled name enabled =>
      simp only [change, setRoleEnabled] at h
      cases hr : st.roleByName name with
      | none =>
          rw [hr] at h
          cases h
      | some role =>
          rw [hr] at h
          cases h
          have hname : decide (role.name = name) = true :=
            List.find?_some (p := fun r : Role => decide (r.name = name)) hr
          obtain rfl := of_decide_eq_true hname
          exact .setRoleEnabled hr
  | setIdentityEnabled userId enabled =>
      obtain ⟨huser, h⟩ := demand_bind h
      cases h
      exact .setIdentityEnabled huser

/-- What a change of the graph may do: in each table of records one is put in or changed, under a
key that stays its own, and the sessions are left alone. -/
structure GraphEdited (st st' : MemoryStore) : Prop where
  identities : st.identities.Edited Identity.id st'.identities
  roles : st.roles.Edited Role.id st'.roles
  modules : st.modules.Edited Module.name st'.modules
  permissionTypes : st.permissionTypes.Edited PermissionType.name st'.permissionTypes
  sessions : st'.sessions = st.sessions

theorem change_edits (h : st.change c = .ok st') : st.GraphEdited st' := by
  cases made_of_change h with
  | @insertIdentity identity =>
      exact ⟨.insert { identity with email := Email.normalize identity.email }, .same, .same, .same,
        rfl⟩
  | @insertRole role => exact ⟨.same, .insert role, .same, .same, rfl⟩
  | @insertModule m => exact ⟨.same, .same, .insert m, .same, rfl⟩
  | @insertPermissionType p => exact ⟨.same, .same, .same, .insert p, rfl⟩
  | assignRole | grant => exact ⟨.same, .same, .same, .same, rfl⟩
  | @setModuleEnabled name enabled =>
      exact ⟨.same, .same, .modify name (fun m : Module => { m with enabled }) fun _ => rfl, .same,
        rfl⟩
  | @setRoleEnabled role enabled =>
      exact ⟨.same, .modify role.id (fun r : Role => { r with enabled }) fun _ => rfl, .same, .same,
        rfl⟩
  | @setIdentityEnabled userId enabled =>
      exact ⟨.modify userId (fun i : Identity => { i with enabled }) fun _ => rfl, .same, .same,
        .same, rfl⟩

/-- A store after a change, made or refused, is one edit away. -/
theorem afterChange_edits (st : MemoryStore) (c : GraphChange) :
    st.GraphEdited (st.afterChange c) := by
  unfold afterChange
  cases h : st.change c with
  | error failure => exact ⟨.same, .same, .same, .same, rfl⟩
  | ok st' => exact change_edits h

/-- Only the sessions matter for their order. -/
theorem Orderly.of_sessions_eq (h : st.Orderly) (he : st'.sessions = st.sessions) :
    st'.Orderly := by
  refine ⟨?_, ?_, ?_, ?_⟩
  · rw [he]
    exact h.distinct
  · rw [he]
    exact h.own_id
  · rw [he]
    exact h.hash_unique
  · rw [he]
    exact h.device_unique

theorem Reachable.orderly (h : st.Reachable) : st.Orderly := by
  induction h with
  | empty => exact orderly_empty
  | change _ c ih => exact ih.of_sessions_eq (afterChange_edits _ c).sessions
  | call _ call ih => exact ih.after call

/-! ### Records of the graph -/

/-- The graph is in order: no key of its records occurs twice, and each account lies under its own
id. -/
structure GraphOrderly (st : MemoryStore) : Prop where
  identities : st.identities.Keyed Identity.id
  roles : st.roles.Distinct
  modules : st.modules.Distinct
  permissionTypes : st.permissionTypes.Distinct

theorem GraphOrderly.edited (h : st.GraphOrderly) (he : st.GraphEdited st') : st'.GraphOrderly where
  identities := he.identities.keyed h.identities
  roles := he.roles.distinct h.roles
  modules := he.modules.distinct h.modules
  permissionTypes := he.permissionTypes.distinct h.permissionTypes

/-- Store calls leave everything but the sessions alone. -/
theorem after_eq (st : MemoryStore) (call : StoreCall) :
    ∃ sessions, st.after call = { st with sessions } := by
  by_cases hr : ∃ r, call = .rotate r
  · obtain ⟨r, rfl⟩ := hr
    rcases st.after_rotate r with heq | ⟨_, _, heq⟩
    · exact ⟨st.sessions, heq⟩
    · exact ⟨(st.afterRotation r).sessions, heq⟩
  · obtain ⟨f, _, heq⟩ := st.after_other call fun r hc => hr ⟨r, hc⟩
    exact ⟨st.sessions.map f, heq⟩

/-- A property of the graph that holds of the empty store and that every change that is carried out
keeps holds of every store that can come about. -/
theorem Reachable.keeps {P : MemoryStore → Prop} (h : st.Reachable)
    (hempty : P MemoryStore.empty)
    (hchange : ∀ {st c st'}, P st → st.Made c st' → P st')
    (hsessions : ∀ {st : MemoryStore} (sessions), P st → P { st with sessions }) : P st := by
  induction h with
  | empty => exact hempty
  | @change st _ c ih =>
      unfold afterChange
      cases hc : st.change c with
      | error failure => exact ih
      | ok st' => exact hchange ih (made_of_change hc)
  | @call st _ call ih =>
      obtain ⟨sessions, heq⟩ := st.after_eq call
      rw [heq]
      exact hsessions sessions ih

theorem GraphOrderly.after (h : st.GraphOrderly) (call : StoreCall) :
    (st.after call).GraphOrderly := by
  obtain ⟨sessions, heq⟩ := st.after_eq call
  rw [heq]
  exact ⟨h.identities, h.roles, h.modules, h.permissionTypes⟩

theorem Reachable.graphOrderly (h : st.Reachable) : st.GraphOrderly := by
  induction h with
  | empty =>
      refine ⟨?_, Table.distinct_empty, Table.distinct_empty, Table.distinct_empty⟩
      intro k identity hk
      cases hk
  | change _ c ih => exact ih.edited (afterChange_edits _ c)
  | call _ call ih => exact ih.after call

/-- Each account lies under its own id. -/
theorem Reachable.identity_id (h : st.Reachable) : st.identities.Keyed Identity.id :=
  h.graphOrderly.identities

theorem Reachable.distinct_identities (h : st.Reachable) : st.identities.Distinct := by
  induction h with
  | empty => exact Table.distinct_empty
  | change _ c ih => exact (afterChange_edits _ c).identities.distinct ih
  | @call st _ call ih =>
      obtain ⟨sessions, heq⟩ := st.after_eq call
      rw [heq]
      exact ih

/-- An account that is found by its address lies under its id. -/
theorem Reachable.get?_of_findByEmail (h : st.Reachable) {email : String} {identity : Identity}
    (hfound : st.findByEmail email = some identity) :
    st.identities.get? identity.id = some identity := by
  obtain ⟨k, hk⟩ :=
    (Table.mem_values h.distinct_identities).mp (List.mem_of_find?_eq_some hfound)
  rw [h.identity_id hk]
  exact hk

/-- Changes one after another, those that are refused passed over. -/
theorem Reachable.changes (h : st.Reachable) (cs : List GraphChange) :
    (cs.foldl afterChange st).Reachable := by
  induction cs generalizing st with
  | nil => exact h
  | cons c cs ih => exact ih (h.change c)

end MemoryStore

end Gatehouse
