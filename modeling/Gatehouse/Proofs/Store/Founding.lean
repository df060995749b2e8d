import Gatehouse.Catalog
import Gatehouse.Proofs.Store.Graph
import Gatehouse.Proofs.Store.Reachable
import Mathlib.Data.List.TakeWhile

/-! # Loading the default catalog

The catalog is loaded step by step, and what the steps before a failure did stays done.  Its
permission types and modules take the place of others of their names before any step can fail, so a
catalog that is refused (`loadInto_cases` says when) has replaced them already, under new identifiers
(`remnant`).  The grants that name the old ones no longer lead anywhere: afterwards an identity may do
what it could do if the modules and permission types of those names had been taken away
(`loadInto_error_leaves`). -/

namespace Gatehouse.Catalog

open MemoryStore

variable {st st' : MemoryStore} {hasher : PasswordHasher} {seed : Seed} {now : Instant}

/-- The identifiers of a catalog are new to a store: they differ from one another, and no record,
grant or assignment of the store has one of them. -/
structure Seed.NewTo (seed : Seed) (st : MemoryStore) : Prop where
  distinct : ∀ m ≤ adminOffset, ∀ n ≤ adminOffset, seed.id m = seed.id n → m = n
  identities : ∀ n ≤ adminOffset, seed.id n ∉ st.identities.keys
  roles : ∀ n ≤ adminOffset, seed.id n ∉ st.roles.keys
  modules : ∀ n ≤ adminOffset, ∀ m ∈ st.modules.values, m.id ≠ seed.id n
  permissionTypes : ∀ n ≤ adminOffset, ∀ p ∈ st.permissionTypes.values, p.id ≠ seed.id n
  grants : ∀ n ≤ adminOffset, ∀ g ∈ st.grants,
    g.roleId ≠ seed.id n ∧ g.moduleId ≠ seed.id n ∧ g.permissionTypeId ≠ seed.id n
  held : ∀ n ≤ adminOffset, ∀ userId, seed.id n ∉ (st.userRoles.get? userId).getD []

/-! ### Steps -/

section Steps

variable {α β : Type}

/-- A chain of steps goes on with the value of its first part, or stops there. -/
theorem run_bind (x : Founding α) (f : α → Founding β) (st : MemoryStore) :
    (x >>= f).run st =
      match x.run st with
      | (.ok a, st') => (f a).run st'
      | (.error failure, st') => (.error failure, st') := by
  have h : (x >>= f).run st =
      match x.run st with
      | (result, st') => ExceptT.bindCont f result st' := rfl
  rw [h]
  cases x.run st with
  | mk result st' => cases result <;> rfl

theorem run_bind_ok {x : Founding α} {f : α → Founding β} {a : α} (h : x.run st = (.ok a, st')) :
    (x >>= f).run st = (f a).run st' := by
  rw [run_bind, h]

theorem run_bind_error {x : Founding α} {f : α → Founding β} {failure : Failure}
    (h : x.run st = (.error failure, st')) : (x >>= f).run st = (.error failure, st') := by
  rw [run_bind, h]

theorem run_put (f : MemoryStore → MemoryStore) (st : MemoryStore) :
    (put f).run st = (.ok (), f st) := rfl

theorem run_attempt_ok {f : MemoryStore → Except Failure MemoryStore} (h : f st = .ok st') :
    (attempt f).run st = (.ok (), st') := by
  have hget : (getThe MemoryStore : Founding MemoryStore).run st = (.ok st, st) := rfl
  unfold attempt
  rw [run_bind_ok hget, h]
  rfl

theorem run_attempt_error {f : MemoryStore → Except Failure MemoryStore} {failure : Failure}
    (h : f st = .error failure) : (attempt f).run st = (.error failure, st) := by
  have hget : (getThe MemoryStore : Founding MemoryStore).run st = (.ok st, st) := rfl
  unfold attempt
  rw [run_bind_ok hget, h]
  rfl

theorem run_named {name what : String} {nameOf : α → String} {records : List α} {a : α}
    (h : records.find? (nameOf · = name) = some a) (st : MemoryStore) :
    (named name what nameOf records).run st = (.ok a, st) := by
  unfold named
  rw [h]
  rfl

/-- Steps that cannot fail are made one after another. -/
theorem run_forM_put (f : α → MemoryStore → MemoryStore) (as : List α) (st : MemoryStore) :
    (as.forM fun a => put (f a)).run st = (.ok (), as.foldl (fun st a => f a st) st) := by
  induction as generalizing st with
  | nil => rfl
  | cons a as ih =>
      have hput : (put (f a)).run st = (.ok (), f a st) := run_put (f a) st
      exact (run_bind_ok hput).trans (ih (f a st))

end Steps

/-! ### Records -/

theorem run_permissionTypes (ps : List PermissionType) (st : MemoryStore) :
    (ps.forM fun p => put (·.insertPermissionType p)).run st =
      (.ok (), { st with
        permissionTypes := st.permissionTypes.insertAll PermissionType.name ps }) := by
  rw [run_forM_put fun p st => st.insertPermissionType p]
  congr 1
  induction ps generalizing st with
  | nil => rfl
  | cons p ps ih => exact ih (st.insertPermissionType p)

theorem run_modules (ms : List Module) (st : MemoryStore) :
    (ms.forM fun m => put (·.insertModule m)).run st =
      (.ok (), { st with modules := st.modules.insertAll Module.name ms }) := by
  rw [run_forM_put fun m st => st.insertModule m]
  congr 1
  induction ms generalizing st with
  | nil => rfl
  | cons m ms ih => exact ih (st.insertModule m)

/-- No role of the store has the name. -/
def vacant (st : MemoryStore) (r : Role) : Bool := !st.roles.any (·.name = r.name)

theorem insertRole_of_vacant {r : Role} (h : vacant st r = true) :
    st.insertRole r = .ok { st with roles := st.roles.insert r.id r } := by
  have hnone : st.roles.any (·.name = r.name) = false := by simpa [vacant] using h
  unfold insertRole
  rw [hnone]
  rfl

theorem insertRole_of_not_vacant {r : Role} (h : vacant st r = false) :
    st.insertRole r = .error (.alreadyExists "Role") := by
  have hsome : st.roles.any (·.name = r.name) = true := by simpa [vacant] using h
  unfold insertRole
  rw [if_pos hsome]

/-- A role under a new id takes no name but its own. -/
theorem vacant_insert {r r' : Role} (hid : r.id ∉ st.roles.keys) (hname : r'.name ≠ r.name) :
    vacant { st with roles := st.roles.insert r.id r } r' = vacant st r' := by
  have hother : decide (r.name = r'.name) = false := decide_eq_false (Ne.symm hname)
  unfold vacant Table.any
  dsimp only
  rw [Table.values_insert_of_notMem r hid, List.any_append, List.any_cons, List.any_nil, hother]
  simp only [Bool.or_false]

/-- Roles under new ids are inserted up to the first whose name is taken. -/
theorem run_roles {rs : List Role} {isVacant : Role → Bool}
    (hvacant : ∀ r ∈ rs, vacant st r = isVacant r) (hids : (rs.map Role.id).Nodup)
    (hnew : ∀ r ∈ rs, r.id ∉ st.roles.keys) (hnames : (rs.map Role.name).Nodup) :
    (rs.forM fun r => attempt (·.insertRole r)).run st =
      (if rs.all isVacant then .ok () else .error (.alreadyExists "Role"),
        { st with roles := st.roles.insertAll Role.id (rs.takeWhile isVacant) }) := by
  induction rs generalizing st with
  | nil => rfl
  | cons r rs ih =>
      rw [List.map_cons, List.nodup_cons] at hids hnames
      have hr : vacant st r = isVacant r := hvacant r List.mem_cons_self
      cases hv : isVacant r with
      | false =>
          have hstep : (attempt (·.insertRole r)).run st = (.error (.alreadyExists "Role"), st) :=
            run_attempt_error (insertRole_of_not_vacant (hr.trans hv))
          have hrun := run_bind_error (f := fun _ => rs.forM fun r => attempt (·.insertRole r)) hstep
          rw [List.all_cons, List.takeWhile_cons, hv]
          exact hrun
      | true =>
          have hid : r.id ∉ st.roles.keys := hnew r List.mem_cons_self
          have hstep : (attempt (·.insertRole r)).run st =
              (.ok (), { st with roles := st.roles.insert r.id r }) :=
            run_attempt_ok (insertRole_of_vacant (hr.trans hv))
          have hrun := run_bind_ok (f := fun _ => rs.forM fun r => attempt (·.insertRole r)) hstep
          rw [List.all_cons, List.takeWhile_cons, hv]
          refine hrun.trans (ih ?_ hids.2 ?_ hnames.2)
          · intro r' hr'
            have hne : r'.name ≠ r.name := fun h => hnames.1 (h ▸ List.mem_map_of_mem hr')
            rw [vacant_insert hid hne]
            exact hvacant r' (List.mem_cons_of_mem r hr')
          · intro r' hr'
            have hne : r'.id ≠ r.id := fun h => hids.1 (h ▸ List.mem_map_of_mem hr')
            rw [Table.keys_insert_of_notMem r hid, List.mem_append, List.mem_singleton, not_or]
            exact ⟨hnew r' (List.mem_cons_of_mem r hr'), hne⟩

theorem grant_ok {g : Grant} (hrole : st.roles.has g.roleId = true)
    (hmodule : st.modules.any (·.id = g.moduleId) = true)
    (htype : st.permissionTypes.any (·.id = g.permissionTypeId) = true)
    (hfree : ∀ h ∈ st.grants, ¬ Pairs h g.roleId g.moduleId g.permissionTypeId) :
    st.grant g = .ok { st with grants := st.grants ++ [g] } := by
  have hnone : (st.grants.any fun h => decide (Pairs h g.roleId g.moduleId g.permissionTypeId)) =
      false := by
    rw [List.any_eq_false]
    intro h hh
    rw [decide_eq_true_eq]
    exact hfree h hh
  unfold grant
  rw [hrole, hmodule, htype, hnone]
  rfl

/-- Grants of one type on modules with different ids are all made, unless one of them was made
before. -/
theorem run_grants (st : MemoryStore) (now : Instant) {ms : List Module} {roleId typeId : Uuid}
    (hrole : st.roles.has roleId = true)
    (hmodules : ∀ m ∈ ms, st.modules.any (·.id = m.id) = true)
    (htype : st.permissionTypes.any (·.id = typeId) = true)
    (hfree : ∀ h ∈ st.grants, ∀ m ∈ ms, ¬ Pairs h roleId m.id typeId)
    (hids : (ms.map Module.id).Nodup) :
    (ms.forM fun m => attempt (·.grant ⟨roleId, m.id, typeId, now⟩)).run st =
      (.ok (), { st with
        grants := st.grants ++ ms.map fun m => ⟨roleId, m.id, typeId, now⟩ }) := by
  induction ms generalizing st with
  | nil =>
      rw [List.map_nil, List.append_nil]
      rfl
  | cons m ms ih =>
      rw [List.map_cons, List.nodup_cons] at hids
      have hgrant := grant_ok (g := ⟨roleId, m.id, typeId, now⟩) hrole
        (hmodules m List.mem_cons_self) htype fun h hh => hfree h hh m List.mem_cons_self
      have hstep : (attempt (·.grant ⟨roleId, m.id, typeId, now⟩)).run st =
          (.ok (), { st with grants := st.grants ++ [⟨roleId, m.id, typeId, now⟩] }) :=
        run_attempt_ok hgrant
      rw [List.map_cons, List.append_cons]
      refine (run_bind_ok hstep).trans (ih _ hrole ?_ htype ?_ hids.2)
      · intro m' hm'
        exact hmodules m' (List.mem_cons_of_mem m hm')
      · intro h hh m' hm' hpairs
        rcases List.mem_append.mp hh with hold | hlast
        · exact hfree h hold m' (List.mem_cons_of_mem m hm') hpairs
        · rw [List.mem_singleton.mp hlast] at hpairs
          have hid : m.id = m'.id := hpairs.2.1
          exact hids.1 (hid ▸ List.mem_map_of_mem hm')

/-- What is left of a catalog that fails to load: the permission types, the modules, and the roles
before the first whose name is taken. -/
def remnant (st : MemoryStore) (seed : Seed) : MemoryStore :=
  { st with
    permissionTypes := st.permissionTypes.insertAll PermissionType.name (permissionTypes seed)
    modules := st.modules.insertAll Module.name (modules seed)
    roles := st.roles.insertAll Role.id ((roles seed).takeWhile (vacant st)) }

/-! ### New identifiers -/

section NewIds

variable (hnew : seed.NewTo st)
include hnew

theorem Seed.NewTo.nodup {offset : Nat} {count : Nat} (h : offset + count ≤ adminOffset + 1) :
    ((List.range count).map fun n => seed.id (offset + n)).Nodup := by
  refine List.Nodup.map_on ?_ List.nodup_range
  intro m hm n hn heq
  rw [List.mem_range] at hm hn
  have := hnew.distinct (offset + m) (by omega) (offset + n) (by omega) heq
  omega

end NewIds

theorem map_id_permissionTypes :
    (permissionTypes seed).map PermissionType.id = (List.range 5).map fun n => seed.id (0 + n) := by
  rfl

theorem map_id_modules :
    (modules seed).map Module.id = (List.range 4).map fun n => seed.id (moduleOffset + n) := rfl

theorem map_id_roles :
    (roles seed).map Role.id = (List.range 3).map fun n => seed.id (roleOffset + n) := rfl

/-- A record of the catalog has one of its identifiers. -/
theorem exists_number {α : Type} {idOf : α → Uuid} {as : List α} {offset count : Nat}
    (hids : as.map idOf = (List.range count).map fun n => seed.id (offset + n))
    (h : offset + count ≤ adminOffset + 1) {a : α} (ha : a ∈ as) :
    ∃ n ≤ adminOffset, idOf a = seed.id n := by
  have hid : idOf a ∈ as.map idOf := List.mem_map_of_mem ha
  rw [hids] at hid
  obtain ⟨n, hn, heq⟩ := List.mem_map.mp hid
  rw [List.mem_range] at hn
  exact ⟨offset + n, by omega, heq.symm⟩

theorem nodup_permissionTypes : ((permissionTypes seed).map PermissionType.name).Nodup := by
  have hnames : (permissionTypes seed).map PermissionType.name = permissionTypeNames.map (·.1) := rfl
  rw [hnames]
  decide

theorem nodup_modules : ((modules seed).map Module.name).Nodup := by
  have hnames : (modules seed).map Module.name = moduleNames.map (·.1) := rfl
  rw [hnames]
  decide

theorem nodup_roles : ((roles seed).map Role.name).Nodup := by
  have hnames : (roles seed).map Role.name = roleNames.map (·.1) := rfl
  rw [hnames]
  decide

/-! ### The ends of loading -/

/-- The administrators' role of the catalog. -/
def administrators (seed : Seed) : Role :=
  ⟨seed.id roleOffset, adminRole, "Full system access", true⟩

/-- The permission type that administrators have. -/
def fullAccess (seed : Seed) : PermissionType :=
  ⟨seed.id 4, adminPermissionType, adminPermissionType.toUpper, "Full access to the module"⟩

theorem find?_administrators : (roles seed).find? (·.name = adminRole) = some (administrators seed) := by
  rfl

theorem find?_fullAccess :
    (permissionTypes seed).find? (·.name = adminPermissionType) = some (fullAccess seed) := by
  rfl

/-- The steps after the administrator was put in. -/
def endow (seed : Seed) (now : Instant) (identity : Identity) : Founding Identity := do
  let role ← named adminRole "roles" Role.name (roles seed)
  attempt (·.assignRole identity.id role.id)
  let full ← named adminPermissionType "permission types" PermissionType.name (permissionTypes seed)
  (modules seed).forM fun m => attempt (·.grant ⟨role.id, m.id, full.id, now⟩)
  pure identity

/-- The steps after the roles. -/
def appoint (hasher : PasswordHasher) (seed : Seed) (now : Instant) : Founding Identity := do
  let identity ← match admin hasher seed with
    | .ok identity => pure identity
    | .error cause => throw (Failure.infrastructure cause)
  attempt (·.insertIdentity identity)
  endow seed now identity

theorem roles_run (hnew : seed.NewTo st) :
    ((roles seed).forM fun r => attempt (·.insertRole r)).run
        { st with
          permissionTypes := st.permissionTypes.insertAll PermissionType.name (permissionTypes seed)
          modules := st.modules.insertAll Module.name (modules seed) } =
      (if (roles seed).all (vacant st) then .ok () else .error (.alreadyExists "Role"),
        remnant st seed) := by
  refine run_roles (fun _ _ => rfl) ?_ ?_ nodup_roles
  · rw [map_id_roles]
    exact hnew.nodup (by decide)
  · intro r hr
    obtain ⟨n, hn, hid⟩ := exists_number map_id_roles (by decide) hr
    rw [hid]
    exact hnew.roles n hn

theorem loadInto_of_taken (hnew : seed.NewTo st) (h : (roles seed).all (vacant st) = false) :
    loadInto st hasher seed now = (.error (.alreadyExists "Role"), remnant st seed) := by
  have hroles := roles_run hnew
  rw [h] at hroles
  unfold loadInto load
  rw [run_bind_ok (run_permissionTypes _ st), run_bind_ok (run_modules _ _)]
  exact run_bind_error hroles

theorem loadInto_of_vacant (hnew : seed.NewTo st) (h : (roles seed).all (vacant st) = true) :
    loadInto st hasher seed now = (appoint hasher seed now).run (remnant st seed) := by
  have hroles := roles_run hnew
  rw [h] at hroles
  unfold loadInto load
  rw [run_bind_ok (run_permissionTypes _ st), run_bind_ok (run_modules _ _)]
  exact run_bind_ok hroles

theorem appoint_of_unhashed {cause : Cause} (h : admin hasher seed = .error cause) :
    (appoint hasher seed now).run st = (.error (.infrastructure cause), st) := by
  unfold appoint
  rw [h]
  rfl

theorem appoint_of_refused {identity : Identity} {failure : Failure}
    (h : admin hasher seed = .ok identity) (hinsert : st.insertIdentity identity = .error failure) :
    (appoint hasher seed now).run st = (.error failure, st) := by
  have hstep : (attempt (·.insertIdentity identity)).run st = (.error failure, st) :=
    run_attempt_error hinsert
  unfold appoint
  rw [h]
  exact (run_bind_ok rfl).trans (run_bind_error hstep)

theorem appoint_of_inserted {identity : Identity} (h : admin hasher seed = .ok identity)
    (hinsert : st.insertIdentity identity = .ok st') :
    (appoint hasher seed now).run st = (endow seed now identity).run st' := by
  have hstep : (attempt (·.insertIdentity identity)).run st = (.ok (), st') :=
    run_attempt_ok hinsert
  unfold appoint
  rw [h]
  exact (run_bind_ok rfl).trans (run_bind_ok hstep)

theorem assignRole_ok {userId roleId : Uuid} (huser : st.identities.has userId = true)
    (hrole : st.roles.has roleId = true) :
    ∃ userRoles, st.assignRole userId roleId = .ok { st with userRoles } := by
  unfold assignRole
  rw [huser, hrole]
  exact ⟨_, rfl⟩

/-- With all its records in the store, the administrator gets its role and the role its grants. -/
theorem run_endow {identity : Identity} (huser : st.identities.has identity.id = true)
    (hrole : st.roles.has (administrators seed).id = true)
    (hmodules : ∀ m ∈ modules seed, st.modules.any (·.id = m.id) = true)
    (htype : st.permissionTypes.any (·.id = (fullAccess seed).id) = true)
    (hfree : ∀ g ∈ st.grants, g.roleId ≠ (administrators seed).id)
    (hids : ((modules seed).map Module.id).Nodup) :
    ∃ st', (endow seed now identity).run st = (.ok identity, st') := by
  obtain ⟨userRoles, hassign⟩ := assignRole_ok huser hrole
  have hstep : (attempt (·.assignRole identity.id (administrators seed).id)).run st =
      (.ok (), { st with userRoles }) := run_attempt_ok hassign
  have hgrants := run_grants { st with userRoles } now hrole hmodules htype
    (fun g hg m _ hpairs => hfree g hg hpairs.1) hids
  unfold endow
  rw [run_bind_ok (run_named find?_administrators st), run_bind_ok hstep,
    run_bind_ok (run_named find?_fullAccess _), run_bind_ok hgrants]
  exact ⟨_, rfl⟩

theorem email_of_admin {identity : Identity} (h : admin hasher seed = .ok identity) :
    identity.email = adminEmail := by
  unfold admin at h
  cases hhash : hasher.hash seed.salt adminPassword with
  | error cause =>
      rw [hhash] at h
      cases h
  | ok passwordHash =>
      rw [hhash] at h
      cases h
      rfl

/-- With all the roles in, and an administrator with a new address, nothing is left to fail. -/
theorem appoint_ok (now : Instant) (hnew : seed.NewTo st)
    (hall : (roles seed).all (vacant st) = true)
    {identity : Identity} (hadmin : admin hasher seed = .ok identity)
    (hfree : st.identities.any (·.email = Email.normalize adminEmail) = false) :
    ∃ st', (appoint hasher seed now).run (remnant st seed) = (.ok identity, st') := by
  have hinsert : (remnant st seed).insertIdentity identity =
      .ok { remnant st seed with
        identities := st.identities.insert identity.id
          { identity with email := Email.normalize identity.email } } := by
    unfold insertIdentity
    rw [email_of_admin hadmin]
    exact if_neg (ne_true_of_eq_false hfree)
  rw [appoint_of_inserted hadmin hinsert]
  refine run_endow ?_ ?_ ?_ ?_ ?_ ?_
  · exact Table.has_of_get? ((Table.get?_insert _ _ _ _).trans (if_pos rfl))
  · have hmem : administrators seed ∈ roles seed := List.mem_of_find?_eq_some find?_administrators
    have htake : (roles seed).takeWhile (vacant st) = roles seed :=
      List.takeWhile_eq_self_iff.mpr (List.all_eq_true.mp hall)
    have hids : ((roles seed).map Role.id).Nodup := by
      rw [map_id_roles]
      exact hnew.nodup (by decide)
    have hrole := Table.get?_insertAll_of_mem (t := st.roles) hids hmem
    rw [← htake] at hrole
    exact Table.has_of_get? hrole
  · intro m hm
    exact Table.any_of_get? (Table.get?_insertAll_of_mem nodup_modules hm) (decide_eq_true rfl)
  · have hmem : fullAccess seed ∈ permissionTypes seed :=
      List.mem_of_find?_eq_some find?_fullAccess
    exact Table.any_of_get? (Table.get?_insertAll_of_mem nodup_permissionTypes hmem)
      (decide_eq_true rfl)
  · intro g hg
    exact (hnew.grants roleOffset (by decide) g hg).1
  · rw [map_id_modules]
    exact hnew.nodup (by decide)

/-- **How loading ends.**  Under new identifiers it fails only if a role's name is taken, the
password cannot be hashed or the administrator's address is taken, and whichever it was, the same
is left behind. -/
theorem loadInto_cases (hasher : PasswordHasher) (now : Instant) (hnew : seed.NewTo st) :
    (roles seed).all (vacant st) = false ∧
        loadInto st hasher seed now = (.error (.alreadyExists "Role"), remnant st seed) ∨
      (∃ cause, admin hasher seed = .error cause ∧
        loadInto st hasher seed now = (.error (.infrastructure cause), remnant st seed)) ∨
      st.identities.any (·.email = Email.normalize adminEmail) = true ∧
        loadInto st hasher seed now = (.error (.alreadyExists "User"), remnant st seed) ∨
      ∃ identity st', loadInto st hasher seed now = (.ok identity, st') := by
  cases hvacant : (roles seed).all (vacant st) with
  | false => exact .inl ⟨rfl, loadInto_of_taken hnew hvacant⟩
  | true =>
      rw [loadInto_of_vacant hnew hvacant]
      cases hadmin : admin hasher seed with
      | error cause => exact .inr (.inl ⟨cause, rfl, appoint_of_unhashed hadmin⟩)
      | ok identity =>
          cases htaken : st.identities.any (·.email = Email.normalize adminEmail) with
          | true =>
              have hinsert : (remnant st seed).insertIdentity identity =
                  .error (.alreadyExists "User") := by
                unfold insertIdentity
                rw [email_of_admin hadmin]
                exact if_pos htaken
              exact .inr (.inr (.inl ⟨rfl, appoint_of_refused hadmin hinsert⟩))
          | false =>
              obtain ⟨st', hrun⟩ := appoint_ok now hnew hvacant hadmin htaken
              exact .inr (.inr (.inr ⟨identity, st', hrun⟩))

/-! ### What is left of the permissions -/

/-- The store without the modules and permission types whose names are in the catalog. -/
def bare (st : MemoryStore) : MemoryStore :=
  { st with
    modules := st.modules.filter fun name _ => name ∉ moduleNames.map (·.1)
    permissionTypes := st.permissionTypes.filter fun name _ => name ∉ permissionTypeNames.map (·.1) }

/-- An id that no new record has leads where it would lead if what they replace were not there. -/
theorem lastByName_insertAll {α : Type} {key : α → String} {idOf : α → Uuid} {t : Table String α}
    (hd : t.Distinct) {as : List α} (hkeys : (as.map key).Nodup) {id : Uuid}
    (hids : ∀ a ∈ as, idOf a ≠ id) :
    lastByName (t.insertAll key as) (idOf · = id) =
      lastByName (t.filter fun name _ => name ∉ as.map key) (idOf · = id) := by
  refine lastByName_congr (hd.insertAll as) (hd.filter _) fun k a hid => ?_
  rw [decide_eq_true_eq] at hid
  rw [Table.get?_filter hd, decide_eq_true_eq]
  by_cases hk : k ∈ as.map key
  · obtain ⟨b, hb, rfl⟩ := List.mem_map.mp hk
    rw [Table.get?_insertAll_of_mem hkeys hb]
    constructor
    · rintro ⟨⟩
      exact absurd hid (hids a hb)
    · rintro ⟨_, hnot⟩
      exact absurd hk hnot
  · rw [Table.get?_insertAll_of_notMem hk]
    exact ⟨fun h => ⟨h, hk⟩, fun h => h.1⟩

theorem map_role_bare (st : MemoryStore) (userId : Uuid) :
    ((bare st).roleAssignments userId).map (·.role) = (st.roleAssignments userId).map (·.role) := by
  unfold roleAssignments
  rw [List.map_filterMap, List.map_filterMap]
  refine List.filterMap_congr fun roleId _ => ?_
  rw [Option.map_map, Option.map_map]
  rfl

section Remnant

variable (hst : st.Reachable) (hnew : seed.NewTo st)
include hst hnew

theorem resolveGrant_remnant {g : Grant} (hg : g ∈ st.grants) :
    (remnant st seed).resolveGrant g = (bare st).resolveGrant g := by
  have hgraph := hst.graphOrderly
  have hmodule : lastByName (remnant st seed).modules (·.id = g.moduleId) =
      lastByName (bare st).modules (·.id = g.moduleId) := by
    refine lastByName_insertAll hgraph.modules nodup_modules fun m hm => ?_
    obtain ⟨n, hn, hid⟩ := exists_number map_id_modules (by decide) hm
    rw [hid]
    exact (hnew.grants n hn g hg).2.1.symm
  have htype : lastByName (remnant st seed).permissionTypes (·.id = g.permissionTypeId) =
      lastByName (bare st).permissionTypes (·.id = g.permissionTypeId) := by
    refine lastByName_insertAll hgraph.permissionTypes nodup_permissionTypes fun p hp => ?_
    obtain ⟨n, hn, hid⟩ := exists_number map_id_permissionTypes (by decide) hp
    rw [hid]
    exact (hnew.grants n hn g hg).2.2.symm
  unfold resolveGrant
  rw [hmodule, htype]

theorem roleAssignments_remnant (userId : Uuid) :
    (remnant st seed).roleAssignments userId = (bare st).roleAssignments userId := by
  unfold roleAssignments
  refine List.filterMap_congr fun roleId hrole => ?_
  have hheld := List.mem_eraseDups.mp hrole
  have hkept : (remnant st seed).roles.get? roleId = st.roles.get? roleId := by
    refine Table.get?_insertAll_of_notMem fun hmem => ?_
    obtain ⟨r, hr, rfl⟩ := List.mem_map.mp hmem
    obtain ⟨n, hn, hid⟩ := exists_number map_id_roles (by decide) (List.takeWhile_subset _ hr)
    rw [hid] at hheld
    exact hnew.held n hn userId hheld
  have hgrants : (st.grants.filter (·.roleId = roleId)).filterMap (remnant st seed).resolveGrant =
      (st.grants.filter (·.roleId = roleId)).filterMap (bare st).resolveGrant :=
    List.filterMap_congr fun g hg => resolveGrant_remnant hst hnew (List.mem_of_mem_filter hg)
  rw [hkept]
  exact congrArg (fun grants => (st.roles.get? roleId).map (RoleAssignment.mk · grants)) hgrants

/-- The modules of the catalog lie under ids that were not there before. -/
theorem modules_remnant_ne : (remnant st seed).modules ≠ st.modules := by
  intro heq
  let catalog : Module := ⟨seed.id moduleOffset, "Catalog", "Products and categories", true⟩
  have hmem : catalog ∈ modules seed := List.mem_cons_self
  have hfound : (remnant st seed).modules.get? "Catalog" = some catalog :=
    Table.get?_insertAll_of_mem nodup_modules hmem
  rw [heq] at hfound
  have hold : catalog ∈ st.modules.values :=
    (Table.mem_values hst.graphOrderly.modules).mpr ⟨_, hfound⟩
  exact hnew.modules moduleOffset (by decide) catalog hold rfl

end Remnant

/-- **What a failed loading leaves.**  Accounts, assignments, grants and sessions stay as they were,
but the permission types and modules of the catalog are in the store, under ids that were not there,
and so are its roles before the first whose name was taken.  Every identity still has its roles, and
of its permissions those that it would have if no module and no permission type had a name that is
in the catalog. -/
theorem loadInto_error_leaves {failure : Failure} (hst : st.Reachable) (hnew : seed.NewTo st)
    (h : loadInto st hasher seed now = (.error failure, st')) :
    st' = remnant st seed ∧ st'.modules ≠ st.modules ∧
      ∀ userId,
        (Access.flatten (st'.roleAssignments userId)).roles =
            (Access.flatten (st.roleAssignments userId)).roles ∧
          Access.flatten (st'.roleAssignments userId) =
            Access.flatten ((bare st).roleAssignments userId) := by
  have hleft : st' = remnant st seed := by
    rcases loadInto_cases hasher now hnew with
      ⟨_, hload⟩ | ⟨_, _, hload⟩ | ⟨_, hload⟩ | ⟨_, _, hload⟩
    · exact (congrArg Prod.snd (hload.symm.trans h)).symm
    · exact (congrArg Prod.snd (hload.symm.trans h)).symm
    · exact (congrArg Prod.snd (hload.symm.trans h)).symm
    · rw [hload] at h
      cases h
  subst hleft
  refine ⟨rfl, modules_remnant_ne hst hnew, fun userId => ?_⟩
  rw [roleAssignments_remnant hst hnew userId]
  exact ⟨Access.roles_flatten_congr (map_role_bare st userId), rfl⟩

end Gatehouse.Catalog

namespace Gatehouse.Sample

/-- The changes that make a store with a role of administrators of its own, held by an account that
may read the products. -/
def officeChanges : List GraphChange :=
  [.insertRole ⟨⟨20⟩, "Administrador", "Staff", true⟩,
    .insertModule ⟨⟨21⟩, "Catalog", "Products", true⟩,
    .insertPermissionType ⟨⟨22⟩, "Leer", "LEER", "View"⟩,
    .insertIdentity ⟨⟨23⟩, "Ana", "ana@eshop.com", "", true⟩,
    .assignRole ⟨23⟩ ⟨20⟩, .grant ⟨⟨20⟩, ⟨21⟩, ⟨22⟩, .ofSeconds 0⟩]

def office : MemoryStore := officeChanges.foldl MemoryStore.afterChange .empty

/-- The random values of a catalog. -/
def founding : Catalog.Seed := ⟨fun n => ⟨BitVec.ofNat 128 n⟩, []⟩

/-- What loading the catalog into the office ends with. -/
def refused : Except Failure Identity × MemoryStore :=
  Catalog.loadInto office (.bcrypt 4) founding (.ofSeconds 0)

theorem reachable_office : office.Reachable := MemoryStore.Reachable.empty.changes officeChanges

theorem founding_newTo_office : founding.NewTo office where
  distinct := by decide
  identities := by decide
  roles := by decide
  modules := by decide
  permissionTypes := by decide
  grants := by decide
  held := by
    intro n hn userId
    have hroles : office.userRoles = Table.empty.insert ⟨23⟩ [⟨20⟩] := rfl
    rw [hroles, Table.get?_insert]
    split_ifs with huser
    · have hnew : ∀ n ≤ Catalog.adminOffset, founding.id n ∉ [(⟨20⟩ : Uuid)] := by decide
      exact hnew n hn
    · exact List.not_mem_nil

theorem refused_eq : refused.1 = .error (.alreadyExists "Role") := rfl

theorem distinctIds_office : office.DistinctIds := ⟨by decide, by decide⟩

theorem entitles_office : office.Entitles ⟨23⟩ "Catalog:Leer" ⟨⟨20⟩, "Administrador", "Staff", true⟩
    ⟨⟨20⟩, ⟨21⟩, ⟨22⟩, .ofSeconds 0⟩ ⟨⟨21⟩, "Catalog", "Products", true⟩
    ⟨⟨22⟩, "Leer", "LEER", "View"⟩ where
  assigned := by decide
  role_found := by decide
  role_enabled := rfl
  granted := by decide
  module_found := by decide
  module_enabled := rfl
  type_found := by decide
  text := by decide

/-- The one grant of the office names a module that is not there any more. -/
theorem resolveGrant_refused : ∀ g ∈ refused.2.grants, refused.2.resolveGrant g = none := by
  intro g hg
  have hgone : ∀ g ∈ refused.2.grants, ∀ m ∈ refused.2.modules.values, m.id ≠ g.moduleId := by
    decide
  have hnone : MemoryStore.lastByName refused.2.modules (·.id = g.moduleId) = none :=
    MemoryStore.lastByName_eq_none fun m hm => decide_eq_false (hgone g hg m hm)
  unfold MemoryStore.resolveGrant
  rw [hnone]
  rfl

end Gatehouse.Sample

namespace Gatehouse.Catalog

open MemoryStore

/-- Loading the catalog into the office is refused, for it has such a role, and leaves new modules. -/
theorem loadInto_error_leaves_office :
    Sample.office.Reachable ∧ Sample.founding.NewTo Sample.office ∧
      loadInto Sample.office (.bcrypt 4) Sample.founding (.ofSeconds 0) =
        (.error (.alreadyExists "Role"), Sample.refused.2) ∧
      Sample.refused.2.modules ≠ Sample.office.modules := by
  have hload : loadInto Sample.office (.bcrypt 4) Sample.founding (.ofSeconds 0) =
      (.error (.alreadyExists "Role"), Sample.refused.2) := Prod.ext Sample.refused_eq rfl
  have hleaves := loadInto_error_leaves Sample.reachable_office Sample.founding_newTo_office hload
  exact ⟨Sample.reachable_office, Sample.founding_newTo_office, hload, hleaves.2.1⟩

/-- A loading that fails leaves neither the store intact nor what identities may do: the one account
of the office may not read the products any more. -/
theorem failed_loading_takes_permission :
    ¬ ∀ (st : MemoryStore) (hasher : PasswordHasher) (seed : Seed) (now : Instant),
      st.Reachable → seed.NewTo st →
      let loaded := loadInto st hasher seed now
      (∃ failure, loaded.1 = .error failure) →
        (loaded.2.identities = st.identities ∧ loaded.2.roles = st.roles ∧
          loaded.2.modules = st.modules ∧ loaded.2.permissionTypes = st.permissionTypes ∧
          loaded.2.userRoles = st.userRoles ∧ loaded.2.grants = st.grants) ∨
        ∀ userId, Access.flatten (loaded.2.roleAssignments userId) =
          Access.flatten (st.roleAssignments userId) := by
  intro h
  have hpermitted : (Access.flatten (Sample.office.roleAssignments ⟨23⟩)).contains "Catalog:Leer" =
      true := (contains_access Sample.distinctIds_office).mpr ⟨_, _, _, _, Sample.entitles_office⟩
  have hlost : ¬ (Access.flatten (Sample.refused.2.roleAssignments ⟨23⟩)).contains "Catalog:Leer" =
      true := by
    rw [Access.contains_flatten]
    rintro ⟨a, ha, _, r, hr, _⟩
    obtain ⟨roleId, _, _, hgrants⟩ := mem_roleAssignments.mp ha
    rw [hgrants] at hr
    obtain ⟨g, hg, hresolve⟩ := List.mem_filterMap.mp hr
    rw [Sample.resolveGrant_refused g (List.mem_of_mem_filter hg)] at hresolve
    cases hresolve
  rcases h Sample.office (.bcrypt 4) Sample.founding (.ofSeconds 0) Sample.reachable_office
    Sample.founding_newTo_office ⟨_, Sample.refused_eq⟩ with hintact | hsame
  · have hmodules : Sample.refused.2.modules = Sample.office.modules := hintact.2.2.1
    have hsize : (4 : Nat) = 1 := congrArg Table.size hmodules
    cases hsize
  · exact hlost ((congrArg (·.contains "Catalog:Leer") (hsame ⟨23⟩)).trans hpermitted)

end Gatehouse.Catalog
