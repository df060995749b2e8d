import Gatehouse.Proofs.Store.Reachable

/-! # Switching modules and roles

Modules and roles are switched on and off by their names.  In a store that can come about each name
stands for one record at most (`Reachable.partsOrderly`), so a switch sets whether the record of its
name is enabled and touches nothing else (`afterChange_switch`); of several switches in a row the
last one of each name counts (`afterSwitches_eq`).  Switches that leave everything as enabled as it
was give back the very store (`afterSwitches_eq_self`). -/

namespace Gatehouse

/-- What can be switched on and off by its name. -/
inductive Part where
  | module (name : String)
  | role (name : String)
  deriving DecidableEq, Repr

/-- A part switched on or off. -/
structure Switch where
  part : Part
  on : Bool
  deriving DecidableEq, Repr

/-- The switch as a change of the graph. -/
def Switch.change : Switch → GraphChange
  | ⟨.module name, on⟩ => .setModuleEnabled name on
  | ⟨.role name, on⟩ => .setRoleEnabled name on

/-- What the part is switched to last. -/
def lastOf (switches : List Switch) (part : Part) : Option Bool :=
  ((switches.filter (·.part = part)).getLast?).map (·.on)

theorem lastOf_append (first second : List Switch) (part : Part) :
    lastOf (first ++ second) part = (lastOf second part).or (lastOf first part) := by
  unfold lastOf
  rw [List.filter_append, List.getLast?_append, Option.map_or]

theorem lastOf_cons (s : Switch) (switches : List Switch) (part : Part) :
    lastOf (s :: switches) part =
      (lastOf switches part).or (if s.part = part then some s.on else none) := by
  have hone : lastOf [s] part = if s.part = part then some s.on else none := by
    by_cases hpart : s.part = part <;> simp [lastOf, hpart]
  rw [← hone]
  exact lastOf_append [s] switches part

theorem lastOf_map (parts : List Part) (on : Bool) (part : Part) :
    lastOf (parts.map (⟨·, on⟩)) part = if part ∈ parts then some on else none := by
  induction parts with
  | nil => rfl
  | cons first parts ih =>
      rw [List.map_cons, lastOf_cons, ih]
      by_cases hrest : part ∈ parts
      · rw [if_pos hrest, if_pos (List.mem_cons_of_mem first hrest)]
        rfl
      · simp [hrest, eq_comm]

/-- The module switched on or off, or left as it is. -/
def Module.switched (m : Module) (on? : Option Bool) : Module :=
  { m with enabled := on?.getD m.enabled }

/-- The role switched on or off, or left as it is. -/
def Role.switched (r : Role) (on? : Option Bool) : Role :=
  { r with enabled := on?.getD r.enabled }

theorem Module.name_switched (m : Module) (on? : Option Bool) : (m.switched on?).name = m.name :=
  rfl

theorem Role.name_switched (r : Role) (on? : Option Bool) : (r.switched on?).name = r.name := rfl

theorem Module.switched_switched (m : Module) (first second : Option Bool) :
    (m.switched first).switched second = m.switched (second.or first) := by
  cases second <;> rfl

theorem Role.switched_switched (r : Role) (first second : Option Bool) :
    (r.switched first).switched second = r.switched (second.or first) := by
  cases second <;> rfl

namespace MemoryStore

variable {st st' : MemoryStore}

/-! ### Names -/

/-- Modules lie under their names and roles under their ids, and no two roles have the same name. -/
structure PartsOrderly (st : MemoryStore) : Prop where
  modules : st.modules.Keyed Module.name
  roles : st.roles.Keyed Role.id
  role_names : st.roles.Differing Role.name

/-- The name of a role that is put in is not taken; no other change touches the names of roles. -/
theorem change_role_names {c : GraphChange} (h : st.roles.Differing Role.name)
    (hc : st.change c = .ok st') : st'.roles.Differing Role.name := by
  cases made_of_change hc with
  | @insertRole role free =>
      exact h.insert role.id fun k r hr =>
        free r (List.mem_map_of_mem (f := (·.2)) (Table.mem_entries_of_get? hr))
  | @setRoleEnabled role enabled => exact h.modify role.id fun _ => rfl
  | insertIdentity | insertModule | insertPermissionType | assignRole | grant | setModuleEnabled
  | setIdentityEnabled => exact h

theorem Reachable.partsOrderly (h : st.Reachable) : st.PartsOrderly := by
  induction h with
  | empty => exact ⟨nofun, nofun, nofun⟩
  | @change st _ c ih =>
      have hedits := afterChange_edits st c
      refine ⟨hedits.modules.keyed ih.modules, hedits.roles.keyed ih.roles, ?_⟩
      unfold afterChange
      cases hc : st.change c with
      | error _ => exact ih.role_names
      | ok st' => exact change_role_names ih.role_names hc
  | @call st _ call ih =>
      obtain ⟨sessions, heq⟩ := st.after_eq call
      rw [heq]
      exact ⟨ih.modules, ih.roles, ih.role_names⟩

/-! ### Switches -/

/-- The store with parts switched; where nothing is said a part stays as it is. -/
def switched (st : MemoryStore) (on? : Part → Option Bool) : MemoryStore :=
  { st with
    modules := st.modules.map fun _ m => m.switched (on? (.module m.name))
    roles := st.roles.map fun _ r => r.switched (on? (.role r.name)) }

theorem switched_switched (st : MemoryStore) (first second : Part → Option Bool) :
    (st.switched first).switched second =
      st.switched fun part => (second part).or (first part) := by
  simp only [switched, Table.map_map, Module.name_switched, Module.switched_switched,
    Role.name_switched, Role.switched_switched]

/-- The store is the same if every part is switched as it is. -/
theorem switched_eq_self {on? : Part → Option Bool}
    (hmodules : ∀ m ∈ st.modules.values, m.switched (on? (.module m.name)) = m)
    (hroles : ∀ r ∈ st.roles.values, r.switched (on? (.role r.name)) = r) :
    st.switched on? = st := by
  unfold switched
  rw [Table.map_eq_self fun k m hm => hmodules m (List.mem_map_of_mem hm),
    Table.map_eq_self fun k r hr => hroles r (List.mem_map_of_mem hr)]

theorem switched_module (h : st.Reachable) (name : String) (on : Bool) :
    (st.switched fun part => if .module name = part then some on else none) =
      { st with modules := st.modules.modify name fun m => { m with enabled := on } } := by
  have hmodules : (st.modules.map fun _ m =>
        m.switched (if Part.module name = .module m.name then some on else none)) =
      st.modules.modify name fun m => { m with enabled := on } := by
    refine Table.map_congr fun k m hm => ?_
    have hkey : m.name = k :=
      h.partsOrderly.modules (Table.get?_of_mem_entries h.graphOrderly.modules hm)
    subst hkey
    by_cases hname : m.name = name
    · rw [if_pos (congrArg Part.module hname.symm), if_pos hname]
      rfl
    · rw [if_neg fun heq => hname (Part.module.inj heq).symm, if_neg hname]
      rfl
  have hroles : (st.roles.map fun _ r =>
      r.switched (if Part.module name = .role r.name then some on else none)) = st.roles :=
    Table.map_eq_self fun _ _ _ => rfl
  unfold switched
  rw [hmodules, hroles]

theorem switched_role (h : st.Reachable) {role : Role} (hr : st.roleByName role.name = some role)
    (on : Bool) :
    (st.switched fun part => if .role role.name = part then some on else none) =
      { st with roles := st.roles.modify role.id fun r => { r with enabled := on } } := by
  have hparts := h.partsOrderly
  have hdistinct := h.graphOrderly.roles
  have hrole : st.roles.get? role.id = some role := by
    obtain ⟨k, hk⟩ := (Table.mem_values hdistinct).mp (List.mem_of_find?_eq_some hr)
    rw [hparts.roles hk]
    exact hk
  have hroles : (st.roles.map fun _ r =>
        r.switched (if Part.role role.name = .role r.name then some on else none)) =
      st.roles.modify role.id fun r => { r with enabled := on } := by
    refine Table.map_congr fun k r hr' => ?_
    have hr' := Table.get?_of_mem_entries hdistinct hr'
    by_cases hname : role.name = r.name
    · rw [if_pos (congrArg Part.role hname), if_pos (hparts.role_names hr' hrole hname.symm)]
      rfl
    · have hkey : k ≠ role.id := by
        rintro rfl
        rw [hrole] at hr'
        cases hr'
        exact hname rfl
      rw [if_neg fun heq => hname (Part.role.inj heq), if_neg hkey]
      rfl
  have hmodules : (st.modules.map fun _ m =>
      m.switched (if Part.role role.name = .module m.name then some on else none)) = st.modules :=
    Table.map_eq_self fun _ _ _ => rfl
  unfold switched
  rw [hmodules, hroles]

/-- A switch sets the part of its name, and touches nothing else. -/
theorem afterChange_switch (h : st.Reachable) (s : Switch) :
    st.afterChange s.change =
      st.switched fun part => if s.part = part then some s.on else none := by
  obtain ⟨part, on⟩ := s
  cases part with
  | module name =>
      have hchange : st.change (Switch.change ⟨.module name, on⟩) = st.setModuleEnabled name on :=
        rfl
      rw [switched_module h, afterChange, hchange, setModuleEnabled]
      cases hhas : st.modules.has name with
      | true => rfl
      | false =>
          rw [Table.modify_of_not_has hhas]
          rfl
  | role name =>
      have hchange : st.change (Switch.change ⟨.role name, on⟩) = st.setRoleEnabled name on := rfl
      rw [afterChange, hchange, setRoleEnabled]
      cases hr : st.roleByName name with
      | none =>
          refine (switched_eq_self (fun m _ => rfl) fun r hr' => ?_).symm
          have hne : name ≠ r.name := by
            rintro rfl
            exact List.find?_eq_none.mp hr r hr' (decide_eq_true rfl)
          rw [if_neg fun heq => hne (Part.role.inj heq)]
          rfl
      | some role =>
          have hfound : decide (role.name = name) = true :=
            List.find?_some (p := fun r : Role => decide (r.name = name)) hr
          obtain rfl := of_decide_eq_true hfound
          exact (switched_role h hr on).symm

/-- The store after switches, those of parts that are not there passed over. -/
def afterSwitches (st : MemoryStore) (switches : List Switch) : MemoryStore :=
  (switches.map Switch.change).foldl afterChange st

/-- Of switches in a row the last one of each part counts. -/
theorem afterSwitches_eq (h : st.Reachable) (switches : List Switch) :
    st.afterSwitches switches = st.switched (lastOf switches) := by
  induction switches generalizing st with
  | nil => exact (switched_eq_self (fun _ _ => rfl) fun _ _ => rfl).symm
  | cons s switches ih =>
      have hrest : st.afterSwitches (s :: switches) =
          (st.afterChange s.change).afterSwitches switches := rfl
      rw [hrest, ih (h.change s.change), afterChange_switch h, switched_switched]
      exact congrArg st.switched (funext fun part => (lastOf_cons s switches part).symm)

/-- What each module and each role is switched to last, if it is switched at all, is as it was. -/
structure Restores (st : MemoryStore) (switches : List Switch) : Prop where
  modules : ∀ m ∈ st.modules.values, ∀ on, lastOf switches (.module m.name) = some on →
    on = m.enabled
  roles : ∀ r ∈ st.roles.values, ∀ on, lastOf switches (.role r.name) = some on →
    on = r.enabled

/-- **Switches that leave every part as it was** give back the store. -/
theorem Restores.afterSwitches_eq (h : st.Reachable) {switches : List Switch}
    (hr : st.Restores switches) : st.afterSwitches switches = st := by
  rw [MemoryStore.afterSwitches_eq h]
  refine switched_eq_self (fun m hm => ?_) fun r hr' => ?_
  · cases hlast : lastOf switches (.module m.name) with
    | none => rfl
    | some on =>
        rw [hr.modules m hm on hlast]
        rfl
  · cases hlast : lastOf switches (.role r.name) with
    | none => rfl
    | some on =>
        rw [hr.roles r hr' on hlast]
        rfl

/-- What is switched off was on and is switched on again. -/
theorem restores_off_on {parts : List Part}
    (hmodules : ∀ m ∈ st.modules.values, .module m.name ∈ parts → m.enabled = true)
    (hroles : ∀ r ∈ st.roles.values, .role r.name ∈ parts → r.enabled = true) :
    st.Restores (parts.map (⟨·, false⟩) ++ parts.map (⟨·, true⟩)) := by
  have hlast {part : Part} {on : Bool}
      (h : lastOf (parts.map (⟨·, false⟩) ++ parts.map (⟨·, true⟩)) part = some on) :
      part ∈ parts ∧ on = true := by
    rw [lastOf_append, lastOf_map, lastOf_map] at h
    by_cases hpart : part ∈ parts
    · rw [if_pos hpart] at h
      cases h
      exact ⟨hpart, rfl⟩
    · rw [if_neg hpart, if_neg hpart] at h
      cases h
  constructor
  · intro m hm on h
    obtain ⟨hpart, rfl⟩ := hlast h
    exact (hmodules m hm hpart).symm
  · intro r hr on h
    obtain ⟨hpart, rfl⟩ := hlast h
    exact (hroles r hr hpart).symm

end MemoryStore

end Gatehouse
