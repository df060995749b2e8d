import Gatehouse.Proofs.Permission
import Gatehouse.Database.Script
import Gatehouse.Store.Relational
import Mathlib.Data.List.Forall2
import Mathlib.Data.List.Induction
import Mathlib.Data.List.Nodup

/-! # Regrouping the rows of a join

The roles of an identity come from the relational store as rows of a join: each row has a role, and
a module and a permission type where there is a grant of that role (`JoinRow`).  The store regroups
them with one look at the last assignment it has made.  `roleAssignments_faithful` says that nothing
is lost, doubled or given to another role on the way, and what the regrouped assignments amount to;
the rows may come in any order, but a role is regrouped once only if its rows stand together
(`Contiguous`), which they do if the rows are sorted by names that tell the roles apart
(`contiguous_of_sorted`). -/

namespace Gatehouse

namespace Relational

open Database

/-- What a row of the join says: a role, a module if there is one, and a permission type if there is
one. -/
structure JoinRow where
  role : Role
  module : Option Module
  permissionType : Option PermissionType
  deriving DecidableEq, Repr

namespace JoinRow

/-- The grant of the row, which has one if it has a module and a permission type. -/
def grant (j : JoinRow) : Option ResolvedGrant := do
  pure ⟨← j.module, ← j.permissionType⟩

/-- The columns of the row say so.  Those of a module or a permission type count only if its id is
not null. -/
structure Shown (j : JoinRow) (r : Row) : Prop where
  id : uuid? r "id" = some j.role.id
  name : text? r "name" = some j.role.name
  description : text? r "description" = some j.role.description
  enabled : bool? r "enabled" = some j.role.enabled
  moduleId : nullableUuid? r "module_id" = some (j.module.map (·.id))
  module : ∀ m, j.module = some m →
    text? r "module_name" = some m.name ∧
    text? r "module_description" = some m.description ∧
    bool? r "module_enabled" = some m.enabled
  permissionTypeId : nullableUuid? r "permission_type_id" = some (j.permissionType.map (·.id))
  permissionType : ∀ p, j.permissionType = some p →
    text? r "permission_type_name" = some p.name ∧
    text? r "permission_type_code" = some p.code ∧
    text? r "permission_type_description" = some p.description

/-- A row that says so. -/
def row (j : JoinRow) : Row :=
  [("id", .uuid j.role.id), ("name", .text j.role.name), ("description", .text j.role.description),
    ("enabled", .bool j.role.enabled),
    ("module_id", .ofOption (fun m : Module => .uuid m.id) j.module),
    ("module_name", .ofOption (fun m : Module => .text m.name) j.module),
    ("module_description", .ofOption (fun m : Module => .text m.description) j.module),
    ("module_enabled", .ofOption (fun m : Module => .bool m.enabled) j.module),
    ("permission_type_id", .ofOption (fun p : PermissionType => .uuid p.id) j.permissionType),
    ("permission_type_name", .ofOption (fun p : PermissionType => .text p.name) j.permissionType),
    ("permission_type_code", .ofOption (fun p : PermissionType => .text p.code) j.permissionType),
    ("permission_type_description",
      .ofOption (fun p : PermissionType => .text p.description) j.permissionType)]

theorem shown_row (j : JoinRow) : j.Shown j.row := by
  obtain ⟨role, m, p⟩ := j
  constructor
  case moduleId => cases m <;> rfl
  case permissionTypeId => cases p <;> rfl
  case module =>
    rintro m rfl
    exact ⟨rfl, rfl, rfl⟩
  case permissionType =>
    rintro p rfl
    exact ⟨rfl, rfl, rfl⟩
  all_goals rfl

variable {j : JoinRow} {r : Row}

theorem Shown.role?_eq (h : j.Shown r) : role? r = some j.role := by
  simp [role?, h.id, h.name, h.description, h.enabled]

theorem Shown.grant?_eq (h : j.Shown r) : grant? r = some j.grant := by
  unfold grant? JoinRow.grant
  rw [h.moduleId, h.permissionTypeId]
  cases hm : j.module with
  | none => rfl
  | some m =>
      cases hp : j.permissionType with
      | none => rfl
      | some p =>
          obtain ⟨hname, hdescription, henabled⟩ := h.module m hm
          obtain ⟨hpname, hcode, hpdescription⟩ := h.permissionType p hp
          simp [hname, hdescription, henabled, hpname, hcode, hpdescription]

end JoinRow

/-! ### One row after another -/

/-- Assignments, the last first, with one more row. -/
def addJoined (done : List RoleAssignment) (j : JoinRow) : List RoleAssignment :=
  match done with
  | a :: rest =>
    if a.role.id = j.role.id then { a with grants := a.grants ++ j.grant.toList } :: rest
    else ⟨j.role, j.grant.toList⟩ :: a :: rest
  | [] => [⟨j.role, j.grant.toList⟩]

theorem addJoined_same {a : RoleAssignment} {j : JoinRow} (h : a.role.id = j.role.id)
    (rest : List RoleAssignment) :
    addJoined (a :: rest) j = { a with grants := a.grants ++ j.grant.toList } :: rest :=
  if_pos h

theorem addJoined_other {a : RoleAssignment} {j : JoinRow} (h : a.role.id ≠ j.role.id)
    (rest : List RoleAssignment) :
    addJoined (a :: rest) j = ⟨j.role, j.grant.toList⟩ :: a :: rest :=
  if_neg h

theorem addRow_of_shown {j : JoinRow} {r : Row} (h : j.Shown r) (done : List RoleAssignment) :
    addRow done r = some (addJoined done j) := by
  unfold addRow
  rw [h.id, h.role?_eq, h.grant?_eq]
  cases done with
  | nil => cases hg : j.grant <;> simp [addJoined, hg]
  | cons a rest =>
      by_cases hid : a.role.id = j.role.id
      · rw [addJoined_same hid]
        cases j.grant <;> simp [hid]
      · rw [addJoined_other hid]
        cases j.grant <;> simp [hid]

/-- Rows that are shown as they should be are all read. -/
theorem foldlM_addRow {js : List JoinRow} {rs : List Row} (h : js.Forall₂ JoinRow.Shown rs)
    (done : List RoleAssignment) : rs.foldlM addRow done = some (js.foldl addJoined done) := by
  induction h generalizing done with
  | nil => rfl
  | cons hj _ ih => rw [List.foldlM_cons, addRow_of_shown hj, Option.bind_eq_bind, Option.bind_some,
      ih, List.foldl_cons]

/-! ### Lists in which equal elements stand together -/

/-- Between two equal elements there are none but these. -/
def Contiguous {α : Type} (l : List α) : Prop :=
  ∀ l₁ a l₂ l₃, l = l₁ ++ a :: (l₂ ++ a :: l₃) → ∀ b ∈ l₂, b = a

theorem Contiguous.of_append {α : Type} {l l' : List α} (h : Contiguous (l ++ l')) :
    Contiguous l := by
  rintro l₁ a l₂ l₃ rfl
  exact h l₁ a l₂ (l₃ ++ l') (by simp)

/-- An element that comes again comes right after itself. -/
theorem Contiguous.getLast?_eq {α : Type} {l : List α} {a : α} (h : Contiguous (l ++ [a]))
    (ha : a ∈ l) : l.getLast? = some a := by
  obtain ⟨l₁, l₂, rfl⟩ := List.append_of_mem ha
  have hbetween := h l₁ a l₂ [] (by simp)
  rw [List.getLast?_append, List.getLast?_cons]
  cases hlast : l₂.getLast? with
  | none => rfl
  | some b => rw [hbetween b (List.mem_of_getLast? hlast)]; rfl

/-- Rows of one role say the same of it. -/
def Agree (js : List JoinRow) : Prop :=
  ∀ j ∈ js, ∀ j' ∈ js, j.role.id = j'.role.id → j.role = j'.role

/-- Rows that are sorted by names that tell the roles apart have each role in one place. -/
theorem contiguous_of_sorted {js : List JoinRow} {le : String → String → Prop}
    (antisymm : ∀ s t, le s t → le t s → s = t) (hagree : Agree js)
    (hnames : ∀ j ∈ js, ∀ j' ∈ js, j.role.name = j'.role.name → j.role.id = j'.role.id)
    (hsorted : (js.map (·.role.name)).Pairwise le) : Contiguous (js.map (·.role.id)) := by
  intro l₁ a l₂ l₃ heq b hb
  obtain ⟨k₁, k, rfl, _, hk⟩ := List.map_eq_append_iff.mp heq
  obtain ⟨j₁, k', rfl, ha₁, hk'⟩ := List.map_eq_cons_iff.mp hk
  obtain ⟨k₂, k'', rfl, rfl, hk''⟩ := List.map_eq_append_iff.mp hk'
  obtain ⟨j₂, k₃, rfl, ha₂, _⟩ := List.map_eq_cons_iff.mp hk''
  obtain ⟨j, hj, rfl⟩ := List.mem_map.mp hb
  have hmem₁ : j₁ ∈ k₁ ++ j₁ :: (k₂ ++ j₂ :: k₃) := by simp
  have hmem₂ : j₂ ∈ k₁ ++ j₁ :: (k₂ ++ j₂ :: k₃) := by simp
  have hmem : j ∈ k₁ ++ j₁ :: (k₂ ++ j₂ :: k₃) := by simp [hj]
  have hname : j₂.role.name = j₁.role.name := by
    rw [hagree j₂ hmem₂ j₁ hmem₁ (ha₂.trans ha₁.symm)]
  rw [List.pairwise_map, List.pairwise_append, List.pairwise_cons, List.pairwise_append] at hsorted
  obtain ⟨_, ⟨hfirst, _, _, hsecond⟩, _⟩ := hsorted
  have hle₁ : le j₁.role.name j.role.name := hfirst j (by simp [hj])
  have hle₂ : le j.role.name j₂.role.name := hsecond j hj j₂ (by simp)
  rw [hname] at hle₂
  rw [← ha₁]
  exact hnames j hmem j₁ hmem₁ (antisymm _ _ hle₂ hle₁)

/-! ### What regrouping keeps -/

/-- The grants of assignments in their order, each with the id of its role. -/
def taggedGrants (as : List RoleAssignment) : List (Uuid × ResolvedGrant) :=
  as.flatMap fun a => a.grants.map (a.role.id, ·)

/-- The grant of a row with the id of its role. -/
def JoinRow.tagged (j : JoinRow) : Option (Uuid × ResolvedGrant) := j.grant.map (j.role.id, ·)

variable {done : List RoleAssignment} {js : List JoinRow}

theorem toList_tagged (j : JoinRow) : j.tagged.toList = j.grant.toList.map (j.role.id, ·) := by
  unfold JoinRow.tagged
  cases j.grant <;> rfl

/-- A row puts its grant at the end. -/
theorem taggedGrants_addJoined (done : List RoleAssignment) (j : JoinRow) :
    taggedGrants (addJoined done j).reverse = taggedGrants done.reverse ++ j.tagged.toList := by
  rw [toList_tagged]
  unfold taggedGrants
  cases done with
  | nil => simp [addJoined]
  | cons a rest =>
      by_cases hid : a.role.id = j.role.id
      · rw [addJoined_same hid]
        simp [hid]
      · rw [addJoined_other hid]
        simp

/-- A row begins an assignment unless the last one is of its role. -/
theorem ids_addJoined (done : List RoleAssignment) (j : JoinRow) :
    (addJoined done j).map (·.role.id) =
      if done.head?.map (·.role.id) = some j.role.id then done.map (·.role.id)
      else j.role.id :: done.map (·.role.id) := by
  cases done with
  | nil => rfl
  | cons a rest =>
      by_cases hid : a.role.id = j.role.id
      · rw [addJoined_same hid]
        simp [hid]
      · rw [addJoined_other hid]
        simp [hid]

/-- The last assignment is of the role of the last row. -/
theorem head?_addJoined (done : List RoleAssignment) (j : JoinRow) :
    (addJoined done j).head?.map (·.role.id) = some j.role.id := by
  cases done with
  | nil => rfl
  | cons a rest =>
      by_cases hid : a.role.id = j.role.id
      · rw [addJoined_same hid]
        exact congrArg some hid
      · rw [addJoined_other hid]
        rfl

/-- A row adds its role, if it agrees with the last assignment where that is of its role. -/
theorem mem_roles_addJoined {j : JoinRow}
    (hagree : ∀ a ∈ done.head?, a.role.id = j.role.id → a.role = j.role) {role : Role} :
    role ∈ (addJoined done j).map (·.role) ↔ role ∈ done.map (·.role) ∨ role = j.role := by
  cases done with
  | nil => simp [addJoined]
  | cons a rest =>
      by_cases hid : a.role.id = j.role.id
      · rw [addJoined_same hid]
        simp only [List.map_cons, List.mem_cons, hagree a rfl hid]
        tauto
      · rw [addJoined_other hid]
        simp only [List.map_cons, List.mem_cons]
        exact or_comm

/-- What holds of the assignments, the last first, that rows have been regrouped into. -/
structure Regrouped (js : List JoinRow) (done : List RoleAssignment) : Prop where
  grants : taggedGrants done.reverse = js.filterMap JoinRow.tagged
  roles : ∀ role, role ∈ done.map (·.role) ↔ role ∈ js.map (·.role)
  last : done.head?.map (·.role.id) = js.getLast?.map (·.role.id)
  once : Contiguous (js.map (·.role.id)) → (done.map (·.role.id)).Nodup

theorem Regrouped.exists_row (h : Regrouped js done) {a : RoleAssignment} (ha : a ∈ done) :
    ∃ j ∈ js, j.role = a.role :=
  List.mem_map.mp ((h.roles _).mp (List.mem_map_of_mem ha))

theorem Regrouped.exists_assignment (h : Regrouped js done) {j : JoinRow} (hj : j ∈ js) :
    ∃ a ∈ done, a.role = j.role :=
  List.mem_map.mp ((h.roles _).mpr (List.mem_map_of_mem hj))

theorem Regrouped.id_mem (h : Regrouped js done) {id : Uuid} (hid : id ∈ done.map (·.role.id)) :
    id ∈ js.map (·.role.id) := by
  obtain ⟨a, ha, rfl⟩ := List.mem_map.mp hid
  obtain ⟨j, hj, heq⟩ := h.exists_row ha
  exact List.mem_map.mpr ⟨j, hj, congrArg Role.id heq⟩

/-- One more row. -/
theorem Regrouped.add (h : Regrouped js done) {j : JoinRow} (hagree : Agree (js ++ [j])) :
    Regrouped (js ++ [j]) (addJoined done j) where
  grants := by
    rw [taggedGrants_addJoined, h.grants, List.filterMap_append]
    cases ht : j.tagged <;> simp [ht]
  roles role := by
    rw [mem_roles_addJoined, h.roles]
    · simp [eq_comm]
    · intro a ha hid
      obtain ⟨j', hj', heq⟩ := h.exists_row (List.mem_of_mem_head? ha)
      rw [← heq] at hid ⊢
      exact hagree j' (List.mem_append_left _ hj') j (by simp) hid
  last := by
    rw [head?_addJoined, List.getLast?_concat]
    rfl
  once := by
    intro hc
    rw [List.map_append] at hc
    have hnodup := h.once hc.of_append
    rw [ids_addJoined]
    by_cases hlast : done.head?.map (·.role.id) = some j.role.id
    · rw [if_pos hlast]
      exact hnodup
    · rw [if_neg hlast]
      refine List.nodup_cons.mpr ⟨fun hmem => hlast ?_, hnodup⟩
      -- The role was there before, so its rows stand together and the last one was of it.
      rw [h.last, ← List.getLast?_map]
      exact hc.getLast?_eq (h.id_mem hmem)

theorem regrouped (hagree : Agree js) : Regrouped js (js.foldl addJoined []) := by
  induction js using List.reverseRecOn with
  | nil => exact ⟨rfl, fun _ => Iff.rfl, rfl, fun _ => List.nodup_nil⟩
  | append_singleton js j ih =>
      rw [List.foldl_append]
      refine (ih ?_).add hagree
      intro j₁ hj₁ j₂ hj₂
      exact hagree j₁ (List.mem_append_left _ hj₁) j₂ (List.mem_append_left _ hj₂)

/-! ### The store call -/

/-- The call regroups the rows of the reply. -/
theorem run_roleAssignments {σ : Type} {h : Handler Database σ} {s s' : σ} {userId : Uuid}
    {reply : Reply} (hreply : h (.execute (Statements.roleAssignments userId)) s = (.ok reply, s'))
    (hrows : js.Forall₂ JoinRow.Shown reply.rows) :
    (call (.roleAssignments userId)).run.run h s =
      (.ok (js.foldl addJoined []).reverse, s') := by
  have hread : assignments? reply.rows = some (js.foldl addJoined []).reverse := by
    rw [assignments?, foldlM_addRow hrows]
    rfl
  obtain ⟨next, hcall, hnext⟩ : ∃ next : Interface.Answer Database _ → _,
      (call (.roleAssignments userId)).run =
          .call (.execute (Statements.roleAssignments userId)) next ∧
        next (.ok reply) = (fromRow (assignments? reply.rows)).run :=
    ⟨_, rfl, rfl⟩
  rw [hcall]
  refine (Program.run_call h _ next s).trans ?_
  rw [hreply]
  change (next (.ok reply)).run h s' = _
  rw [hnext, hread]
  rfl

theorem mem_taggedGrants {as : List RoleAssignment} {id : Uuid} {g : ResolvedGrant} :
    (id, g) ∈ taggedGrants as ↔ ∃ a ∈ as, a.role.id = id ∧ g ∈ a.grants := by
  simp [taggedGrants, and_comm]

theorem JoinRow.tagged_eq_some {j : JoinRow} {id : Uuid} {g : ResolvedGrant} :
    j.tagged = some (id, g) ↔
      j.role.id = id ∧ j.module = some g.module ∧ j.permissionType = some g.permissionType := by
  unfold JoinRow.tagged JoinRow.grant
  cases j.module with
  | none => simp
  | some m =>
      cases j.permissionType with
      | none => simp
      | some p =>
          obtain ⟨m', p'⟩ := g
          simp

/-- The assigned roles are those of the rows, and so are the enabled ones among them. -/
theorem Regrouped.mem_roles_flatten (h : Regrouped js done) {name : String} :
    name ∈ (Access.flatten done.reverse).roles ↔
      ∃ j ∈ js, j.role.enabled = true ∧ j.role.name = name := by
  have hflatten : name ∈ (Access.flatten done.reverse).roles ↔
      ∃ a ∈ done, a.role.enabled = true ∧ a.role.name = name := by
    simp [Access.flatten, Access.mem_ascending, and_assoc]
  rw [hflatten]
  constructor
  · rintro ⟨a, ha, hrole⟩
    obtain ⟨j, hj, heq⟩ := h.exists_row ha
    rw [← heq] at hrole
    exact ⟨j, hj, hrole⟩
  · rintro ⟨j, hj, hrole⟩
    obtain ⟨a, ha, heq⟩ := h.exists_assignment hj
    rw [← heq] at hrole
    exact ⟨a, ha, hrole⟩

/-- The grants of enabled roles on enabled modules are those that rows say. -/
theorem Regrouped.mem_permissions_flatten (h : Regrouped js done) (hagree : Agree js)
    {t : String} :
    t ∈ (Access.flatten done.reverse).permissions ↔
      ∃ j ∈ js, j.role.enabled = true ∧ ∃ m p, j.module = some m ∧ j.permissionType = some p ∧
        m.enabled = true ∧ permissionText m.name p.name = t := by
  have hmem : ∀ id g, (∃ a ∈ done.reverse, a.role.id = id ∧ g ∈ a.grants) ↔
      ∃ j ∈ js, j.role.id = id ∧ j.module = some g.module ∧
        j.permissionType = some g.permissionType := by
    intro id g
    rw [← mem_taggedGrants, h.grants, List.mem_filterMap]
    simp only [JoinRow.tagged_eq_some]
  -- An assignment and a row of one role id are of one role.
  have hsame : ∀ a ∈ done.reverse, ∀ j ∈ js, j.role.id = a.role.id → j.role = a.role := by
    intro a ha j hj hid
    obtain ⟨j', hj', heq⟩ := h.exists_row (List.mem_reverse.mp ha)
    rw [← heq] at hid ⊢
    exact hagree j hj j' hj' hid
  rw [← Access.contains_flatten_iff_mem, Access.contains_flatten]
  constructor
  · rintro ⟨a, ha, henabled, g, hg, hmodule, ht⟩
    obtain ⟨j, hj, hid, hm, hp⟩ := (hmem a.role.id g).mp ⟨a, ha, rfl, hg⟩
    refine ⟨j, hj, ?_, g.module, g.permissionType, hm, hp, hmodule, ht⟩
    rw [hsame a ha j hj hid]
    exact henabled
  · rintro ⟨j, hj, henabled, m, p, hm, hp, hmodule, ht⟩
    obtain ⟨a, ha, hid, hg⟩ := (hmem j.role.id ⟨m, p⟩).mpr ⟨j, hj, rfl, hm, hp⟩
    refine ⟨a, ha, ?_, ⟨m, p⟩, hg, hmodule, ht⟩
    rw [← hsame a ha j hj hid.symm]
    exact henabled

/-- **The join is regrouped faithfully.**  If the rows of the reply are as they should be and rows
of one role agree on it, the call returns assignments whose grants, each with the id of its role,
are in order those of the rows that have a module and a permission type, and whose roles are those
of the rows.  If the rows of each role stand together, no role is assigned twice; they do so if they
are sorted by names that tell the roles apart.  Whatever their order, the access that the
assignments amount to has the names of the enabled roles, and a permission for each row with an
enabled role and an enabled module, each once and in ascending order. -/
theorem roleAssignments_faithful {σ : Type} (h : Handler Database σ) {s s' : σ} {userId : Uuid}
    {reply : Reply} (hreply : h (.execute (Statements.roleAssignments userId)) s = (.ok reply, s'))
    (hrows : js.Forall₂ JoinRow.Shown reply.rows) (hagree : Agree js) :
    ∃ as, (call (.roleAssignments userId)).run.run h s = (.ok as, s') ∧
      taggedGrants as = js.filterMap JoinRow.tagged ∧
      (∀ role, role ∈ as.map (·.role) ↔ role ∈ js.map (·.role)) ∧
      (Contiguous (js.map (·.role.id)) → (as.map (·.role.id)).Nodup) ∧
      (∀ le : String → String → Prop, (∀ s t, le s t → le t s → s = t) →
        (∀ j ∈ js, ∀ j' ∈ js, j.role.name = j'.role.name → j.role.id = j'.role.id) →
        (js.map (·.role.name)).Pairwise le → Contiguous (js.map (·.role.id))) ∧
      (Access.flatten as).roles.Pairwise (· < ·) ∧
      (∀ name, name ∈ (Access.flatten as).roles ↔
        ∃ j ∈ js, j.role.enabled = true ∧ j.role.name = name) ∧
      (Access.flatten as).permissions.Pairwise (· < ·) ∧
      ∀ t, t ∈ (Access.flatten as).permissions ↔
        ∃ j ∈ js, j.role.enabled = true ∧ ∃ m p, j.module = some m ∧ j.permissionType = some p ∧
          m.enabled = true ∧ permissionText m.name p.name = t := by
  have hr := regrouped hagree
  refine ⟨_, run_roleAssignments hreply hrows, hr.grants, ?_, ?_, ?_,
    Access.pairwise_ascending _, fun _ => hr.mem_roles_flatten, Access.pairwise_ascending _,
    fun _ => hr.mem_permissions_flatten hagree⟩
  · intro role
    rw [List.map_reverse, List.mem_reverse]
    exact hr.roles role
  · intro hc
    rw [List.map_reverse, List.nodup_reverse]
    exact hr.once hc
  · exact fun le antisymm hnames hsorted => contiguous_of_sorted antisymm hagree hnames hsorted

end Relational

namespace Sample

/-- An identity is a clerk, who may read orders and has a grant of no type, and a guest, who has no
grant. -/
def joined : List Relational.JoinRow :=
  let clerk : Role := ⟨⟨1⟩, "clerk", "", true⟩
  let orders : Module := ⟨⟨3⟩, "orders", "", true⟩
  [⟨clerk, some orders, some ⟨⟨4⟩, "read", "r", ""⟩⟩, ⟨clerk, some orders, none⟩,
    ⟨⟨⟨2⟩, "guest", "", true⟩, none, none⟩]

/-- A database that answers with these rows. -/
def joinedScript : Database.Script := { replies := [.ok ⟨joined.map (·.row), 3⟩] }

end Sample

namespace Relational

/-- The sample rows are sorted by name, so each role is assigned once; the guest is among them. -/
theorem roleAssignments_faithful_sample : ∃ as s,
    (call (.roleAssignments ⟨5⟩)).run.run Database.Script.handler Sample.joinedScript =
      (.ok as, s) ∧
      (as.map (·.role.id)).Nodup ∧
      "guest" ∈ (Access.flatten as).roles ∧
      "orders:read" ∈ (Access.flatten as).permissions := by
  have hrows : Sample.joined.Forall₂ JoinRow.Shown (Sample.joined.map (·.row)) :=
    List.forall₂_map_right_iff.mpr (List.forall₂_same.mpr fun j _ => j.shown_row)
  have hagree : Agree Sample.joined := by
    unfold Agree
    decide
  obtain ⟨as, hcall, _, _, honce, hsorted, _, hroles, _, hpermissions⟩ :=
    roleAssignments_faithful Database.Script.handler (s := Sample.joinedScript) rfl hrows hagree
  refine ⟨as, _, hcall, honce (hsorted (· ≤ ·) (fun _ _ => le_antisymm) (by decide) (by decide)),
    (hroles _).mpr (by decide), (hpermissions _).mpr ?_⟩
  exact ⟨_, List.mem_cons_self, rfl, _, _, rfl, rfl, rfl, by decide⟩

end Relational

end Gatehouse
