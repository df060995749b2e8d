import Gatehouse.Proofs.Store.Reachable
import Mathlib.Data.List.Perm.Basic

/-! # The graph stays consistent

Accounts are told apart by their addresses and roles by their names, a grant is made once, and the
lists of roles speak of accounts and roles that are stored (`MemoryStore.Consistent`).  What a change
of the graph asks of the store before it is carried out is just what keeps this so (`Made`,
`Made.consistent`), hence it holds of every store that can come about.  Searches go through records
that lie in no particular order; that addresses differ makes the answer the same in every order, and
an account is found by the address under which it was put in for as long as no other takes its
place (`Reachable.consistent`). -/

namespace Gatehouse

/-- Whether the account under an id is enabled after a change, from whether it was before. -/
def GraphChange.enables (id : Uuid) (enabled : Bool) : GraphChange → Bool
  | .setIdentityEnabled userId on => if userId = id then on else enabled
  | _ => enabled

namespace MemoryStore

variable {st st' : MemoryStore} {c : GraphChange}

/-! ### Consistency -/

/-- The roles of an account: the account and the roles are stored, and each role stands once. -/
structure Holding (st : MemoryStore) (userId : Uuid) (held : List Uuid) : Prop where
  user : st.identities.has userId = true
  nodup : held.Nodup
  roles : ∀ roleId ∈ held, st.roles.has roleId = true

/-- The records of the graph fit together. -/
structure Consistent (st : MemoryStore) : Prop where
  emails : (st.identities.values.map Identity.email).Nodup
  role_names : (st.roles.values.map Role.name).Nodup
  grants : (st.grants.map Grant.triple).Nodup
  holdings : ∀ e ∈ st.userRoles.entries, st.Holding e.1 e.2
  granted : ∀ g ∈ st.grants, st.roles.has g.roleId = true

theorem consistent_empty : empty.Consistent :=
  ⟨List.nodup_nil, List.nodup_nil, List.nodup_nil, nofun, nofun⟩

/-- A list of roles goes on speaking of what is stored if accounts and roles only come to it. -/
theorem Holding.mono {userId : Uuid} {held : List Uuid} (h : st.Holding userId held)
    (husers : ∀ id, st.identities.has id = true → st'.identities.has id = true)
    (hroles : ∀ id, st.roles.has id = true → st'.roles.has id = true) :
    st'.Holding userId held :=
  ⟨husers userId h.user, h.nodup, fun roleId hrole => hroles roleId (h.roles roleId hrole)⟩

/-- Modules, permission types and sessions are of no account here. -/
theorem Consistent.of_eq (h : st.Consistent) (hidentities : st'.identities = st.identities)
    (hroles : st'.roles = st.roles) (huserRoles : st'.userRoles = st.userRoles)
    (hgrants : st'.grants = st.grants) : st'.Consistent := by
  refine ⟨?_, ?_, ?_, fun e he => ?_, fun g hg => ?_⟩
  · rw [hidentities]
    exact h.emails
  · rw [hroles]
    exact h.role_names
  · rw [hgrants]
    exact h.grants
  · rw [huserRoles] at he
    refine (h.holdings e he).mono (fun id huser => ?_) fun id hrole => ?_
    · rw [hidentities]
      exact huser
    · rw [hroles]
      exact hrole
  · rw [hgrants] at hg
    rw [hroles]
    exact h.granted g hg

/-- What an account holds after the assignment of a role. -/
theorem Consistent.assign (h : st.Consistent) {userId roleId : Uuid}
    (huser : st.identities.has userId = true) (hrole : st.roles.has roleId = true) :
    st.Holding userId
      (if ((st.userRoles.get? userId).getD []).contains roleId then
        (st.userRoles.get? userId).getD []
      else (st.userRoles.get? userId).getD [] ++ [roleId]) := by
  have hbefore : st.Holding userId ((st.userRoles.get? userId).getD []) := by
    cases hheld : st.userRoles.get? userId with
    | none => exact ⟨huser, List.nodup_nil, nofun⟩
    | some held => exact h.holdings (userId, held) (Table.mem_entries_of_get? hheld)
  split_ifs with hcontains
  · exact hbefore
  · rw [List.contains_iff_mem] at hcontains
    refine ⟨huser, ?_, fun id hid => ?_⟩
    · exact List.concat_eq_append ▸ hbefore.nodup.concat hcontains
    rcases List.mem_append.mp hid with hid | hid
    · exact hbefore.roles id hid
    · rw [List.mem_singleton.mp hid]
      exact hrole

/-- **A change keeps the graph consistent**: each asks for what it would otherwise break. -/
theorem Made.consistent (hm : st.Made c st') (h : st.Consistent) : st'.Consistent := by
  cases hm with
  | insertIdentity free =>
      refine ⟨Table.nodup_map_values_insert h.emails free, h.role_names, h.grants, ?_, h.granted⟩
      exact fun e he => (h.holdings e he).mono (fun _ => Table.has_insert_of_has) fun _ => id
  | insertRole free =>
      refine ⟨h.emails, Table.nodup_map_values_insert h.role_names free, h.grants, ?_, ?_⟩
      · exact fun e he => (h.holdings e he).mono (fun _ => id) fun _ => Table.has_insert_of_has
      · exact fun g hg => Table.has_insert_of_has (h.granted g hg)
  | insertModule | insertPermissionType | setModuleEnabled => exact h.of_eq rfl rfl rfl rfl
  | assignRole user role before =>
      subst before
      refine ⟨h.emails, h.role_names, h.grants, fun e he => ?_, h.granted⟩
      rcases Table.mem_entries_insert he with rfl | he
      · exact (h.assign user role).mono (fun _ => id) fun _ => id
      · exact (h.holdings e he).mono (fun _ => id) fun _ => id
  | grant role _ _ free =>
      refine ⟨h.emails, h.role_names, ?_, fun e he => ?_, fun g hg => ?_⟩
      · rw [List.map_append, List.map_singleton, ← List.concat_eq_append]
        refine h.grants.concat fun hmem => ?_
        obtain ⟨other, hother, heq⟩ := List.mem_map.mp hmem
        exact free other hother heq
      · exact (h.holdings e he).mono (fun _ => id) fun _ => id
      · rcases List.mem_append.mp hg with hg | hg
        · exact h.granted g hg
        · rw [List.mem_singleton.mp hg]
          exact role
  | @setRoleEnabled role enabled =>
      refine ⟨h.emails, ?_, h.grants, fun e he => ?_, fun g hg => ?_⟩
      · have hnames := Table.map_values_modify (t := st.roles) (f := Role.name) role.id
          (g := fun r => { r with enabled }) fun _ => rfl
        exact hnames ▸ h.role_names
      · exact (h.holdings e he).mono (fun _ => id) fun _ hrole => (Table.has_map _).trans hrole
      · exact (Table.has_map _).trans (h.granted g hg)
  | @setIdentityEnabled userId enabled =>
      refine ⟨?_, h.role_names, h.grants, fun e he => ?_, h.granted⟩
      · have hemails := Table.map_values_modify (t := st.identities) (f := Identity.email) userId
          (g := fun i => { i with enabled }) fun _ => rfl
        exact hemails ▸ h.emails
      · exact (h.holdings e he).mono (fun _ huser => (Table.has_map _).trans huser) fun _ => id

theorem Reachable.consistent (h : st.Reachable) : st.Consistent :=
  h.keeps consistent_empty (fun h hm => hm.consistent h) fun _ h => h.of_eq rfl rfl rfl rfl

/-! ### Searching by an address -/

/-- The account under the id is not replaced: no other is put in under it. -/
def Spares (id : Uuid) : MemoryStore → List GraphChange → Prop
  | _, [] => True
  | st, c :: cs =>
    (∀ identity st', c = .insertIdentity identity → identity.id = id → st.change c ≠ .ok st') ∧
      Spares id (st.afterChange c) cs

/-- An account that is not replaced stays as it is, but for being switched on and off. -/
theorem Made.get?_identity (hm : st.Made c st') {id : Uuid} {identity : Identity}
    (hstored : st.identities.get? id = some identity)
    (hspared : ∀ other, c = .insertIdentity other → other.id ≠ id) :
    st'.identities.get? id = some { identity with enabled := c.enables id identity.enabled } := by
  cases hm with
  | insertIdentity =>
      rw [Table.get?_insert, if_neg (hspared _ rfl)]
      exact hstored
  | @setIdentityEnabled userId enabled =>
      rw [Table.get?_modify, GraphChange.enables]
      by_cases hid : id = userId
      · subst hid
        rw [if_pos rfl, if_pos rfl, hstored]
        rfl
      · rw [if_neg hid, if_neg (Ne.symm hid)]
        exact hstored
  | insertRole | insertModule | insertPermissionType | assignRole | grant | setModuleEnabled
  | setRoleEnabled => exact hstored

/-- A switch of the account of an id that is stored is never refused. -/
theorem enables_of_error {failure : Failure} {id : Uuid} {identity : Identity}
    (hstored : st.identities.get? id = some identity) (hc : st.change c = .error failure)
    (enabled : Bool) : c.enables id enabled = enabled := by
  cases c with
  | setIdentityEnabled userId on =>
      refine if_neg ?_
      rintro rfl
      rw [change, setIdentityEnabled, Table.has_of_get? hstored] at hc
      cases hc
  | _ => rfl

/-- After changes that do not replace it an account lies where it was put. -/
theorem get?_identity_of_spares {id : Uuid} {cs : List GraphChange} {identity : Identity}
    (hspared : st.Spares id cs) (hstored : st.identities.get? id = some identity) :
    (cs.foldl afterChange st).identities.get? id =
      some { identity with enabled := cs.foldl (GraphChange.enables id) identity.enabled } := by
  induction cs generalizing st identity with
  | nil => exact hstored
  | cons c cs ih =>
      obtain ⟨hfirst, hrest⟩ := hspared
      have hnext : (st.afterChange c).identities.get? id =
          some { identity with enabled := c.enables id identity.enabled } := by
        unfold afterChange
        cases hc : st.change c with
        | error failure =>
            rw [enables_of_error hstored hc]
            exact hstored
        | ok st' =>
            apply (made_of_change hc).get?_identity hstored
            intro other hother hid
            exact hfirst other st' hother hid hc
      exact ih hrest hnext

/-- A search by an address gives the same account in every order of the records. -/
theorem Consistent.find?_email (h : st.Consistent) {order : List Identity}
    (hperm : order.Perm st.identities.values) (email : String) :
    order.find? (·.email = email) = st.findByEmail email := by
  refine Table.find?_eq_of_perm hperm fun a ha b hb hae hbe => ?_
  rw [decide_eq_true_eq] at hae hbe
  exact List.inj_on_of_nodup_map h.emails ha hb (hae.trans hbe.symm)

/-- The account that a search by an address gives is the one that has it. -/
theorem Consistent.findByEmail_eq_some_iff (h : st.Consistent) {email : String}
    {identity : Identity} :
    st.findByEmail email = some identity ↔
      identity ∈ st.identities.values ∧ identity.email = email := by
  have hhas {found : Identity} (hfound : st.findByEmail email = some found) :
      found ∈ st.identities.values ∧ found.email = email :=
    ⟨List.mem_of_find?_eq_some hfound,
      of_decide_eq_true (List.find?_some (p := fun i : Identity => decide (i.email = email)) hfound)⟩
  refine ⟨hhas, ?_⟩
  rintro ⟨hmem, hemail⟩
  cases hfound : st.findByEmail email with
  | none => exact absurd (decide_eq_true hemail) (List.find?_eq_none.mp hfound identity hmem)
  | some found =>
      obtain ⟨hfound, hfoundEmail⟩ := hhas hfound
      rw [List.inj_on_of_nodup_map h.emails hfound hmem (hfoundEmail.trans hemail.symm)]

/-- A search by an address, in whatever order it goes through the records, gives the account for
the texts that have its address as their normal form, and for no others. -/
def FoundByAddress (st : MemoryStore) (identity : Identity) : Prop :=
  ∀ (order : List Identity) (email : String), order.Perm st.identities.values →
    (order.find? (·.email = Email.normalize email) = some identity ↔
      Email.normalize email = identity.email)

theorem Consistent.foundByAddress (h : st.Consistent) {identity : Identity}
    (hmem : identity ∈ st.identities.values) : st.FoundByAddress identity := by
  intro order email hperm
  rw [h.find?_email hperm, h.findByEmail_eq_some_iff]
  exact ⟨fun hfound => hfound.2.symm, fun heq => ⟨hmem, heq.symm⟩⟩

/-- **The graph stays consistent.**  In a store that can come about the records fit together, a
change that is refused leaves the store, and searches by an address do not depend on the order of
the records.  An account that is put in, and that later changes do not replace, is what a search
gives for its address in whatever spelling, and for no other. -/
theorem Reachable.graph_consistent (h : st.Reachable) :
    st.Consistent ∧ (∀ c failure, st.change c = .error failure → st.afterChange c = st) ∧
      (∀ (order : List Identity) email, order.Perm st.identities.values →
        order.find? (·.email = email) = st.findByEmail email) ∧
      ∀ identity st' cs, st.change (.insertIdentity identity) = .ok st' →
        st'.Spares identity.id cs →
        (cs.foldl afterChange st').FoundByAddress
          { identity with
            email := Email.normalize identity.email
            enabled := cs.foldl (GraphChange.enables identity.id) identity.enabled } := by
  refine ⟨h.consistent, ?_, fun order email hperm => h.consistent.find?_email hperm email, ?_⟩
  · intro c failure hc
    rw [afterChange, hc]
  · intro identity st' cs hinsert hspared
    have hafter : st.afterChange (.insertIdentity identity) = st' := by rw [afterChange, hinsert]
    have hlater : (cs.foldl afterChange st').Reachable :=
      hafter ▸ (h.change (.insertIdentity identity)).changes cs
    have hput : st'.identities.get? identity.id =
        some { identity with email := Email.normalize identity.email } := by
      cases made_of_change hinsert
      rw [Table.get?_insert, if_pos rfl]
    have hstored := get?_identity_of_spares hspared hput
    exact hlater.consistent.foundByAddress
      ((Table.mem_values hlater.distinct_identities).mpr ⟨_, hstored⟩)

end MemoryStore

namespace Sample

/-- An account whose address is written with blanks and capitals. -/
def grace : Identity := ⟨⟨1⟩, "Grace", " Grace@Example.org\t", "", true⟩

/-- A role, which the account is given twice over, an attempt to take its address, and the account
switched off. -/
def laterChanges : List GraphChange :=
  [.insertRole ⟨⟨2⟩, "Staff", "", true⟩, .assignRole ⟨1⟩ ⟨2⟩, .assignRole ⟨1⟩ ⟨2⟩,
    .insertIdentity ⟨⟨3⟩, "Eve", "GRACE@example.org", "", true⟩, .setIdentityEnabled ⟨1⟩ false]

theorem spares_laterChanges (st : MemoryStore) : st.Spares grace.id laterChanges := by
  refine ⟨nofun, nofun, nofun, ?_, nofun, trivial⟩
  rintro _ _ ⟨⟩ hid
  exact absurd hid (by decide)

end Sample

namespace MemoryStore

/-- The account is found by its address, switched off, after the changes. -/
theorem graph_consistent_laterChanges :
    ∃ st', empty.change (.insertIdentity Sample.grace) = .ok st' ∧
      st'.Spares Sample.grace.id Sample.laterChanges ∧
      (Sample.laterChanges.foldl afterChange st').FoundByAddress
        { Sample.grace with email := "grace@example.org", enabled := false } := by
  obtain ⟨_, _, _, hfound⟩ := Reachable.empty.graph_consistent
  have hspared := Sample.spares_laterChanges
  exact ⟨_, rfl, hspared _, hfound Sample.grace _ Sample.laterChanges rfl (hspared _)⟩

end MemoryStore

end Gatehouse
