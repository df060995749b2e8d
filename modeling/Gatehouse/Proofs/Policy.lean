import Gatehouse.Policy
import Gatehouse.Proofs.Table
import Mathlib.Data.String.Basic

/-! # Texts of requirements and the registry of policies

A requirement is written as one text, its two names around a separator: `:` in the permissions of an
identity, `.` in the names of policies.  A text can be cut at each separator in it, so two
requirements are written alike if and only if they are the same or one is the other with its cut at a
later separator (`joined_eq_iff`), and a requirement is told from all others exactly if none of its
names contains the separator (`plain_iff`).

The registry keeps its policies under their names.  It holds the declared pairs and nothing else
(`Registry.Faithful`) exactly if all of them are told from all others (`Registry.faithful_iff`). -/

namespace Gatehouse

namespace Requirement

variable {c : Char} {r r' : Requirement}

/-- The names of a requirement around a separator. -/
def joined (c : Char) (r : Requirement) : List Char :=
  r.module.toList ++ c :: r.permissionType.toList

/-- The first requirement is the second one with its cut at a later separator: its module goes on
with a part of the other's permission type. -/
def CutLater (c : Char) (r r' : Requirement) : Prop :=
  ∃ part, r.module.toList = r'.module.toList ++ c :: part ∧
    r'.permissionType.toList = part ++ c :: r.permissionType.toList

/-- The separator occurs in none of the names. -/
def Plain (c : Char) (r : Requirement) : Prop :=
  c ∉ r.module.toList ∧ c ∉ r.permissionType.toList

instance : Decidable (r.Plain c) := inferInstanceAs (Decidable (_ ∧ _))

theorem ext_toList (hm : r.module.toList = r'.module.toList)
    (hp : r.permissionType.toList = r'.permissionType.toList) : r = r' := by
  obtain ⟨m, p⟩ := r
  obtain ⟨m', p'⟩ := r'
  rw [String.toList_inj] at hm hp
  exact congrArg₂ mk hm hp

/-! ### Requirements that are written alike -/

theorem CutLater.joined_eq (h : r.CutLater c r') : r.joined c = r'.joined c := by
  obtain ⟨part, hm, hp⟩ := h
  unfold joined
  rw [hm, hp, List.append_assoc, List.cons_append]

/-- **Texts of requirements.**  Two requirements are written alike exactly if they are the same, or
one is the other with its cut at a later separator. -/
theorem joined_eq_iff :
    r.joined c = r'.joined c ↔ r = r' ∨ r.CutLater c r' ∨ r'.CutLater c r := by
  constructor
  · intro h
    rcases List.append_eq_append_iff.mp h with ⟨t, hm, ht⟩ | ⟨t, hm, ht⟩
    -- the module of one is that of the other, or goes on with a separator
    · cases t with
      | nil =>
          rw [List.append_nil] at hm
          exact .inl (ext_toList hm.symm (List.cons.inj ht).2)
      | cons d part =>
          obtain ⟨rfl, hp⟩ := List.cons.inj ht
          exact .inr (.inr ⟨part, hm, hp⟩)
    · cases t with
      | nil =>
          rw [List.append_nil] at hm
          exact .inl (ext_toList hm (List.cons.inj ht).2.symm)
      | cons d part =>
          obtain ⟨rfl, hp⟩ := List.cons.inj ht
          exact .inr (.inl ⟨part, hm, hp⟩)
  · rintro (rfl | h | h)
    · rfl
    · exact h.joined_eq
    · exact h.joined_eq.symm

theorem Plain.not_cutLater (h : r.Plain c) : ¬ r.CutLater c r' := by
  rintro ⟨part, hm, _⟩
  refine h.1 ?_
  rw [hm]
  simp

theorem Plain.not_cutLater_of (h : r.Plain c) : ¬ r'.CutLater c r := by
  rintro ⟨part, _, hp⟩
  refine h.2 ?_
  rw [hp]
  simp

theorem not_cutLater_self : ¬ r.CutLater c r := by
  rintro ⟨part, hm, _⟩
  simpa using congrArg List.length hm

/-- What has the separator in a name can be cut elsewhere. -/
theorem exists_cutLater (h : ¬ r.Plain c) : ∃ r', r.CutLater c r' ∨ r'.CutLater c r := by
  rcases not_and_or.mp h with hc | hc
  · obtain ⟨m, part, hm⟩ := List.append_of_mem (not_not.mp hc)
    let r' : Requirement :=
      ⟨String.ofList m, String.ofList (part ++ c :: r.permissionType.toList)⟩
    exact ⟨r', .inl ⟨part, by simpa [r'] using hm, by simp [r']⟩⟩
  · obtain ⟨part, p, hp⟩ := List.append_of_mem (not_not.mp hc)
    let r' : Requirement := ⟨String.ofList (r.module.toList ++ c :: part), String.ofList p⟩
    exact ⟨r', .inr ⟨part, by simp [r'], by simpa [r'] using hp⟩⟩

/-- **Requirements that are told apart.**  No other requirement is written like this one exactly if
the separator occurs in none of its names. -/
theorem plain_iff : r.Plain c ↔ ∀ r' : Requirement, r'.joined c = r.joined c → r' = r := by
  constructor
  · intro h r' heq
    rcases joined_eq_iff.mp heq with heq | hcut | hcut
    · exact heq
    · exact absurd hcut h.not_cutLater_of
    · exact absurd hcut h.not_cutLater
  · intro h
    by_contra hmixed
    obtain ⟨r', hcut | hcut⟩ := exists_cutLater hmixed
    · rw [h r' hcut.joined_eq.symm] at hcut
      exact not_cutLater_self hcut
    · rw [h r' hcut.joined_eq] at hcut
      exact not_cutLater_self hcut

/-! ### Permissions and names of policies -/

theorem toList_permissionText (m p : String) :
    (permissionText m p).toList = (mk m p).joined ':' := by
  simp [permissionText, joined]

theorem permission_eq_iff : r.permission = r'.permission ↔ r.joined ':' = r'.joined ':' := by
  rw [← String.toList_inj]
  unfold permission
  rw [toList_permissionText, toList_permissionText]

theorem policyName_eq_iff : r.policyName = r'.policyName ↔ r.joined '.' = r'.joined '.' := by
  rw [← String.toList_inj]
  simp [policyName, joined]

end Requirement

namespace Registry

variable {d : Declarations} {r : Requirement}

/-- Modules of different names and types of different names make as many requirements as there are
pairs of them. -/
theorem nodup_requirements (hm : (d.modules.map (·.name)).Nodup)
    (hp : (d.permissionTypes.map (·.name)).Nodup) : (requirements d).Nodup := by
  have hpairs : requirements d =
      ((d.modules.map (·.name)) ×ˢ (d.permissionTypes.map (·.name))).map fun n => ⟨n.1, n.2⟩ := by
    unfold requirements
    simp [SProd.sprod, List.product, List.flatMap_map, List.map_flatMap, Function.comp_def]
  rw [hpairs]
  refine (hm.product hp).map ?_
  rintro ⟨m, p⟩ ⟨m', p'⟩ heq
  cases heq
  rfl

/-- The registry holds the declared pairs and nothing else: one policy for each, which is found under
its name, and none under the name of any other pair. -/
structure Faithful (d : Declarations) : Prop where
  one_each : (ofDeclarations d).policies.values.Perm (requirements d)
  declared : ∀ r ∈ requirements d, (ofDeclarations d).lookup r.policyName = some r
  undeclared : ∀ r ∉ requirements d, (ofDeclarations d).lookup r.policyName = none

theorem ofDeclarations_eq (d : Declarations) :
    ofDeclarations d = ⟨Table.empty.insertAll Requirement.policyName (requirements d)⟩ := rfl

/-- What is found under a name is declared and has that name. -/
theorem lookup_ofDeclarations {name : String} (h : (ofDeclarations d).lookup name = some r) :
    r ∈ requirements d ∧ r.policyName = name := by
  rw [ofDeclarations_eq] at h
  rcases Table.get?_insertAll_eq_some h with h | h
  · cases h
  · exact h

/-- If the registry is faithful, each declared pair is told from all others. -/
theorem Faithful.plain (h : Faithful d) (hr : r ∈ requirements d) : r.Plain '.' := by
  rw [Requirement.plain_iff]
  intro r' heq
  have hname : r'.policyName = r.policyName := Requirement.policyName_eq_iff.mpr heq
  have hfound := h.declared r hr
  by_cases hr' : r' ∈ requirements d
  · have hfound' := h.declared r' hr'
    rw [hname, hfound] at hfound'
    exact (Option.some.inj hfound').symm
  · have hmissing := h.undeclared r' hr'
    rw [hname, hfound] at hmissing
    cases hmissing

/-- **Faithful registries.**  The registry holds the declared pairs and nothing else exactly if the
separator occurs in none of their names. -/
theorem faithful_iff (hm : (d.modules.map (·.name)).Nodup)
    (hp : (d.permissionTypes.map (·.name)).Nodup) :
    Faithful d ↔ ∀ r ∈ requirements d, r.Plain '.' := by
  refine ⟨fun h r hr => h.plain hr, fun hplain => ?_⟩
  have hname : ∀ r ∈ requirements d, ∀ r' : Requirement, r'.policyName = r.policyName → r' = r :=
    fun r hr r' heq =>
      Requirement.plain_iff.mp (hplain r hr) r' (Requirement.policyName_eq_iff.mp heq)
  have hkeys : ((requirements d).map Requirement.policyName).Nodup :=
    (nodup_requirements hm hp).map_on fun r _ r' hr' heq => hname r' hr' r heq
  constructor
  case one_each =>
    rw [ofDeclarations_eq, Table.values_insertAll hkeys fun _ _ => List.not_mem_nil]
    exact .refl _
  case declared =>
    intro r hr
    exact Table.get?_insertAll_of_mem hkeys hr
  case undeclared =>
    intro r hr
    cases hfound : (ofDeclarations d).lookup r.policyName with
    | none => rfl
    | some r' =>
        obtain ⟨hr', heq⟩ := lookup_ofDeclarations hfound
        rw [hname r' hr' r heq.symm] at hr
        exact absurd hr' hr

end Registry

end Gatehouse
