import Gatehouse.Permission
import Mathlib.Data.String.Basic

/-! # What an access holds

The texts of an access are put in their places one by one, so its lists are strictly ascending
(`pairwise_ascending`) and hold what was put in and nothing else (`mem_ascending`).  On a strictly
ascending list the search by halving finds exactly the members (`searchBetween_iff`), so an access
that was flattened from role assignments contains a permission if and only if an enabled role of
theirs has a grant of it on an enabled module (`contains_flatten`). -/

namespace Gatehouse.Access

variable {s t : String}

/-! ### Ascending lists -/

theorem mem_insertText {l : List String} : t ∈ insertText s l ↔ t = s ∨ t ∈ l := by
  induction l with
  | nil => simp [insertText]
  | cons x rest ih =>
      unfold insertText
      split_ifs with hlt heq
      · simp
      · simp [heq]
      · simp only [List.mem_cons, ih]
        exact or_left_comm

theorem pairwise_insertText (s : String) {l : List String} (h : l.Pairwise (· < ·)) :
    (insertText s l).Pairwise (· < ·) := by
  induction l with
  | nil => simp [insertText]
  | cons x rest ih =>
      obtain ⟨hx, hrest⟩ := List.pairwise_cons.mp h
      unfold insertText
      split_ifs with hlt heq
      · refine List.pairwise_cons.mpr ⟨fun y hy => ?_, h⟩
        rcases List.mem_cons.mp hy with rfl | hy
        · exact hlt
        · exact lt_trans hlt (hx y hy)
      · exact h
      · have hxs : x < s := lt_of_le_of_ne (not_lt.mp hlt) (Ne.symm heq)
        refine List.pairwise_cons.mpr ⟨fun y hy => ?_, ih hrest⟩
        rcases mem_insertText.mp hy with rfl | hy
        · exact hxs
        · exact hx y hy

theorem mem_foldl_insertText {ss l : List String} :
    t ∈ ss.foldl (fun acc s => insertText s acc) l ↔ t ∈ l ∨ t ∈ ss := by
  induction ss generalizing l with
  | nil => simp
  | cons s ss ih =>
      rw [List.foldl_cons, ih, mem_insertText, List.mem_cons]
      tauto

theorem pairwise_foldl_insertText (ss : List String) {l : List String} (h : l.Pairwise (· < ·)) :
    (ss.foldl (fun acc s => insertText s acc) l).Pairwise (· < ·) := by
  induction ss generalizing l with
  | nil => exact h
  | cons s ss ih => exact ih (pairwise_insertText s h)

/-- Putting texts in order keeps them all and adds none. -/
theorem mem_ascending {ss : List String} : t ∈ ascending ss ↔ t ∈ ss := by
  simp [ascending, mem_foldl_insertText]

theorem pairwise_ascending (ss : List String) : (ascending ss).Pairwise (· < ·) :=
  pairwise_foldl_insertText ss .nil

/-! ### Searching -/

/-- Two places of an ascending array are ordered as what stands there. -/
theorem lt_of_getElem_lt {xs : Array String} (h : xs.toList.Pairwise (· < ·)) {i j : Nat}
    (hi : i < xs.size) (hj : j < xs.size) (hlt : xs[i] < xs[j]) : i < j := by
  by_contra hle
  rcases Nat.lt_or_eq_of_le (Nat.le_of_not_lt hle) with hji | rfl
  · have hgt := List.pairwise_iff_getElem.mp h j i hj hi hji
    exact lt_asymm hlt hgt
  · exact lt_irrefl _ hlt

/-- **The search by halving** finds what stands between two places of an ascending array. -/
theorem searchBetween_iff {xs : Array String} (h : xs.toList.Pairwise (· < ·)) (s : String)
    (lo : Nat) {hi : Nat} (hhi : hi ≤ xs.size) :
    searchBetween xs s lo hi = true ↔ ∃ i, ∃ hi' : i < xs.size, lo ≤ i ∧ i < hi ∧ xs[i] = s := by
  fun_induction searchBetween xs s lo hi with
  | case1 lo hi hlt mid x hx =>
      have hmid : mid < hi := by omega
      have hsize : mid < xs.size := by omega
      have hfound : xs[mid] = s := by
        rw [← hx]
        simp [x, hsize]
      simp only [true_iff]
      exact ⟨mid, hsize, by omega, hmid, hfound⟩
  | case2 lo hi hlt mid x hx hless ih =>
      have hmid : mid < hi := by omega
      have hsize : mid < xs.size := by omega
      have hget : x = xs[mid] := by simp [x, hsize]
      rw [ih hhi]
      constructor
      · rintro ⟨i, hi', hlo, hup, heq⟩
        exact ⟨i, hi', by omega, hup, heq⟩
      · -- What stands at the middle is less than the text, which so stands behind it.
        rintro ⟨i, hi', hlo, hup, rfl⟩
        rw [hget] at hless
        have hbehind := lt_of_getElem_lt h hsize hi' hless
        exact ⟨i, hi', hbehind, hup, rfl⟩
  | case3 lo hi hlt mid x hx hless ih =>
      have hmid : mid < hi := by omega
      have hsize : mid < xs.size := by omega
      have hget : x = xs[mid] := by simp [x, hsize]
      rw [ih (by omega)]
      constructor
      · rintro ⟨i, hi', hlo, hup, heq⟩
        exact ⟨i, hi', hlo, by omega, heq⟩
      · rintro ⟨i, hi', hlo, hup, rfl⟩
        rw [hget] at hx hless
        have hgreater : xs[i] < xs[mid] := lt_of_le_of_ne (not_lt.mp hless) (Ne.symm hx)
        have hbefore := lt_of_getElem_lt h hi' hsize hgreater
        exact ⟨i, hi', hlo, hbefore, rfl⟩
  | case4 lo hi hlt =>
      constructor
      · intro hfalse
        cases hfalse
      · rintro ⟨i, hi', hlo, hup, _⟩
        omega

/-- The search in the permissions of an access whose permissions ascend finds its members. -/
theorem contains_iff_mem {a : Access} (h : a.permissions.Pairwise (· < ·)) :
    a.contains t = true ↔ t ∈ a.permissions := by
  have hascends : a.permissions.toArray.toList.Pairwise (· < ·) := h
  unfold contains
  rw [searchBetween_iff hascends t 0 (Nat.le_refl _), List.mem_iff_getElem]
  constructor
  · rintro ⟨i, hi, _, _, heq⟩
    exact ⟨i, hi, heq⟩
  · rintro ⟨i, hi, heq⟩
    exact ⟨i, hi, Nat.zero_le i, hi, heq⟩

/-! ### Flattened assignments -/

/-- The roles of an access depend on the assigned roles, not on their grants. -/
theorem roles_flatten_congr {as bs : List RoleAssignment}
    (h : as.map (·.role) = bs.map (·.role)) : (flatten as).roles = (flatten bs).roles := by
  have hroles : ∀ l : List RoleAssignment,
      (flatten l).roles = ascending (((l.map (·.role)).filter (·.enabled)).map (·.name)) := by
    intro l
    rw [List.filter_map, List.map_map]
    rfl
  rw [hroles, hroles, h]

theorem mem_grantTexts {a : RoleAssignment} :
    t ∈ grantTexts a ↔ ∃ g ∈ a.grants, g.module.enabled = true ∧
      permissionText g.module.name g.permissionType.name = t := by
  simp [grantTexts, and_assoc]

theorem contains_flatten_iff_mem {assignments : List RoleAssignment} :
    (flatten assignments).contains t = true ↔ t ∈ (flatten assignments).permissions :=
  contains_iff_mem (pairwise_ascending _)

/-- **What a flattened access contains.**  A permission is contained if and only if an enabled role
has a grant of it on an enabled module. -/
theorem contains_flatten {assignments : List RoleAssignment} :
    (flatten assignments).contains t = true ↔
      ∃ a ∈ assignments, a.role.enabled = true ∧ ∃ g ∈ a.grants, g.module.enabled = true ∧
        permissionText g.module.name g.permissionType.name = t := by
  rw [contains_flatten_iff_mem]
  simp only [flatten, mem_ascending, List.mem_flatMap, List.mem_filter, mem_grantTexts, and_assoc]

end Gatehouse.Access
