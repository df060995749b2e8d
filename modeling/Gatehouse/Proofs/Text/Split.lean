import Mathlib.Data.String.Basic

/-! # Texts split at a character

A text is searched for a mark by positions in its bytes, and the position behind some characters is
the length of their bytes (`splitOnAux_of_valid`).  So a text is split where the list of its
characters is (`splitOn_eq_map`), and its parts are those without the mark in them that give the text
when they are put together again (`splitOn_eq_iff`). -/

namespace Gatehouse.Text

open String

/-! ### Positions -/

theorem get_mark (mark : Char) : Pos.Raw.get (ofList [mark]) 0 = mark :=
  get_of_valid [] [mark]

theorem next_mark (mark : Char) : Pos.Raw.next (ofList [mark]) 0 = ⟨mark.utf8Size⟩ := by
  have h := next_of_valid [] mark []
  rw [utf8Len_nil, Nat.zero_add] at h
  exact h

theorem atEnd_mark (mark : Char) : Pos.Raw.atEnd (ofList [mark]) ⟨mark.utf8Size⟩ = true := by
  have h := (atEnd_of_valid [mark] []).mpr rfl
  rw [utf8Len_cons, utf8Len_nil, Nat.zero_add] at h
  exact h

/-- The search for the mark, at a place where the characters `l` are done with and the characters
`m` have been read since the last mark. -/
theorem splitOnAux_of_valid (mark : Char) (l m r : List Char) (acc : List String) :
    splitOnAux (ofList (l ++ m ++ r)) (ofList [mark]) ⟨utf8Len l⟩ ⟨utf8Len l + utf8Len m⟩ 0 acc =
      acc.reverse ++ (List.splitOnPPrepend (· == mark) r m.reverse).map ofList := by
  induction r generalizing l m acc with
  | nil =>
      have hend := (atEnd_of_valid (l ++ m) []).mpr rfl
      rw [utf8Len_append] at hend
      rw [String.splitOnAux, if_pos hend, extract_of_valid l m []]
      simp
  | cons c r ih =>
      have hend : ¬ (Pos.Raw.atEnd (ofList (l ++ m ++ c :: r)) ⟨utf8Len l + utf8Len m⟩ = true) := by
        rw [← utf8Len_append, atEnd_of_valid]
        simp
      have hget := get_of_valid (l ++ m) (c :: r)
      have hnext := next_of_valid (l ++ m) c r
      rw [utf8Len_append] at hget hnext
      rw [String.splitOnAux, if_neg hend, hget, get_mark, hnext, next_mark, List.headD_cons,
        List.splitOnPPrepend_cons_eq_if]
      by_cases hc : (c == mark) = true
      · have hback : (⟨utf8Len l + utf8Len m + c.utf8Size⟩ : Pos.Raw).unoffsetBy ⟨mark.utf8Size⟩ =
            ⟨utf8Len l + utf8Len m⟩ := by
          rw [beq_iff_eq.mp hc, Pos.Raw.unoffsetBy, Nat.add_sub_cancel]
        have hread : l ++ m ++ [c] ++ [] ++ r = l ++ m ++ c :: r := by simp
        have hrest := ih (l ++ m ++ [c]) [] (ofList m :: acc)
        rw [hread, utf8Len_append, utf8Len_append, utf8Len_cons, utf8Len_nil, Nat.zero_add,
          Nat.add_zero] at hrest
        simp only [hc, if_true, atEnd_mark, hback, extract_of_valid l m (c :: r), hrest,
          List.splitOnP_eq_splitOnPPrepend]
        simp
      · have hread : l ++ (m ++ [c]) ++ r = l ++ m ++ c :: r := by simp
        have hrest := ih l (m ++ [c]) acc
        rw [hread, utf8Len_append, utf8Len_cons, utf8Len_nil, Nat.zero_add, ← Nat.add_assoc] at hrest
        have hplace : (⟨utf8Len l + utf8Len m⟩ : Pos.Raw).unoffsetBy 0 =
            ⟨utf8Len l + utf8Len m⟩ := rfl
        simp only [hc, if_false, hplace, hnext, hrest, Bool.false_eq_true]
        simp

/-- A text is split as the list of its characters is. -/
theorem splitOn_eq_map (mark : Char) (s : String) :
    s.splitOn (ofList [mark]) = (s.toList.splitOn mark).map ofList := by
  have hmark : (ofList [mark] == "") = false := by
    rw [beq_eq_false_iff_ne]
    intro h
    have hlist := congrArg String.toList h
    simp at hlist
  have hsearch := splitOnAux_of_valid mark [] [] s.toList []
  rw [List.nil_append, List.nil_append, utf8Len_nil, String.ofList_toList] at hsearch
  unfold String.splitOn
  rw [hmark, if_neg Bool.false_ne_true, List.splitOn, List.splitOnP_eq_splitOnPPrepend]
  exact hsearch

/-! ### Parts -/

theorem notMem_of_mem_splitOn {mark : Char} :
    ∀ {cs part : List Char}, part ∈ cs.splitOn mark → mark ∉ part
  | [], part, h => by
      rw [List.splitOn_nil, List.mem_singleton] at h
      simp [h]
  | c :: cs, part, h => by
      rw [List.splitOn_cons_eq_if_modifyHead] at h
      by_cases hc : (c == mark) = true
      · rw [if_pos hc] at h
        rcases List.mem_cons.mp h with rfl | h
        · simp
        · exact notMem_of_mem_splitOn h
      · rw [if_neg hc] at h
        cases hsplit : cs.splitOn mark with
        | nil => exact absurd hsplit (List.splitOn_ne_nil mark cs)
        | cons first rest =>
            have hall : ∀ part' ∈ first :: rest, mark ∉ part' := by
              intro part' hpart'
              rw [← hsplit] at hpart'
              exact notMem_of_mem_splitOn hpart'
            rw [hsplit, List.modifyHead_cons] at h
            rcases List.mem_cons.mp h with rfl | h
            · have hne : mark ≠ c := fun heq => hc (beq_iff_eq.mpr heq.symm)
              simp [hne, hall first]
            · exact hall part (.tail _ h)

/-- A text is split into some parts if and only if it consists of them, with the mark between them,
and none of them contains the mark. -/
theorem splitOn_eq_iff {mark : Char} {s : String} {parts : List String} (hparts : parts ≠ []) :
    s.splitOn (ofList [mark]) = parts ↔
      s = (ofList [mark]).intercalate parts ∧ ∀ part ∈ parts, mark ∉ part.toList := by
  have hjoin : ((ofList [mark]).intercalate parts).toList =
      [mark].intercalate (parts.map String.toList) := by
    rw [toList_intercalate, toList_ofList]
  rw [splitOn_eq_map]
  constructor
  · intro h
    have hlists : parts.map String.toList = s.toList.splitOn mark := by
      rw [← h, List.map_map]
      exact (List.map_congr_left fun cs _ => toList_ofList).trans (List.map_id _)
    constructor
    · apply String.toList_inj.mp
      rw [hjoin, hlists, List.intercalate_splitOn]
    · intro part hpart
      have hmem := List.mem_map_of_mem (f := String.toList) hpart
      rw [hlists] at hmem
      exact notMem_of_mem_splitOn hmem
  · rintro ⟨rfl, hfree⟩
    rw [hjoin, List.splitOn_intercalate mark (by simpa using hfree) (by simpa using hparts),
      List.map_map]
    exact (List.map_congr_left fun part _ => ofList_toList).trans (List.map_id _)

end Gatehouse.Text
