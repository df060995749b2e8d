import Gatehouse.Text.Cut
import Mathlib.Data.List.TakeWhile
import Mathlib.Data.String.Basic

/-! # Where a text is cut

Behind a fixed beginning stands the rest of the text (`behind?_append`).  A text is cut at the first
place of a mark, and that is where the mark was put if its first character does not occur before
(`cutFirst?_append`).  It is enough that the mark does not occur before, if its first character does
not occur in it again: then no mark can begin before and end behind (`cutFirst?_of_not_infix`).  The
last place of a character is the one behind which it does not occur (`cutLast?_of_eq`); what stands in
front of a character that was put into a text has no part in where the rest begins
(`cutLast?_append`). -/

namespace Gatehouse.Text

/-! ### The first place of a mark -/

theorem after?_append (front rest : List Char) : after? front (front ++ rest) = some rest := by
  induction front with
  | nil => rfl
  | cons c front ih => rw [List.cons_append, after?, if_pos rfl, ih]

theorem behind?_append (front rest : String) : behind? front (front ++ rest) = some rest := by
  rw [behind?, String.toList_append, after?_append, Option.map_some, String.ofList_toList]

theorem cutChars?_append {c : Char} {front : List Char} (h : c ∉ front) (mark rest : List Char) :
    cutChars? (c :: mark) (front ++ (c :: mark ++ rest)) = some (front, rest) := by
  induction front with
  | nil =>
      have hafter := after?_append (c :: mark) rest
      rw [List.cons_append] at hafter
      rw [List.nil_append, List.cons_append, cutChars?, hafter]
  | cons d front ih =>
      rw [List.mem_cons, not_or] at h
      rw [List.cons_append, cutChars?, after?, if_neg h.1, ih h.2]
      rfl

theorem cutFirst?_append (mark : String) {front : String} {c : Char}
    (hmark : mark.toList.head? = some c) (h : c ∉ front.toList) (rest : String) :
    cutFirst? mark (front ++ (mark ++ rest)) = some (front, rest) := by
  obtain ⟨cs, hcs⟩ := List.head?_eq_some_iff.mp hmark
  rw [cutFirst?, String.toList_append, String.toList_append, hcs, cutChars?_append h,
    Option.map_some]
  simp only [String.ofList_toList]

theorem after?_eq_some {front cs rest : List Char} (h : after? front cs = some rest) :
    cs = front ++ rest := by
  induction front generalizing cs with
  | nil => exact Option.some.inj h
  | cons c front ih =>
      cases cs with
      | nil => cases h
      | cons d cs =>
          rw [after?] at h
          split_ifs at h with hd
          rw [hd, ih h, List.cons_append]

theorem behind?_eq_some {front s rest : String} (h : behind? front s = some rest) :
    s = front ++ rest := by
  obtain ⟨cs, hcs, rfl⟩ := Option.map_eq_some_iff.mp h
  rw [← String.toList_inj, after?_eq_some hcs, String.toList_append, String.toList_ofList]

/-- No mark begins in front of the mark, since its first character does not occur inside it. -/
theorem after?_eq_none {c d : Char} {mark front : List Char} (hmark : c ∉ mark)
    (h : ¬ c :: mark <:+: d :: front) (rest : List Char) :
    after? (c :: mark) (d :: front ++ (c :: mark ++ rest)) = none := by
  rw [Option.eq_none_iff_forall_ne_some]
  intro behind hbehind
  have heq : d :: (front ++ c :: (mark ++ rest)) = c :: (mark ++ behind) := after?_eq_some hbehind
  obtain ⟨rfl, heq⟩ := List.cons.inj heq
  rcases List.append_eq_append_iff.mp heq with ⟨ends, hends, heq⟩ | ⟨more, hmore, _⟩
  · -- The mark ends behind the front: its first character would be one of the rest of it.
    cases ends with
    | nil => exact h ⟨[], [], by simpa using hends⟩
    | cons e ends =>
        obtain ⟨rfl, _⟩ := List.cons.inj heq
        exact hmark (by rw [hends]; simp)
  · exact h ⟨[], more, by rw [hmore]; simp⟩

theorem cutChars?_of_not_infix {c : Char} {mark front : List Char} (hmark : c ∉ mark)
    (h : ¬ c :: mark <:+: front) (rest : List Char) :
    cutChars? (c :: mark) (front ++ (c :: mark ++ rest)) = some (front, rest) := by
  induction front with
  | nil => exact cutChars?_append List.not_mem_nil mark rest
  | cons d front ih =>
      have hfront : ¬ c :: mark <:+: front := fun hin => h (List.infix_cons hin)
      have hnone := after?_eq_none hmark h rest
      rw [List.cons_append] at hnone
      rw [List.cons_append, cutChars?, hnone, ih hfront]
      rfl

theorem cutFirst?_of_not_infix {mark front : String} {c : Char} {cs : List Char}
    (hmark : mark.toList = c :: cs) (hcs : c ∉ cs) (h : ¬ mark.toList <:+: front.toList)
    (rest : String) : cutFirst? mark (front ++ (mark ++ rest)) = some (front, rest) := by
  rw [hmark] at h
  rw [cutFirst?, String.toList_append, String.toList_append, hmark, cutChars?_of_not_infix hcs h,
    Option.map_some]
  simp only [String.ofList_toList]

/-! ### The last place of a character -/

theorem cutLast?_of_eq {mark : Char} {s front back : String}
    (hs : s.toList = front.toList ++ mark :: back.toList) (h : mark ∉ back.toList) :
    cutLast? mark s = some (front, back) := by
  have hback : ∀ c ∈ back.toList.reverse, decide (c ≠ mark) = true := by
    intro c hc
    rw [decide_eq_true_eq]
    rintro rfl
    exact h (List.mem_reverse.mp hc)
  have hmark : decide (mark ≠ mark) = false := decide_eq_false (fun h => h rfl)
  have hreverse : s.toList.reverse = back.toList.reverse ++ mark :: front.toList.reverse := by
    rw [hs, List.reverse_append, List.reverse_cons, List.append_assoc]
    rfl
  unfold cutLast?
  simp only [hreverse, List.dropWhile_append_of_pos hback, List.takeWhile_append_of_pos hback,
    List.dropWhile_cons, List.takeWhile_cons, hmark, Bool.false_eq_true, if_false,
    List.append_nil, List.reverse_reverse, String.ofList_toList]

theorem eq_of_cutLast? {mark : Char} {s front back : String}
    (h : cutLast? mark s = some (front, back)) :
    s.toList = front.toList ++ mark :: back.toList ∧ mark ∉ back.toList := by
  -- Read from the back, the text is its last part, then the mark, then the rest.
  have hsplit := List.takeWhile_append_dropWhile (p := (· ≠ mark)) (l := s.toList.reverse)
  have hfirst := List.head?_dropWhile_not (· ≠ mark) s.toList.reverse
  unfold cutLast? at h
  cases hrest : s.toList.reverse.dropWhile (· ≠ mark) with
  | nil =>
      simp only [hrest] at h
      cases h
  | cons c rest =>
      simp only [hrest] at h
      cases h
      rw [hrest] at hsplit hfirst
      have hmark : c = mark := by simpa using hfirst
      rw [hmark] at hsplit
      simp only [String.toList_ofList]
      constructor
      · calc s.toList = s.toList.reverse.reverse := (List.reverse_reverse _).symm
          _ = (s.toList.reverse.takeWhile (· ≠ mark) ++ mark :: rest).reverse := by rw [hsplit]
          _ = rest.reverse ++ mark :: (s.toList.reverse.takeWhile (· ≠ mark)).reverse := by
            rw [List.reverse_append, List.reverse_cons, List.append_assoc]
            rfl
      · intro hmem
        have hne := List.mem_takeWhile_imp (List.mem_reverse.mp hmem)
        simp at hne

theorem notMem_of_cutLast?_eq_none {mark : Char} {s : String} (h : cutLast? mark s = none) :
    mark ∉ s.toList := by
  unfold cutLast? at h
  cases hrest : s.toList.reverse.dropWhile (· ≠ mark) with
  | nil =>
      intro hmem
      have hne := List.dropWhile_eq_nil_iff.mp hrest mark (List.mem_reverse.mpr hmem)
      simp at hne
  | cons c rest =>
      simp only [hrest] at h
      cases h

/-- What stands behind the last place of a character, which is all of a text without it. -/
def behindLast (mark : Char) (s : String) : String :=
  match cutLast? mark s with
  | none => s
  | some (_, back) => back

/-- The last place of a character is one at which it was put, or lies behind that. -/
theorem cutLast?_append {mark : Char} {s front rest : String}
    (hs : s.toList = front.toList ++ mark :: rest.toList) :
    ∃ more : String, cutLast? mark s = some (front ++ more, behindLast mark rest) := by
  unfold behindLast
  cases hrest : cutLast? mark rest with
  | none =>
      have hlast := cutLast?_of_eq hs (notMem_of_cutLast?_eq_none hrest)
      exact ⟨"", by rw [hlast, String.append_empty]⟩
  | some cut =>
      obtain ⟨inner, back⟩ := cut
      obtain ⟨heq, hback⟩ := eq_of_cutLast? hrest
      refine ⟨String.ofList (mark :: inner.toList), cutLast?_of_eq ?_ hback⟩
      rw [hs, heq, String.toList_append, String.toList_ofList, List.append_assoc, List.cons_append]

end Gatehouse.Text
