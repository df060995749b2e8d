import Gatehouse.Text.Blank
import Mathlib.Data.List.TakeWhile

/-! # Blanks around a text

A text is *padded* if it is a core with blanks around it (`Text.Padded`).  To trim a padded text is
to trim its core (`Padded.trim_eq`), and every text is its trimmed form with padding
(`padded_trim`).  Two values are alike if they are paddings of one core (`Text.Alike`); a missing
value counts as an empty one.  What is left of a text when it is trimmed
has no blank at either end (`Text.Tidy`), and whatever is searched for without blanks is found in the
one as in the other (`Padded.infix_iff`). -/

namespace Gatehouse.Text

/-- The text is the core with blanks around it. -/
def Padded (core s : String) : Prop :=
  ∃ before after : List Char, (∀ c ∈ before, isBlank c = true) ∧ (∀ c ∈ after, isBlank c = true) ∧
    s.toList = before ++ core.toList ++ after

/-- The values are the same but for padding; a missing one counts as empty. -/
def Alike (s t : Option String) : Prop := ∃ core, Padded core (s.getD "") ∧ Padded core (t.getD "")

theorem Padded.refl (s : String) : Padded s s :=
  ⟨[], [], List.forall_mem_nil _, List.forall_mem_nil _, by simp⟩

theorem Alike.refl (s : Option String) : Alike s s := ⟨s.getD "", .refl _, .refl _⟩

theorem Alike.symm {s t : Option String} (h : Alike s t) : Alike t s :=
  let ⟨core, hs, ht⟩ := h
  ⟨core, ht, hs⟩

/-! ### Trimming what is padded -/

variable {cs before after : List Char}

theorem trimStart_append (h : ∀ c ∈ before, isBlank c = true) :
    trimStart (before ++ cs) = trimStart cs := by
  unfold trimStart
  exact List.dropWhile_append_of_pos h

theorem trimEnd_append (h : ∀ c ∈ after, isBlank c = true) :
    trimEnd (cs ++ after) = trimEnd cs := by
  unfold trimEnd
  rw [List.reverse_append, List.dropWhile_append_of_pos]
  intro c hc
  exact h c (List.mem_reverse.mp hc)

/-- Blanks at the end go with what is before them, or are all that is left. -/
theorem trimStart_append_blank (cs : List Char) (h : ∀ c ∈ after, isBlank c = true) :
    trimStart (cs ++ after) = trimStart cs ++ after ∨
      trimStart (cs ++ after) = [] ∧ trimStart cs = [] := by
  have hafter : after.dropWhile isBlank = [] := List.dropWhile_eq_nil_iff.mpr h
  unfold trimStart
  rw [List.dropWhile_append, hafter]
  cases hcs : cs.dropWhile isBlank with
  | nil => exact .inr ⟨rfl, rfl⟩
  | cons c rest => exact .inl rfl

theorem Padded.trim_eq {core s : String} (h : Padded core s) : trim s = trim core := by
  obtain ⟨before, after, hbefore, hafter, hs⟩ := h
  unfold trim trimChars
  rw [hs, List.append_assoc, trimStart_append hbefore]
  rcases trimStart_append_blank core.toList hafter with hcore | ⟨hpadded, hcore⟩
  · rw [hcore, trimEnd_append hafter]
  · rw [hpadded, hcore]

/-! ### What trimming leaves -/

theorem trimEnd_append_blank (cs : List Char) :
    ∃ after, (∀ c ∈ after, isBlank c = true) ∧ cs = trimEnd cs ++ after := by
  refine ⟨(cs.reverse.takeWhile isBlank).reverse, fun c hc => ?_, ?_⟩
  · exact List.mem_takeWhile_imp (List.mem_reverse.mp hc)
  · unfold trimEnd
    rw [← List.reverse_append, List.takeWhile_append_dropWhile, List.reverse_reverse]

/-- Only blanks are trimmed off. -/
theorem padded_trim (s : String) : Padded (trim s) s := by
  obtain ⟨after, hafter, hend⟩ := trimEnd_append_blank (trimStart s.toList)
  refine ⟨s.toList.takeWhile isBlank, after, fun c hc => List.mem_takeWhile_imp hc, hafter, ?_⟩
  have hstart : s.toList = s.toList.takeWhile isBlank ++ trimStart s.toList :=
    List.takeWhile_append_dropWhile.symm
  unfold trim trimChars
  rw [String.toList_ofList, List.append_assoc, ← hend]
  exact hstart

/-- There is no value, or nothing but blanks in it. -/
def Blank (s : Option String) : Prop := ∀ c ∈ (s.getD "").toList, isBlank c = true

/-- A blank value is like a missing one. -/
theorem Blank.alike_none {s : Option String} (h : Blank s) : Alike s none :=
  ⟨"", ⟨(s.getD "").toList, [], h, List.forall_mem_nil _, by simp⟩, .refl _⟩

theorem trim_eq_empty_iff {s : String} : trim s = "" ↔ ∀ c ∈ s.toList, isBlank c = true := by
  constructor
  · intro h
    obtain ⟨before, after, hbefore, hafter, hs⟩ := padded_trim s
    rw [h] at hs
    intro c hc
    rw [hs, List.mem_append, List.mem_append] at hc
    rcases hc with (hc | hc) | hc
    · exact hbefore c hc
    · cases hc
    · exact hafter c hc
  · intro h
    have hpadded : Padded "" s := ⟨s.toList, [], h, List.forall_mem_nil _, by simp⟩
    exact hpadded.trim_eq.trans trim_empty

/-- The text is not empty and has no blank at either end. -/
structure Tidy (s : String) : Prop where
  nonempty : s ≠ ""
  first : ∀ c ∈ s.toList.head?, isBlank c = false
  last : ∀ c ∈ s.toList.getLast?, isBlank c = false

theorem head?_dropWhile_isBlank (cs : List Char) :
    ∀ c ∈ (cs.dropWhile isBlank).head?, isBlank c = false := by
  intro c hc
  have hfirst := List.head?_dropWhile_not isBlank cs
  rw [Option.mem_def.mp hc] at hfirst
  simpa using hfirst

theorem tidy_of_nonBlank? {s t : String} (h : nonBlank? s = some t) : Tidy t := by
  unfold nonBlank? at h
  dsimp only at h
  split_ifs at h with hempty
  cases h
  obtain ⟨after, _, hafter⟩ := trimEnd_append_blank (trimStart s.toList)
  refine ⟨fun heq => hempty (String.isEmpty_iff.mpr heq), fun c hc => ?_, fun c hc => ?_⟩
  · -- The first character that is left stands behind the blanks at the start.
    rw [trim, String.toList_ofList, trimChars, Option.mem_def] at hc
    refine head?_dropWhile_isBlank s.toList c ?_
    change (trimStart s.toList).head? = some c
    rw [hafter, List.head?_append, hc]
    rfl
  · rw [trim, String.toList_ofList, trimChars, trimEnd, List.getLast?_reverse] at hc
    exact head?_dropWhile_isBlank _ c hc

theorem tidy_of_nonBlank?_self {s : String} (h : nonBlank? s = some s) : Tidy s :=
  tidy_of_nonBlank? h

theorem notBlank_of_any {cs : List Char} (h : cs.any isBlank = false) :
    ∀ c ∈ cs, isBlank c = false := by
  intro c hc
  simpa using List.any_eq_false.mp h c hc

/-! ### What is found in a padded text -/

section

variable {part : List Char}

theorem infix_append_iff_right (hne : part ≠ []) (hpart : ∀ c ∈ part, isBlank c = false)
    (hbefore : ∀ c ∈ before, isBlank c = true) : part <:+: before ++ cs ↔ part <:+: cs := by
  refine ⟨fun h => ?_, List.infix_append_of_infix_right⟩
  induction before with
  | nil => exact h
  | cons b before ih =>
      rw [List.forall_mem_cons] at hbefore
      rcases List.infix_cons_iff.mp h with hprefix | hrest
      · -- It would begin with a blank.
        cases part with
        | nil => exact absurd rfl hne
        | cons c part =>
            have hc := hpart c (.head _)
            rw [(List.cons_prefix_cons.mp hprefix).1, hbefore.1] at hc
            cases hc
      · exact ih hbefore.2 hrest

theorem infix_append_iff_left (hne : part ≠ []) (hpart : ∀ c ∈ part, isBlank c = false)
    (hafter : ∀ c ∈ after, isBlank c = true) : part <:+: cs ++ after ↔ part <:+: cs := by
  rw [← List.reverse_infix, List.reverse_append, infix_append_iff_right, List.reverse_infix]
  · simpa using hne
  · simpa using hpart
  · simpa using hafter

/-- What holds no blank is found in a padded text exactly if it is found in its core. -/
theorem Padded.infix_iff {core s : String} (h : Padded core s) (hne : part ≠ [])
    (hpart : ∀ c ∈ part, isBlank c = false) : part <:+: s.toList ↔ part <:+: core.toList := by
  obtain ⟨before, after, hbefore, hafter, hs⟩ := h
  rw [hs, infix_append_iff_left hne hpart hafter, infix_append_iff_right hne hpart hbefore]

end

end Gatehouse.Text
