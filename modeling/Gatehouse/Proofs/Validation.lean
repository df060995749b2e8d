import Gatehouse.Validation
import Mathlib.Computability.Language
import Mathlib.Data.List.TakeDrop
import Mathlib.Data.List.TakeWhile

/-! # Which logins have valid input

What an address looks like is written as a pattern (`Email.pattern`): a run of characters, an at
sign, another run, a dot and a third run, where a run is not empty and holds neither an at sign nor a
blank.  A dot fits into a run as well, so an address may fit in several ways; the check reads it once
from the left and accepts exactly the texts that fit in some way (`isValidChars_iff`).  Which these
are can be told without looking for a way to fit (`Email.WellFormed`, `mem_pattern_iff`).  A login is
accepted exactly if its address in normal form is one of them and there is a password, and otherwise
each field that is at fault is reported (`login_accepts_grammar`). -/

namespace Gatehouse

namespace Email

/-- At least one character, and neither an at sign nor a blank among them. -/
def run : Language Char := {cs | cs ≠ [] ∧ ∀ c ∈ cs, isPlain c = true}

/-- What an address looks like. -/
def pattern : Language Char := run * {['@']} * run * {['.']} * run

/-- What can be said of an address without fitting it to the pattern: there is no blank in it and one
at sign, behind something, and in what follows a dot is neither the first character nor the last. -/
structure WellFormed (cs : List Char) : Prop where
  noBlank : ∀ c ∈ cs, Text.isBlank c = false
  oneAt : cs.count '@' = 1
  innerDot : ∃ user domain, cs = user ++ '@' :: domain ∧ user ≠ [] ∧
    ∃ i, 0 < i ∧ i + 1 < domain.length ∧ domain[i]? = some '.'

variable {c : Char} {cs : List Char}

theorem isPlain_iff : isPlain c = true ↔ c ≠ '@' ∧ Text.isBlank c = false := by
  simp [isPlain]

theorem mem_pattern : cs ∈ pattern ↔ ∃ user ∈ run, ∃ label ∈ run, ∃ rest ∈ run,
    cs = user ++ '@' :: (label ++ '.' :: rest) := by
  unfold pattern
  simp only [Language.mem_mul]
  constructor
  · rintro ⟨_, ⟨_, ⟨_, ⟨user, huser, _, rfl, rfl⟩, label, hlabel, rfl⟩, _, rfl, rfl⟩, rest, hrest, rfl⟩
    exact ⟨user, huser, label, hlabel, rest, hrest, by simp⟩
  · rintro ⟨user, huser, label, hlabel, rest, hrest, rfl⟩
    exact ⟨_, ⟨_, ⟨_, ⟨user, huser, _, rfl, rfl⟩, label, hlabel, rfl⟩, _, rfl, rfl⟩, rest, hrest,
      by simp⟩

/-! ### The check -/

theorem hasInnerDot_iff : hasInnerDot cs = true ↔
    ∃ label rest, label ≠ [] ∧ rest ≠ [] ∧ cs = label ++ '.' :: rest := by
  cases cs with
  | nil => simp [hasInnerDot]
  | cons c cs =>
      rw [hasInnerDot, List.contains_iff_mem]
      constructor
      · intro hdot
        obtain ⟨label, rest, hcs⟩ := List.append_of_mem hdot
        have hne : cs ≠ [] := by
          rintro rfl
          cases hdot
        refine ⟨c :: label, rest ++ [cs.getLast hne], List.cons_ne_nil _ _, by simp, ?_⟩
        calc c :: cs = c :: (cs.dropLast ++ [cs.getLast hne]) := by
              rw [List.dropLast_append_getLast]
          _ = c :: label ++ '.' :: (rest ++ [cs.getLast hne]) := by
              rw [hcs]
              simp
      · rintro ⟨label, rest, hlabel, hrest, heq⟩
        cases label with
        | nil => exact absurd rfl hlabel
        | cons d label =>
            obtain ⟨rfl, rfl⟩ := List.cons.inj heq
            change '.' ∈ (label ++ '.' :: rest).dropLast
            rw [List.dropLast_append_of_ne_nil (List.cons_ne_nil _ _),
              List.dropLast_cons_of_ne_nil hrest]
            simp

/-- The part up to the first character that is not plain ends where an at sign follows plain
characters. -/
theorem span_isPlain {user domain : List Char} (huser : ∀ c ∈ user, isPlain c = true) :
    (user ++ '@' :: domain).span isPlain = (user, '@' :: domain) := by
  have hat : isPlain '@' = false := rfl
  rw [List.span_eq_takeWhile_dropWhile, List.takeWhile_append_of_pos huser,
    List.dropWhile_append_of_pos huser, List.takeWhile_cons, List.dropWhile_cons, hat]
  simp

/-- **The check accepts exactly the texts that fit the pattern.** -/
theorem isValidChars_iff : isValidChars cs = true ↔ cs ∈ pattern := by
  rw [mem_pattern]
  constructor
  · intro h
    have hcs := List.takeWhile_append_dropWhile (p := isPlain) (l := cs)
    have huser : ∀ c ∈ cs.takeWhile isPlain, isPlain c = true := fun c hc => List.mem_takeWhile_imp hc
    unfold isValidChars at h
    rw [List.span_eq_takeWhile_dropWhile] at h
    dsimp only at h
    split at h
    · rename_i domain hdomain
      simp only [Bool.and_eq_true, Bool.not_eq_true', List.isEmpty_eq_false_iff, List.all_eq_true]
        at h
      obtain ⟨⟨hne, hplain⟩, hdot⟩ := h
      obtain ⟨label, rest, hlabel, hrest, rfl⟩ := hasInnerDot_iff.mp hdot
      rw [hdomain] at hcs
      exact ⟨_, ⟨hne, huser⟩, label, ⟨hlabel, fun c hc => hplain c (by simp [hc])⟩,
        rest, ⟨hrest, fun c hc => hplain c (by simp [hc])⟩, hcs.symm⟩
    · cases h
  · rintro ⟨user, ⟨huser, hplain⟩, label, ⟨hlabel, hlabels⟩, rest, ⟨hrest, hrests⟩, rfl⟩
    have hdot : hasInnerDot (label ++ '.' :: rest) = true :=
      hasInnerDot_iff.mpr ⟨label, rest, hlabel, hrest, rfl⟩
    have hdomain : (label ++ '.' :: rest).all isPlain = true := by
      rw [List.all_append, List.all_cons, List.all_eq_true.mpr hlabels, List.all_eq_true.mpr hrests]
      rfl
    unfold isValidChars
    rw [span_isPlain hplain]
    simp [huser, hdot, hdomain]

/-! ### The grammar -/

/-- The at sign between two parts is the only one if there is none in either. -/
theorem count_at_eq_one_iff {user domain : List Char} :
    (user ++ '@' :: domain).count '@' = 1 ↔ '@' ∉ user ∧ '@' ∉ domain := by
  rw [List.count_append, List.count_cons_self, ← List.count_eq_zero, ← List.count_eq_zero]
  omega

/-- A dot that is neither the first character nor the last has something on both sides. -/
theorem exists_innerDot_iff : (∃ i, 0 < i ∧ i + 1 < cs.length ∧ cs[i]? = some '.') ↔
    ∃ label rest, label ≠ [] ∧ rest ≠ [] ∧ cs = label ++ '.' :: rest := by
  constructor
  · rintro ⟨i, hi, hlt, hdot⟩
    obtain ⟨hlength, hget⟩ := List.getElem?_eq_some_iff.mp hdot
    refine ⟨cs.take i, cs.drop (i + 1), ?_, ?_, ?_⟩
    · rw [← List.length_pos_iff, List.length_take]
      omega
    · rw [← List.length_pos_iff, List.length_drop]
      omega
    · rw [← hget, ← List.drop_eq_getElem_cons, List.take_append_drop]
  · rintro ⟨label, rest, hlabel, hrest, rfl⟩
    have hlabel := List.length_pos_iff.mpr hlabel
    have hrest := List.length_pos_iff.mpr hrest
    refine ⟨label.length, hlabel, ?_, ?_⟩
    · rw [List.length_append, List.length_cons]
      omega
    · rw [List.getElem?_append_right (Nat.le_refl _), Nat.sub_self]
      rfl

/-- **The texts that fit the pattern are the well-formed ones.** -/
theorem mem_pattern_iff : cs ∈ pattern ↔ WellFormed cs := by
  rw [mem_pattern]
  constructor
  · rintro ⟨user, ⟨huser, husers⟩, label, ⟨hlabel, hlabels⟩, rest, ⟨hrest, hrests⟩, rfl⟩
    have hplain : ∀ c ∈ user ++ (label ++ rest), c ≠ '@' ∧ Text.isBlank c = false := by
      intro c hc
      rw [List.mem_append, List.mem_append] at hc
      rcases hc with hc | hc | hc
      · exact isPlain_iff.mp (husers c hc)
      · exact isPlain_iff.mp (hlabels c hc)
      · exact isPlain_iff.mp (hrests c hc)
    refine ⟨fun c hc => ?_, ?_, user, _, rfl, huser,
      exists_innerDot_iff.mpr ⟨label, rest, hlabel, hrest, rfl⟩⟩
    · simp only [List.mem_append, List.mem_cons] at hc
      rcases hc with hc | rfl | hc | rfl | hc
      · exact (hplain c (by simp [hc])).2
      · rfl
      · exact (hplain c (by simp [hc])).2
      · rfl
      · exact (hplain c (by simp [hc])).2
    · rw [count_at_eq_one_iff]
      have hat (cs : List Char) (hcs : ∀ c ∈ cs, c ∈ user ++ (label ++ rest)) : '@' ∉ cs :=
        fun h => (hplain '@' (hcs _ h)).1 rfl
      refine ⟨hat user fun c hc => by simp [hc], fun h => ?_⟩
      rw [List.mem_append, List.mem_cons] at h
      rcases h with h | h | h
      · exact hat label (fun c hc => by simp [hc]) h
      · cases h
      · exact hat rest (fun c hc => by simp [hc]) h
  · rintro ⟨hblank, hat, user, domain, rfl, huser, hdot⟩
    obtain ⟨huserAt, hdomainAt⟩ := count_at_eq_one_iff.mp hat
    obtain ⟨label, rest, hlabel, hrest, rfl⟩ := exists_innerDot_iff.mp hdot
    have hrun (cs : List Char) (hne : cs ≠ []) (hat : '@' ∉ cs)
        (hcs : ∀ c ∈ cs, c ∈ user ++ '@' :: (label ++ '.' :: rest)) : cs ∈ run := by
      refine ⟨hne, fun c hc => isPlain_iff.mpr ⟨?_, hblank c (hcs c hc)⟩⟩
      rintro rfl
      exact hat hc
    rw [List.mem_append, List.mem_cons, not_or, not_or] at hdomainAt
    exact ⟨user, hrun user huser huserAt fun c hc => by simp [hc],
      label, hrun label hlabel hdomainAt.1 fun c hc => by simp [hc],
      rest, hrun rest hrest hdomainAt.2.2 fun c hc => by simp [hc], rfl⟩

instance (cs : List Char) : Decidable (WellFormed cs) :=
  decidable_of_iff _ (isValidChars_iff.trans mem_pattern_iff)

theorem not_wellFormed_nil : ¬ WellFormed [] := fun h => by cases h.oneAt

/-! ### The normal form -/

theorem lowerAfter_eq_nil_iff {before : List Char} : Text.lowerAfter before cs = [] ↔ cs = [] := by
  cases cs with
  | nil => simp [Text.lowerAfter]
  | cons c cs =>
      rw [Text.lowerAfter]
      split_ifs <;> simp

/-- Nothing is left of an address exactly if it is blank. -/
theorem normalize_eq_empty_iff {email : String} : normalize email = "" ↔ Text.trim email = "" := by
  unfold normalize Text.lower
  rw [← String.toList_inj, String.toList_ofList, ← String.toList_inj]
  exact lowerAfter_eq_nil_iff

end Email

namespace Validation

/-- What is reported of an address. -/
theorem emailErrors_eq (email : String) : emailErrors email =
    if Text.trim email = "" then [⟨"Email", "Email is required"⟩]
    else if Email.WellFormed (Email.normalize email).toList then []
    else [⟨"Email", "Email format is invalid"⟩] := by
  have hvalid : Email.isValid (Email.normalize email) = true ↔
      Email.WellFormed (Email.normalize email).toList :=
    Email.isValidChars_iff.trans Email.mem_pattern_iff
  have hempty : (Email.normalize email).isEmpty = true ↔ Text.trim email = "" :=
    String.isEmpty_iff.trans Email.normalize_eq_empty_iff
  unfold emailErrors
  simp only [hvalid, hempty]

/-- Nothing is reported of a well-formed address, and of no other. -/
theorem emailErrors_eq_nil_iff {email : String} :
    emailErrors email = [] ↔ Email.WellFormed (Email.normalize email).toList := by
  rw [emailErrors_eq]
  split_ifs with hblank hwell
  · refine iff_of_false not_false ?_
    rw [Email.normalize_eq_empty_iff.mpr hblank]
    exact Email.not_wellFormed_nil
  · exact iff_of_true rfl hwell
  · exact iff_of_false not_false hwell

/-- What is reported of a password. -/
theorem passwordErrors_eq (password : String) : passwordErrors password =
    if password = "" then [⟨"Password", "Password is required"⟩] else [] := by
  unfold passwordErrors
  simp only [String.isEmpty_iff]

theorem passwordErrors_eq_nil_iff {password : String} :
    passwordErrors password = [] ↔ password ≠ "" := by
  rw [passwordErrors_eq]
  split_ifs with h <;> simp [h]

theorem check_eq_ok_iff {errors : List FieldError} : check errors = .ok () ↔ errors = [] := by
  cases errors with
  | nil => exact ⟨fun _ => rfl, fun _ => rfl⟩
  | cons e errors => exact ⟨nofun, nofun⟩

theorem check_of_ne_nil {errors : List FieldError} (h : errors ≠ []) :
    check errors = .error (.validation errors) := by
  cases errors with
  | nil => exact absurd rfl h
  | cons e errors => rfl

/-- **A login is accepted exactly if its address, in normal form, is well formed and it has a
password.**  Otherwise what is reported is the address, if it is at fault, and then the password, if
there is none; a blank address is told from one that is ill formed.  So addresses of one normal form
are judged alike. -/
theorem login_accepts_grammar (email password : String) :
    (login email password = .ok () ↔
      password ≠ "" ∧ Email.WellFormed (Email.normalize email).toList) ∧
    (login email password ≠ .ok () → login email password = .error (.validation (
      (if Text.trim email = "" then [⟨"Email", "Email is required"⟩]
        else if Email.WellFormed (Email.normalize email).toList then []
        else [⟨"Email", "Email format is invalid"⟩]) ++
      if password = "" then [⟨"Password", "Password is required"⟩] else []))) ∧
    ∀ other, Email.normalize other = Email.normalize email →
      login other password = login email password := by
  have haccepted : login email password = .ok () ↔
      password ≠ "" ∧ Email.WellFormed (Email.normalize email).toList := by
    unfold login
    rw [check_eq_ok_iff, List.append_eq_nil_iff, emailErrors_eq_nil_iff, passwordErrors_eq_nil_iff]
    exact and_comm
  refine ⟨haccepted, fun hrefused => ?_, fun other hother => ?_⟩
  · have herrors : emailErrors email ++ passwordErrors password ≠ [] := fun h =>
      hrefused (check_eq_ok_iff.mpr h)
    rw [← emailErrors_eq, ← passwordErrors_eq]
    exact check_of_ne_nil herrors
  · unfold login emailErrors
    rw [hother]

/-- An address with a dot before its at sign and two in a row is accepted, padded and in capitals as
well; of an address whose only dot begins its domain, and of a missing password, both are
reported. -/
theorem login_accepts_grammar_dots :
    login "ada.@mail..example.org" "x" = .ok () ∧
      Email.normalize " Ada.@Mail..Example.Org\n" = Email.normalize "ada.@mail..example.org" ∧
      login " Ada.@Mail..Example.Org\n" "x" = .ok () ∧
      login "ada@.org" "" = .error (.validation
        [⟨"Email", "Email format is invalid"⟩, ⟨"Password", "Password is required"⟩]) := by
  obtain ⟨haccepted, _, halike⟩ := login_accepts_grammar "ada.@mail..example.org" "x"
  have hok := haccepted.mpr ⟨by decide, by decide +kernel⟩
  have hnormal : Email.normalize " Ada.@Mail..Example.Org\n" =
      Email.normalize "ada.@mail..example.org" := by decide +kernel
  obtain ⟨hrefused, hreported, _⟩ := login_accepts_grammar "ada@.org" ""
  have hreport := hreported fun h => (hrefused.mp h).1 rfl
  have hblank : Text.trim "ada@.org" ≠ "" := by decide
  have hwell : ¬ Email.WellFormed (Email.normalize "ada@.org").toList := by decide +kernel
  rw [if_neg hblank, if_neg hwell, if_pos rfl] at hreport
  exact ⟨hok, hnormal, (halike _ hnormal).trans hok, hreport⟩

end Validation

end Gatehouse
