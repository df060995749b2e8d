import Gatehouse.Json.Reader
import Gatehouse.Json.Writer
import Gatehouse.Proofs.Reading
import Mathlib.Data.List.Basic

/-! # Reading back string literals and numbers

A string literal is read piece by piece and its pieces are then assembled, so each character is
followed through both: `pieces?_escapeChar` reads one piece off the characters that stand for it,
and the piece writes the character again (`Piece.Writes`).  An integer is read back whenever what
follows it cannot prolong it (`Ends`). -/

namespace Gatehouse.Json

/-- The characters of a list, ready to be read. -/
def input (cs : List Char) : Input := cs.map some

@[simp] theorem input_nil : input [] = [] := rfl

@[simp] theorem input_cons (c : Char) (cs : List Char) : input (c :: cs) = some c :: input cs := rfl

@[simp] theorem input_append (cs ds : List Char) : input (cs ++ ds) = input cs ++ input ds :=
  List.map_append

theorem skipSpace_cons {c : Char} (hc : isSpace (some c) = false) (cs : Input) :
    skipSpace (some c :: cs) = some c :: cs := by
  unfold skipSpace
  rw [List.dropWhile_cons, hc]
  rfl

/-! ### String literals -/

/-- The piece stands for the character. -/
def Piece.Writes (p : Piece) (c : Char) : Prop :=
  ∀ ps, assemble? (p :: ps) = (assemble? ps).map (c :: ·)

theorem Piece.writes_char (c : Char) : (Piece.char c).Writes c := fun _ => rfl

theorem Piece.writes_unit {c : Char} (hc : c.toNat < 0xD800) : (Piece.unit c.toNat).Writes c := by
  intro ps
  have hhigh : isHighSurrogate c.toNat = false := by
    unfold isHighSurrogate
    simp only [Bool.and_eq_false_imp, decide_eq_true_eq, decide_eq_false_iff_not]
    omega
  have hlow : isLowSurrogate c.toNat = false := by
    unfold isLowSurrogate
    simp only [Bool.and_eq_false_imp, decide_eq_true_eq, decide_eq_false_iff_not]
    omega
  rw [assemble?.eq_def]
  simp only [hhigh, hlow, Bool.false_eq_true, if_false, Char.ofNat_toNat]

theorem pieces?_letter {e c : Char} (hu : e ≠ 'u') (he : escape? e = some c) (cs : Input) :
    pieces? (some '\\' :: some e :: cs) =
      (pieces? cs).map fun (ps, rest) => (.char c :: ps, rest) := by
  rw [pieces?]
  · rw [he]
    cases pieces? cs <;> rfl
  · rintro _ _ _ _ _ _ rfl
    exact hu rfl

theorem pieces?_unit {a b c d : Option Char} {n : Nat} (hn : unit? a b c d = some n)
    (cs : Input) :
    pieces? (some '\\' :: some 'u' :: a :: b :: c :: d :: cs) =
      (pieces? cs).map fun (ps, rest) => (.unit n :: ps, rest) := by
  rw [pieces?, hn]
  cases pieces? cs <;> rfl

theorem pieces?_plain {c : Char} (hquote : c ≠ '"') (hback : c ≠ '\\') (hc : 0x20 ≤ c.toNat)
    (cs : Input) :
    pieces? (some c :: cs) = (pieces? cs).map fun (ps, rest) => (.char c :: ps, rest) := by
  rw [pieces?]
  · rw [guard_of hc]
    cases pieces? cs <;> rfl
  · exact hquote
  · exact fun _ _ _ _ _ _ => hback
  · exact fun _ _ _ => hback
  · exact hback

theorem pieces?_junk (cs : Input) :
    pieces? (none :: cs) = (pieces? cs).map fun (ps, rest) => (.junk :: ps, rest) := by
  rw [pieces?]
  cases pieces? cs <;> rfl

theorem unit?_hexDigit {n : Nat} (hn : n < 256) :
    unit? (some '0') (some '0') (some (Bytes.hexDigit (n / 16))) (some (Bytes.hexDigit (n % 16))) =
      some n := by
  have hhigh := Bytes.hexDigitValue?_hexDigit (show n / 16 < 16 by omega)
  have hlow := Bytes.hexDigitValue?_hexDigit (show n % 16 < 16 by omega)
  have hsum : ((0 * 16 + 0) * 16 + n / 16) * 16 + n % 16 = n := by omega
  unfold unit? hexValue?
  simp only [hhigh, hlow]
  exact congrArg some hsum

theorem eq_of_toNat {c d : Char} (h : c.toNat = d.toNat) : c = d := by
  rw [← Char.ofNat_toNat c, h, Char.ofNat_toNat]

/-- One piece is read off the characters that stand for a character, and it writes that
character. -/
theorem pieces?_escapeChar (c : Char) : ∃ p : Piece, p.Writes c ∧ ∀ cs,
    pieces? (input (escapeChar c) ++ cs) =
      (pieces? cs).map fun (ps, rest) => (p :: ps, rest) := by
  unfold escapeChar
  by_cases hquote : c = '"'
  · rw [if_pos hquote, hquote]
    exact ⟨_, Piece.writes_char '"', pieces?_letter (by decide) rfl⟩
  rw [if_neg hquote]
  by_cases hback : c = '\\'
  · rw [if_pos hback, hback]
    exact ⟨_, Piece.writes_char '\\', pieces?_letter (by decide) rfl⟩
  rw [if_neg hback]
  -- The five controls that are escaped by a letter, and the others.
  by_cases h8 : c.toNat = 8
  · rw [if_pos h8, eq_of_toNat (d := Char.ofNat 8) h8]
    exact ⟨_, Piece.writes_char _, pieces?_letter (by decide) rfl⟩
  rw [if_neg h8]
  by_cases h9 : c.toNat = 9
  · rw [if_pos h9, eq_of_toNat (d := '\t') h9]
    exact ⟨_, Piece.writes_char _, pieces?_letter (by decide) rfl⟩
  rw [if_neg h9]
  by_cases h10 : c.toNat = 10
  · rw [if_pos h10, eq_of_toNat (d := '\n') h10]
    exact ⟨_, Piece.writes_char _, pieces?_letter (by decide) rfl⟩
  rw [if_neg h10]
  by_cases h12 : c.toNat = 12
  · rw [if_pos h12, eq_of_toNat (d := Char.ofNat 12) h12]
    exact ⟨_, Piece.writes_char _, pieces?_letter (by decide) rfl⟩
  rw [if_neg h12]
  by_cases h13 : c.toNat = 13
  · rw [if_pos h13, eq_of_toNat (d := '\r') h13]
    exact ⟨_, Piece.writes_char _, pieces?_letter (by decide) rfl⟩
  rw [if_neg h13]
  by_cases hctl : c.toNat < 0x20
  · rw [if_pos hctl]
    exact ⟨_, Piece.writes_unit (by omega), pieces?_unit (unit?_hexDigit (by omega))⟩
  · rw [if_neg hctl]
    exact ⟨_, Piece.writes_char c, pieces?_plain hquote hback (by omega)⟩

theorem pieces?_escaped (cs : List Char) (rest : Input) : ∃ ps : List Piece,
    pieces? (input (cs.flatMap escapeChar) ++ some '"' :: rest) = some (ps, rest) ∧
      assemble? ps = some cs := by
  induction cs with
  | nil => exact ⟨[], rfl, rfl⟩
  | cons c cs ih =>
      obtain ⟨p, hwrites, hread⟩ := pieces?_escapeChar c
      obtain ⟨ps, hps, hcs⟩ := ih
      refine ⟨p :: ps, ?_, ?_⟩
      · rw [List.flatMap_cons, input_append, List.append_assoc, hread, hps]
        rfl
      · rw [hwrites, hcs]
        rfl

/-- What is written behind the opening quote of a string literal. -/
theorem stringChars_eq (s : Option String) : ∃ cs, stringChars s = '"' :: cs := by
  cases s with
  | none => exact ⟨_, rfl⟩
  | some s => exact ⟨_, rfl⟩

/-- **A string literal reads back**, also one that denotes no text. -/
theorem string?_stringChars {s : Option String} {cs : List Char} (h : stringChars s = '"' :: cs)
    (rest : Input) : string? (input cs ++ rest) = some (s, rest) := by
  cases s with
  | none =>
      cases h
      rfl
  | some s =>
      have hcs : cs = s.toList.flatMap escapeChar ++ ['"'] := (List.cons.inj h).2.symm
      obtain ⟨ps, hps, hs⟩ := pieces?_escaped s.toList rest
      rw [hcs, input_append, List.append_assoc]
      unfold string?
      rw [input_cons, input_nil, List.cons_append, List.nil_append, hps]
      simp only [Option.bind_eq_bind, Option.bind_some, hs, Option.map_some, String.ofList_toList]
      rfl

/-- A piece that may always be put in front of what follows. -/
theorem pieces?_append_step (front : Input) {tail rest : Input} {p : Piece} {ps : List Piece}
    (hstep : ∀ cs, pieces? (front ++ cs) = (pieces? cs).map fun (ps, rest) => (p :: ps, rest))
    (ih : ∀ ps rest, pieces? tail = some (ps, rest) →
      ∃ used, tail = used ++ rest ∧ ∀ rest', pieces? (used ++ rest') = some (ps, rest'))
    (h : pieces? (front ++ tail) = some (ps, rest)) :
    ∃ used, front ++ tail = used ++ rest ∧ ∀ rest', pieces? (used ++ rest') = some (ps, rest') := by
  rw [hstep] at h
  obtain ⟨⟨qs, rest₁⟩, htail, heq⟩ := Option.map_eq_some_iff.mp h
  cases heq
  obtain ⟨used, rfl, hread⟩ := ih qs rest htail
  refine ⟨front ++ used, (List.append_assoc ..).symm, fun rest' => ?_⟩
  rw [List.append_assoc, hstep, hread]
  rfl

/-- The pieces of a literal do not depend on what follows it. -/
theorem pieces?_append {cs : Input} {ps : List Piece} {rest : Input}
    (h : pieces? cs = some (ps, rest)) :
    ∃ used, cs = used ++ rest ∧ ∀ rest', pieces? (used ++ rest') = some (ps, rest') := by
  induction cs using pieces?.induct generalizing ps rest with
  | case1 tail =>
      cases h
      exact ⟨[some '"'], rfl, fun _ => rfl⟩
  | case2 a b c d tail ih =>
      obtain ⟨n, hn, -⟩ := Option.bind_eq_some_iff.mp (pieces?.eq_def _ ▸ h)
      exact pieces?_append_step [some '\\', some 'u', a, b, c, d] (pieces?_unit hn)
        (fun _ _ => ih) h
  | case3 e tail hunit ih =>
      have hread := h
      rw [pieces?] at hread
      · obtain ⟨c, hc, -⟩ := Option.bind_eq_some_iff.mp hread
        have hu : e ≠ 'u' := by
          rintro rfl
          cases hc
        exact pieces?_append_step [some '\\', some e] (pieces?_letter hu hc)
          (fun _ _ => ih) h
      · exact hunit
  | case4 tail hunit hletter =>
      rw [pieces?] at h
      · cases h
      · exact hunit
      · exact hletter
  | case5 c tail hquote hunit hletter hback ih =>
      have hread := h
      rw [pieces?] at hread
      · obtain ⟨_, hc, -⟩ := Option.bind_eq_some_iff.mp hread
        rw [Option.guard_eq_some'] at hc
        exact pieces?_append_step [some c] (pieces?_plain hquote hback hc)
          (fun _ _ => ih) h
      · exact hquote
      · exact hunit
      · exact hletter
      · exact hback
  | case6 tail ih => exact pieces?_append_step [none] pieces?_junk (fun _ _ => ih) h
  | case7 => cases h

/-- **A string literal is read alike whatever follows it.** -/
theorem string?_append {cs : Input} {s : Option String} {rest : Input}
    (h : string? cs = some (s, rest)) :
    ∃ used, cs = used ++ rest ∧ ∀ rest', string? (used ++ rest') = some (s, rest') := by
  obtain ⟨⟨ps, rest₁⟩, hps, heq⟩ := Option.bind_eq_some_iff.mp h
  cases heq
  obtain ⟨used, hused, hread⟩ := pieces?_append hps
  refine ⟨used, hused, fun rest' => ?_⟩
  unfold string?
  rw [hread]
  rfl

/-! ### Integers -/

/-- What follows cannot prolong a number. -/
def Ends (rest : Input) : Prop :=
  ∀ c cs, rest = some c :: cs → c.isDigit = false ∧ c ≠ '.' ∧ c ≠ 'e' ∧ c ≠ 'E'

theorem ends_nil : Ends [] := by
  intro _ _ h
  cases h

theorem ends_cons {c : Char} (hc : c.isDigit = false) (hpoint : c ≠ '.') (he : c ≠ 'e')
    (hE : c ≠ 'E') (cs : Input) : Ends (some c :: cs) := by
  intro _ _ h
  cases h
  exact ⟨hc, hpoint, he, hE⟩

theorem Ends.takeWhile {rest : Input} (h : Ends rest) : rest.takeWhile isDigit = [] := by
  cases rest with
  | nil => rfl
  | cons c cs =>
      cases c with
      | none => rfl
      | some c => rw [List.takeWhile_cons, isDigit, (h c cs rfl).1]; rfl

theorem Ends.dropWhile {rest : Input} (h : Ends rest) : rest.dropWhile isDigit = rest := by
  cases rest with
  | nil => rfl
  | cons c cs =>
      cases c with
      | none => rfl
      | some c => rw [List.dropWhile_cons, isDigit, (h c cs rfl).1]; rfl

theorem digits_append {ds : List Char} (hds : ∀ d ∈ ds, d.isDigit = true) {rest : Input}
    (h : Ends rest) : digits (input ds ++ rest) = (ds, rest) := by
  have hall : ∀ c ∈ input ds, isDigit c = true := by
    intro c hc
    obtain ⟨d, hd, rfl⟩ := List.mem_map.mp hc
    exact hds d hd
  have hsome : (input ds).filterMap id = ds := by
    unfold input
    rw [List.filterMap_map, Function.id_comp, List.filterMap_some]
  unfold digits
  rw [List.takeWhile_append_of_pos hall, List.dropWhile_append_of_pos hall, h.takeWhile,
    h.dropWhile, List.append_nil, hsome]

theorem Ends.fraction? {rest : Input} (h : Ends rest) : fraction? rest = some ([], rest) := by
  rw [Json.fraction?]
  rintro cs rfl
  exact (h '.' cs rfl).2.1 rfl

theorem Ends.exponent? {rest : Input} (h : Ends rest) : exponent? rest = some ([], rest) := by
  cases rest with
  | nil => rfl
  | cons c cs =>
      cases c with
      | none => rfl
      | some c =>
          have he := (h c cs rfl).2.2
          rw [Json.exponent?.eq_def]
          simp only [he.1, he.2, decide_false, Bool.or_self, Bool.false_eq_true, if_false]

theorem toDigits_first {n : Nat} (hn : n ≠ 0) : (Nat.toDigits 10 n).head? ≠ some '0' := by
  induction n using Nat.strongRecOn with
  | ind n ih =>
      rw [Nat.toDigits_eq_if (by decide)]
      by_cases hlt : n < 10
      · have hdigit : ∀ m < 10, m ≠ 0 → some m.digitChar ≠ some '0' := by decide
        rw [if_pos hlt]
        exact hdigit n hlt hn
      · rw [if_neg hlt, List.head?_append_of_ne_nil _ Nat.toDigits_ne_nil]
        exact ih (n / 10) (by omega) (by omega)

/-- **A natural number reads back**, with its sign read already. -/
theorem number?_toDigits (negative : Bool) {n : Nat} (hn : negative = true → n ≠ 0) {rest : Input}
    (h : Ends rest) : number? negative (input (Nat.toDigits 10 n) ++ rest) =
      some (.integer (if negative then -(n : Int) else n), rest) := by
  have hds : ∀ d ∈ Nat.toDigits 10 n, d.isDigit = true := fun d hd =>
    Nat.isDigit_of_mem_toDigits (by decide) (by decide) hd
  have hvalue : ofDigits (Nat.toDigits 10 n) = n := Nat.ofDigitChars_ten_toDigits
  have hsign : (negative && n == 0) = false := by
    cases negative with
    | false => rfl
    | true => simpa using hn rfl
  have hzero :
      ((Nat.toDigits 10 n).length = 1 || (Nat.toDigits 10 n).head? != some '0') = true := by
    by_cases h0 : n = 0
    · rw [h0]
      rfl
    · simp [toDigits_first h0]
  have hne : (!(Nat.toDigits 10 n).isEmpty) = true := by simp [Nat.toDigits_ne_nil]
  unfold number?
  rw [digits_append hds h]
  dsimp only
  rw [guard_of hne, guard_of hzero]
  simp only [h.fraction?, h.exponent?, Option.pure_def, Option.bind_eq_bind, Option.bind_some,
    hvalue, hsign]
  rfl

end Gatehouse.Json
