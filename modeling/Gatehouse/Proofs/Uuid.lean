import Gatehouse.Uuid
import Gatehouse.Proofs.Reading

/-! # Reading back identifiers

The hyphenated text of an identifier reads back (`ofText?_text`): the hyphens stand where the reader
expects them, and after `k` of the thirty-two digits the number read is the upper `4 * k` bits
(`foldlM_digits`). -/

namespace Gatehouse.Uuid

/-! ### Digits -/

theorem length_digits (u : Uuid) : u.digits.length = 32 := by
  unfold digits
  rw [List.length_map, List.length_range]

theorem shiftRight_digit (n k : Nat) : 16 * (n >>> (k + 4)) + (n >>> k) % 16 = n >>> k := by
  rw [Nat.shiftRight_add, Nat.shiftRight_eq_div_pow (n >>> k) 4]
  omega

/-- The digits that are read so far are the upper bits. -/
theorem foldlM_digits (u : Uuid) {k : Nat} (hk : k ≤ 32) :
    ((List.range k).map u.digit).foldlM
      (fun n d => do pure (16 * n + (← Bytes.hexDigitValue? d))) 0 =
      some (u.bits.toNat >>> (4 * (32 - k))) := by
  induction k with
  | zero =>
      have hbits : u.bits.toNat >>> 128 = 0 :=
        Nat.shiftRight_eq_zero _ _ (Nat.lt_of_lt_of_le u.bits.isLt (Nat.le_refl _))
      rw [List.range_zero, List.map_nil, List.foldlM_nil]
      exact congrArg some hbits.symm
  | succ k ih =>
      have hplace : 4 * (32 - k) = 4 * (31 - k) + 4 := by omega
      have hplace' : 4 * (32 - (k + 1)) = 4 * (31 - k) := by omega
      have hdigit := Bytes.hexDigitValue?_hexDigit
        (Nat.mod_lt (u.bits.toNat >>> (4 * (31 - k))) (by decide : 0 < 16))
      rw [List.range_succ, List.map_append, List.foldlM_append, ih (by omega), List.map_singleton,
        hplace, hplace']
      simp only [Option.bind_eq_bind, Option.bind_some, List.foldlM_cons, List.foldlM_nil, digit,
        hdigit, Option.pure_def, shiftRight_digit]

theorem ofDigits?_digits (u : Uuid) : ofDigits? u.digits = some u := by
  have hread := foldlM_digits u (Nat.le_refl 32)
  unfold ofDigits?
  rw [guard_of u.length_digits]
  unfold digits
  simp only [Option.pure_def, Option.bind_eq_bind, Option.bind_some] at hread ⊢
  rw [hread]
  simp only [Option.bind_some, Nat.sub_self, Nat.mul_zero, Nat.shiftRight_zero,
    BitVec.ofNat_toNat, BitVec.setWidth_eq]

/-! ### Hyphens -/

theorem ofHyphenated?_groups {a b c d e : List Char} (ha : a.length = 8) (hb : b.length = 4)
    (hc : c.length = 4) (hd : d.length = 4) :
    ofHyphenated? (a ++ '-' :: (b ++ '-' :: (c ++ '-' :: (d ++ '-' :: e)))) =
      ofDigits? (a ++ b ++ c ++ d ++ e) := by
  unfold ofHyphenated?
  simp [List.getElem?_append, List.drop_append, List.drop_eq_nil_of_le, ha, hb, hc, hd]

theorem groups_append (ds : List Char) :
    ds.take 8 ++ (ds.drop 8).take 4 ++ (ds.drop 12).take 4 ++ (ds.drop 16).take 4 ++ ds.drop 20 =
      ds := by
  rw [← List.take_add, ← List.take_add, ← List.take_add, List.take_append_drop]

theorem ofHyphenated?_hyphenated {ds : List Char} (h : ds.length = 32) :
    ofHyphenated? (hyphenated ds) = ofDigits? ds := by
  have hgroup : ∀ i n, i + n ≤ 32 → ((ds.drop i).take n).length = n := by
    intro i n hi
    rw [List.length_take, List.length_drop, h]
    omega
  have hfirst : (ds.take 8).length = 8 := hgroup 0 8 (by decide)
  unfold hyphenated
  rw [ofHyphenated?_groups hfirst (hgroup 8 4 (by decide)) (hgroup 12 4 (by decide))
    (hgroup 16 4 (by decide)), groups_append]

theorem length_hyphenated {ds : List Char} (h : ds.length = 32) : (hyphenated ds).length = 36 := by
  unfold hyphenated
  simp only [List.length_append, List.length_cons, List.length_take, List.length_drop, h]
  rfl

/-- **The text of an identifier reads back.** -/
theorem ofText?_text (u : Uuid) : ofText? u.text = some u := by
  have hlength := length_hyphenated u.length_digits
  unfold ofText? text
  rw [String.toList_ofList]
  simp only [hlength]
  rw [if_neg (by decide), if_pos (by decide), ofHyphenated?_hyphenated u.length_digits,
    ofDigits?_digits]

end Gatehouse.Uuid
