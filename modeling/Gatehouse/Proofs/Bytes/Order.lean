import Gatehouse.Proofs.Bytes.Utf8
import Mathlib.Data.String.Basic

/-! # The order of bytes

Texts are ordered by the numbers of their characters, one character after the other.  A character
with a larger number has larger bytes (`encodeChar_lt`), whatever comes after them, so this is the
order of the bytes of texts (`ofText_lt_iff`). -/

namespace Gatehouse.Bytes

theorem cons_ofNat_lt {a b : Nat} (ha : a < 256) (hb : b < 256) {xs ys : Bytes} :
    UInt8.ofNat a :: xs < UInt8.ofNat b :: ys ↔ a < b ∨ a = b ∧ xs < ys := by
  rw [List.cons_lt_cons_iff, UInt8.lt_iff_toNat_lt, ← UInt8.toNat_inj, Utf8.toNat_ofNat ha,
    Utf8.toNat_ofNat hb]

/-- The bytes of the lesser character come first, whatever follows them. -/
theorem encodeChar_lt {c d : Char} (h : c < d) (xs ys : Bytes) :
    String.utf8EncodeChar c ++ xs < String.utf8EncodeChar d ++ ys := by
  have hd : d.val.toNat < 0xD800 ∨ 0xDFFF < d.val.toNat ∧ d.val.toNat < 0x110000 := d.valid
  have h : c.val.toNat < d.val.toNat := h
  unfold String.utf8EncodeChar
  generalize c.val.toNat = m at h
  generalize d.val.toNat = n at h hd
  have hdiv (k : Nat) : m / k ≤ n / k := Nat.div_le_div_right (Nat.le_of_lt h)
  have h₁ := hdiv 64
  have h₂ := hdiv 4096
  have h₃ := hdiv 262144
  have htop : n / 262144 % 8 = n / 262144 := Nat.mod_eq_of_lt (by omega)
  have htop' : m / 262144 % 8 = m / 262144 := Nat.mod_eq_of_lt (by omega)
  -- more bytes have a greater first one; as many differ at the first place where the numbers do
  dsimp only
  split_ifs <;> simp (disch := omega) only [List.cons_append, List.nil_append, cons_ofNat_lt] <;>
    omega

theorem ofText_lt {s t : String} (h : s < t) : ofText s < ofText t := by
  rw [ofText_eq, ofText_eq]
  have h : s.toList < t.toList := h
  generalize s.toList = cs at h
  generalize t.toList = ds at h
  induction h with
  | @nil d ds =>
      have hpos : 0 < (String.utf8EncodeChar d).length := by
        rw [String.length_utf8EncodeChar]
        exact d.utf8Size_pos
      rw [List.flatMap_nil, List.flatMap_cons]
      cases hbytes : String.utf8EncodeChar d with
      | nil =>
          rw [hbytes] at hpos
          exact absurd hpos (Nat.lt_irrefl 0)
      | cons b bs => exact List.nil_lt_cons b _
  | rel hcd => exact encodeChar_lt hcd _ _
  | cons _ ih =>
      rw [List.flatMap_cons, List.flatMap_cons]
      exact List.append_left_lt ih

/-- **The order of texts is that of their bytes.** -/
theorem ofText_lt_iff {s t : String} : ofText s < ofText t ↔ s < t := by
  constructor
  · intro h
    by_contra hle
    rcases eq_or_lt_of_le (not_lt.mp hle) with rfl | hlt
    · exact List.lt_irrefl _ h
    · exact List.lt_asymm h (ofText_lt hlt)
  · exact ofText_lt

end Gatehouse.Bytes
