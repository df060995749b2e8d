import Gatehouse.Bytes.Utf8

/-! # Reading back the bytes of a text

The bytes of a text decode to its characters, none of them lost and no byte stray
(`decode_ofText`).  A character takes one to four bytes, by its number; the four cases are
`head?_encodeChar`. -/

namespace Gatehouse

/-! ### The bytes of a text -/

namespace Bytes

theorem toList_loop (bs : ByteArray) (i : Nat) (read : Bytes) :
    ByteArray.toList.loop bs i read = read.reverse ++ bs.data.toList.drop i := by
  fun_induction ByteArray.toList.loop bs i read with
  | case1 i read hi ih =>
      have hlt : i < bs.data.toList.length := hi
      have hget : bs.get! i = bs.data.toList[i] := by
        rw [Array.getElem_toList]
        exact getElem!_pos bs.data i hi
      rw [ih, List.reverse_cons, List.append_assoc, hget, List.drop_eq_getElem_cons hlt]
      rfl
  | case2 i read hi =>
      have hle : bs.data.toList.length ≤ i := Nat.le_of_not_lt hi
      rw [List.drop_eq_nil_of_le hle, List.append_nil]

theorem toList_eq (bs : ByteArray) : bs.toList = bs.data.toList := by
  unfold ByteArray.toList
  rw [toList_loop]
  rfl

theorem ofText_eq (s : String) : ofText s = s.toList.flatMap String.utf8EncodeChar := by
  have hs : s.toByteArray = (s.toList.flatMap String.utf8EncodeChar).toByteArray :=
    String.utf8Encode_toList.symm
  unfold ofText
  rw [String.toUTF8_eq_toByteArray, hs, toList_eq, List.data_toByteArray]

end Bytes

/-! ### Characters -/

namespace Utf8

theorem toNat_ofNat {n : Nat} (hn : n < 256) : (UInt8.ofNat n).toNat = n :=
  UInt8.toNat_ofNat_of_lt' hn

theorem tail?_of_le {lo hi n : Nat} (hlo : lo ≤ n) (hhi : n ≤ hi) (hn : n < 256) :
    tail? lo hi (UInt8.ofNat n) = some (n - 0x80) := by
  unfold tail?
  rw [toNat_ofNat hn]
  simp only [hlo, hhi, decide_true, Bool.and_self, if_true]

theorem head?_one {a : Nat} (ha : a < 0x80) (rest : Bytes) :
    head? (UInt8.ofNat a :: rest) = some (Char.ofNat a, 1) := by
  unfold head?
  simp only [toNat_ofNat (show a < 256 by omega), if_pos ha]

theorem head?_two {a b : Nat} (ha : 0xC2 ≤ a) (ha' : a ≤ 0xDF) (hb : 0x80 ≤ b) (hb' : b ≤ 0xBF)
    (rest : Bytes) :
    head? (UInt8.ofNat a :: UInt8.ofNat b :: rest) =
      some (Char.ofNat ((a - 0xC0) * 64 + (b - 0x80)), 2) := by
  have h₁ : ¬ a < 0x80 := by omega
  unfold head?
  simp only [toNat_ofNat (show a < 256 by omega), if_neg h₁, ha, ha', decide_true, Bool.and_self,
    if_true, tail?_of_le hb hb' (by omega)]
  rfl

/-- A lead byte of three bounds the byte behind it, so that no group is too long and none is a
surrogate. -/
theorem head?_three {a b c : Nat} (ha : 0xE0 ≤ a) (ha' : a ≤ 0xEF)
    (hb : (if a = 0xE0 then 0xA0 else 0x80) ≤ b) (hb' : b ≤ if a = 0xED then 0x9F else 0xBF)
    (hc : 0x80 ≤ c) (hc' : c ≤ 0xBF) (rest : Bytes) :
    head? (UInt8.ofNat a :: UInt8.ofNat b :: UInt8.ofNat c :: rest) =
      some (Char.ofNat (((a - 0xE0) * 64 + (b - 0x80)) * 64 + (c - 0x80)), 3) := by
  have h₁ : ¬ a < 0x80 := by omega
  have h₂ : ¬ a ≤ 0xDF := by omega
  have hb256 : b < 256 := by split at hb' <;> omega
  unfold head?
  simp only [toNat_ofNat (show a < 256 by omega), if_neg h₁, h₂, ha, ha', decide_true,
    decide_false, Bool.and_false, Bool.and_self, Bool.false_eq_true, if_false, if_true,
    tail?_of_le hb hb' hb256, tail?_of_le hc hc' (by omega)]
  rfl

/-- A lead byte of four bounds the byte behind it, so that no group is too long and none is beyond
the last character. -/
theorem head?_four {a b c d : Nat} (ha : 0xF0 ≤ a) (ha' : a ≤ 0xF4)
    (hb : (if a = 0xF0 then 0x90 else 0x80) ≤ b) (hb' : b ≤ if a = 0xF4 then 0x8F else 0xBF)
    (hc : 0x80 ≤ c) (hc' : c ≤ 0xBF) (hd : 0x80 ≤ d) (hd' : d ≤ 0xBF) (rest : Bytes) :
    head? (UInt8.ofNat a :: UInt8.ofNat b :: UInt8.ofNat c :: UInt8.ofNat d :: rest) =
      some (Char.ofNat ((((a - 0xF0) * 64 + (b - 0x80)) * 64 + (c - 0x80)) * 64 + (d - 0x80)),
        4) := by
  have h₁ : ¬ a < 0x80 := by omega
  have h₂ : ¬ a ≤ 0xDF := by omega
  have h₃ : ¬ a ≤ 0xEF := by omega
  have hb256 : b < 256 := by split at hb' <;> omega
  unfold head?
  simp only [toNat_ofNat (show a < 256 by omega), if_neg h₁, h₂, h₃, ha, ha', decide_true,
    decide_false, Bool.and_false, Bool.and_self, Bool.false_eq_true, if_false, if_true,
    tail?_of_le hb hb' hb256, tail?_of_le hc hc' (by omega), tail?_of_le hd hd' (by omega)]
  rfl

/-- **A character is read from its own bytes.** -/
theorem head?_encodeChar (c : Char) (rest : Bytes) :
    head? (String.utf8EncodeChar c ++ rest) = some (c, (String.utf8EncodeChar c).length) := by
  have hc : Char.ofNat c.val.toNat = c := Char.ofNat_toNat c
  have hvalid : c.val.toNat < 0xD800 ∨ 0xDFFF < c.val.toNat ∧ c.val.toNat < 0x110000 := c.valid
  unfold String.utf8EncodeChar
  generalize c.val.toNat = n at hc hvalid
  by_cases h₁ : n ≤ 0x7F
  · rw [if_pos h₁, List.cons_append, List.nil_append, head?_one (by omega), hc]
    rfl
  by_cases h₂ : n ≤ 0x7FF
  · have hn : (n / 64 % 32 + 0xC0 - 0xC0) * 64 + (n % 64 + 0x80 - 0x80) = n := by omega
    rw [if_neg h₁, if_pos h₂]
    simp only [List.cons_append, List.nil_append]
    rw [head?_two (by omega) (by omega) (by omega) (by omega), hn, hc]
    rfl
  by_cases h₃ : n ≤ 0xFFFF
  · have hn : ((n / 4096 % 16 + 0xE0 - 0xE0) * 64 + (n / 64 % 64 + 0x80 - 0x80)) * 64 +
        (n % 64 + 0x80 - 0x80) = n := by omega
    rw [if_neg h₁, if_neg h₂, if_pos h₃]
    simp only [List.cons_append, List.nil_append]
    rw [head?_three (by omega) (by omega) (by split <;> omega) (by split <;> omega) (by omega)
      (by omega), hn, hc]
    rfl
  · have hn : (((n / 262144 % 8 + 0xF0 - 0xF0) * 64 + (n / 4096 % 64 + 0x80 - 0x80)) * 64 +
        (n / 64 % 64 + 0x80 - 0x80)) * 64 + (n % 64 + 0x80 - 0x80) = n := by omega
    rw [if_neg h₁, if_neg h₂, if_neg h₃]
    simp only [List.cons_append, List.nil_append]
    rw [head?_four (by omega) (by omega) (by split <;> omega) (by split <;> omega) (by omega)
      (by omega) (by omega) (by omega), hn, hc]
    rfl

/-- Bytes that belong to the character read last are passed over. -/
theorem decodeFrom_append (bs rest : Bytes) :
    decodeFrom bs.length (bs ++ rest) = decodeFrom 0 rest := by
  induction bs with
  | nil => rfl
  | cons b bs ih =>
      rw [List.length_cons, List.cons_append, decodeFrom]
      exact ih

theorem decode_encodeChar (c : Char) (rest : Bytes) :
    decode (String.utf8EncodeChar c ++ rest) = some c :: decode rest := by
  have hhead := head?_encodeChar c rest
  have hpos : 0 < (String.utf8EncodeChar c).length := by
    rw [String.length_utf8EncodeChar]
    exact c.utf8Size_pos
  generalize String.utf8EncodeChar c = bs at hhead hpos
  cases bs with
  | nil => exact absurd hpos (Nat.lt_irrefl 0)
  | cons b bs =>
      unfold decode
      rw [List.cons_append] at hhead ⊢
      rw [decodeFrom]
      simp only [hhead, List.length_cons, Nat.add_sub_cancel, decodeFrom_append]

/-- **The bytes of a text decode to its characters.** -/
theorem decode_ofText (s : String) : decode (Bytes.ofText s) = s.toList.map some := by
  rw [Bytes.ofText_eq]
  induction s.toList with
  | nil => rfl
  | cons c cs ih => rw [List.flatMap_cons, decode_encodeChar, ih, List.map_cons]

end Utf8

end Gatehouse
