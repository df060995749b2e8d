import Gatehouse.Bytes.Base64
import Mathlib.Data.List.GetD

/-! # Reading back what Base64 writes

`decodeBare?_encodeBare` says that the bare form of any byte string, over an alphabet of sixty-four
different characters, reads back as that byte string.  The proof has two layers, as the code has:
the sextets of a byte string give it back (`ofSextets?_sextets`), and an alphabet gives each sextet
back from its character (`Alphabet.Proper.value?_char`). -/

namespace Gatehouse.Base64

/-! ### Sextets -/

theorem sextets_lt (bs : Bytes) : ∀ n ∈ sextets bs, n < 64 := by
  fun_induction sextets bs with
  | case1 => simp
  | case2 x =>
      have hx := x.toNat_lt
      simp only [List.mem_cons, List.not_mem_nil, or_false, forall_eq_or_imp, forall_eq]
      omega
  | case3 x y =>
      have hx := x.toNat_lt
      have hy := y.toNat_lt
      simp only [List.mem_cons, List.not_mem_nil, or_false, forall_eq_or_imp, forall_eq]
      omega
  | case4 x y z rest ih =>
      have hx := x.toNat_lt
      have hy := y.toNat_lt
      have hz := z.toNat_lt
      simp only [List.mem_cons, forall_eq_or_imp]
      exact ⟨by omega, by omega, by omega, by omega, ih⟩

/-- The first byte of a group. -/
theorem first_byte (x y : UInt8) :
    UInt8.ofNat (x.toNat / 4 * 4 + (x.toNat % 4 * 16 + y.toNat / 16) / 16) = x := by
  have hy := y.toNat_lt
  have h : x.toNat / 4 * 4 + (x.toNat % 4 * 16 + y.toNat / 16) / 16 = x.toNat := by omega
  rw [h, UInt8.ofNat_toNat]

/-- The second byte of a group. -/
theorem second_byte (x y z : UInt8) :
    UInt8.ofNat ((x.toNat % 4 * 16 + y.toNat / 16) % 16 * 16 +
      (y.toNat % 16 * 4 + z.toNat / 64) / 4) = y := by
  have hy := y.toNat_lt
  have hz := z.toNat_lt
  have h : (x.toNat % 4 * 16 + y.toNat / 16) % 16 * 16 +
      (y.toNat % 16 * 4 + z.toNat / 64) / 4 = y.toNat := by omega
  rw [h, UInt8.ofNat_toNat]

/-- The third byte of a group. -/
theorem third_byte (y z : UInt8) :
    UInt8.ofNat ((y.toNat % 16 * 4 + z.toNat / 64) % 4 * 64 + z.toNat % 64) = z := by
  have hz := z.toNat_lt
  have h : (y.toNat % 16 * 4 + z.toNat / 64) % 4 * 64 + z.toNat % 64 = z.toNat := by omega
  rw [h, UInt8.ofNat_toNat]

theorem ofSextets?_sextets (bs : Bytes) : ofSextets? (sextets bs) = some bs := by
  fun_induction sextets bs with
  | case1 => rfl
  | case2 x =>
      have hx := first_byte x 0
      have hspare : x.toNat % 4 * 16 % 16 = 0 := by omega
      simp only [UInt8.toNat_zero, Nat.zero_div, Nat.add_zero] at hx
      simp only [ofSextets?, if_pos hspare, hx]
  | case3 x y =>
      have hx := first_byte x y
      have hy := second_byte x y 0
      have hspare : y.toNat % 16 * 4 % 4 = 0 := by omega
      simp only [UInt8.toNat_zero, Nat.zero_div, Nat.add_zero] at hy
      simp only [ofSextets?, if_pos hspare, hx, hy]
  | case4 x y z rest ih =>
      simp only [ofSextets?, ih, first_byte, second_byte, third_byte]
      rfl

/-! ### Alphabets -/

/-- The alphabet has sixty-four characters, no two of them the same. -/
structure Alphabet.Proper (a : Alphabet) : Prop where
  length : a.chars.toList.length = 64
  nodup : a.chars.toList.Nodup

theorem proper_urlSafe : urlSafe.Proper := ⟨by decide, by decide⟩

theorem proper_standard : standard.Proper := ⟨by decide, by decide⟩

theorem Alphabet.char_eq {a : Alphabet} (ha : a.Proper) {n : Nat} (hn : n < 64) :
    ∃ h : n < a.chars.toList.length, a.char n = a.chars.toList[n] :=
  ⟨by rw [ha.length]; exact hn, List.getD_eq_getElem _ _ _⟩

theorem Alphabet.Proper.value?_char {a : Alphabet} (ha : a.Proper) {n : Nat} (hn : n < 64) :
    a.value? (a.char n) = some n := by
  obtain ⟨hlt, hchar⟩ := Alphabet.char_eq ha hn
  unfold Alphabet.value?
  rw [hchar, List.idxOf?_eq_some_iff]
  refine ⟨hlt, rfl, fun j hj heq => ?_⟩
  have hij : j = n := (List.getElem_inj ha.nodup).mp heq
  omega

theorem Alphabet.Proper.mapM_value? {a : Alphabet} (ha : a.Proper) {ns : List Nat}
    (hns : ∀ n ∈ ns, n < 64) : (ns.map a.char).mapM a.value? = some ns := by
  induction ns with
  | nil => rfl
  | cons n ns ih =>
      have hn := ha.value?_char (hns n (.head _))
      have hrest := ih fun m hm => hns m (.tail _ hm)
      rw [List.map_cons, List.mapM_cons, hn, hrest]
      rfl

/-- **What Base64 writes reads back.** -/
theorem decodeBare?_encodeBare {a : Alphabet} (ha : a.Proper) (bs : Bytes) :
    decodeBare? a (encodeBare a bs) = some bs := by
  unfold decodeBare? encodeBare
  rw [String.toList_ofList, ha.mapM_value? (sextets_lt bs)]
  exact ofSextets?_sextets bs

/-- The bare form is written in characters of the alphabet. -/
theorem mem_chars_of_mem_encodeBare {a : Alphabet} (ha : a.Proper) {bs : Bytes} {c : Char}
    (hc : c ∈ (encodeBare a bs).toList) : c ∈ a.chars.toList := by
  unfold encodeBare at hc
  rw [String.toList_ofList] at hc
  obtain ⟨n, hn, rfl⟩ := List.mem_map.mp hc
  obtain ⟨_, hchar⟩ := Alphabet.char_eq ha (sextets_lt bs n hn)
  rw [hchar]
  exact List.getElem_mem _

theorem Alphabet.mem_chars_of_mapM_value? {a : Alphabet} :
    ∀ {cs : List Char} {ns : List Nat}, cs.mapM a.value? = some ns → ∀ c ∈ cs, c ∈ a.chars.toList
  | [], _, _, _, hc => by cases hc
  | d :: cs, ns, h, c, hc => by
      rw [List.mapM_cons] at h
      obtain ⟨n, hn, h⟩ := Option.bind_eq_some_iff.mp h
      obtain ⟨rest, hrest, _⟩ := Option.bind_eq_some_iff.mp h
      rcases List.mem_cons.mp hc with rfl | hc
      · obtain ⟨hlt, hget, _⟩ := List.idxOf?_eq_some_iff.mp hn
        rw [← hget]
        exact List.getElem_mem hlt
      · exact mem_chars_of_mapM_value? hrest c hc

/-- What reads as Base64 is written in characters of the alphabet. -/
theorem mem_chars_of_decodeBare? {a : Alphabet} {s : String} {bs : Bytes}
    (h : decodeBare? a s = some bs) {c : Char} (hc : c ∈ s.toList) : c ∈ a.chars.toList := by
  obtain ⟨ns, hns, _⟩ := Option.bind_eq_some_iff.mp h
  exact Alphabet.mem_chars_of_mapM_value? hns c hc

/-! ### The standard form -/

theorem toList_encode (a : Alphabet) (bs : Bytes) : (encode a bs).toList =
    (encodeBare a bs).toList ++ padding (encodeBare a bs).toList.length := by
  unfold encode encodeBare
  rw [String.toList_ofList, String.toList_ofList]

/-- The standard form is written in characters of the alphabet and in the filling. -/
theorem mem_chars_of_mem_encode {a : Alphabet} (ha : a.Proper) {bs : Bytes} {c : Char}
    (hc : c ∈ (encode a bs).toList) : c ∈ a.chars.toList ∨ c = '=' := by
  rw [toList_encode, List.mem_append] at hc
  rcases hc with hc | hc
  · exact .inl (mem_chars_of_mem_encodeBare ha hc)
  · exact .inr (List.eq_of_mem_replicate hc)

theorem length_le_sextets (bs : Bytes) : bs.length ≤ (sextets bs).length := by
  fun_induction sextets bs with
  | case1 => exact Nat.le_refl _
  | case2 x => simp
  | case3 x y => simp
  | case4 x y z rest ih =>
      simp only [List.length_cons]
      omega

/-- There is a character for each byte at least. -/
theorem length_le_encode (a : Alphabet) (bs : Bytes) :
    bs.length ≤ (encode a bs).toList.length := by
  have hsextets := length_le_sextets bs
  rw [toList_encode, encodeBare, String.toList_ofList, List.length_append, List.length_map]
  omega

end Gatehouse.Base64
