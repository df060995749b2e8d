import Gatehouse.Http.Message
import Gatehouse.Proofs.Bytes.Utf8
import Gatehouse.Proofs.Token.RoundTrip

/-! # Tokens in headers

The value of a header is text only if its bytes are printable, and the bearer in it is trimmed.  A
token is written in letters, digits, `-`, `_` and dots, so none of this touches it: who puts an issued
token behind `Bearer` presents just this token (`bearer?_of_issue`). -/

namespace Gatehouse

/-! ### Characters of tokens -/

namespace Token

/-- The character is printable ASCII and no blank. -/
def IsPlain (c : Char) : Prop := 0x20 < c.toNat ∧ c.toNat < 0x7F

instance (c : Char) : Decidable (IsPlain c) := inferInstanceAs (Decidable (_ ∧ _))

theorem isPlain_segment {bs : Bytes} {c : Char} (hc : c ∈ (segment bs).toList) : IsPlain c := by
  have hall : Base64.urlSafe.chars.toList.all (fun c => decide (IsPlain c)) = true := by decide
  have hmem := Base64.mem_chars_of_mem_encodeBare Base64.proper_urlSafe hc
  exact of_decide_eq_true (List.all_eq_true.mp hall c hmem)

theorem isPlain_encode {s : TokenSettings} {claims : AccessClaims} {c : Char}
    (hc : c ∈ (encode s claims).toList) : IsPlain c := by
  have hdot : ∀ c ∈ (".": String).toList, IsPlain c := List.forall_mem_singleton.mpr (by decide)
  unfold encode at hc
  simp only [String.toList_append, List.mem_append] at hc
  rcases hc with (((hc | hc) | hc) | hc) | hc
  · exact isPlain_segment hc
  · exact hdot c hc
  · exact isPlain_segment hc
  · exact hdot c hc
  · exact isPlain_segment hc

/-- A token is not empty. -/
theorem encode_ne_empty (s : TokenSettings) (claims : AccessClaims) : encode s claims ≠ "" := by
  intro h
  have hlist := congrArg String.toList h
  simp [encode, String.toList_append] at hlist

end Token

/-! ### Values of headers -/

namespace Text

theorem trimStart_of_notBlank {cs : List Char} (h : ∀ c ∈ cs, isBlank c = false) :
    trimStart cs = cs :=
  List.dropWhile_eq_self_iff.mpr fun hl => by simp [h _ (List.getElem_mem hl)]

theorem nonBlank?_of_notBlank {s : String} (hne : s ≠ "") (h : ∀ c ∈ s.toList, isBlank c = false) :
    nonBlank? s = some s := by
  have htrim : trim s = s := by
    have hreverse : trimStart s.toList.reverse = s.toList.reverse :=
      trimStart_of_notBlank fun c hc => h c (List.mem_reverse.mp hc)
    unfold trim trimChars trimEnd
    rw [trimStart_of_notBlank h]
    change String.ofList (trimStart s.toList.reverse).reverse = s
    rw [hreverse, List.reverse_reverse, String.ofList_toList]
  unfold nonBlank?
  simp [htrim, hne]

end Text

namespace Http.Request

variable {r : Request} {s : String}

/-- Printable ASCII is read from the value of a header as it was written. -/
theorem valueText?_ofText (h : ∀ c ∈ s.toList, 0x20 ≤ c.toNat ∧ c.toNat < 0x7F) :
    valueText? (Bytes.ofText s) = some s := by
  have hbyte : ∀ c ∈ s.toList, String.utf8EncodeChar c = [UInt8.ofNat c.toNat] := by
    intro c hc
    exact if_pos (show c.toNat ≤ 127 by have := (h c hc).2; omega)
  have hbytes : Bytes.ofText s = s.toList.map fun c => UInt8.ofNat c.toNat := by
    rw [Bytes.ofText_eq, List.flatMap_congr hbyte, List.map_eq_flatMap]
  have hnumber : ∀ c ∈ s.toList, (UInt8.ofNat c.toNat).toNat = c.toNat := fun c hc =>
    Utf8.toNat_ofNat (by have := (h c hc).2; omega)
  have hprintable : (Bytes.ofText s).all isPrintable = true := by
    rw [hbytes, List.all_map, List.all_eq_true]
    intro c hc
    obtain ⟨hlow, hhigh⟩ := h c hc
    have hlow' : (0x20 : UInt8) ≤ UInt8.ofNat c.toNat := by
      rw [UInt8.le_iff_toNat_le, hnumber c hc]
      exact hlow
    have hhigh' : UInt8.ofNat c.toNat < (0x7F : UInt8) := by
      rw [UInt8.lt_iff_toNat_lt, hnumber c hc]
      exact hhigh
    have hne : UInt8.ofNat c.toNat ≠ 0x7F := UInt8.ne_of_lt hhigh'
    simp [isPrintable, isValueByte, hlow', hhigh', hne]
  unfold valueText?
  rw [if_pos hprintable, hbytes, List.map_map]
  refine congrArg some (String.toList_inj.mp ?_)
  rw [String.toList_ofList]
  refine (List.map_congr_left fun c hc => ?_).trans (List.map_id _)
  change Char.ofNat (UInt8.ofNat c.toNat).toNat = c
  rw [hnumber c hc, Char.ofNat_toNat]

/-- **An issued token is presented as it is.** -/
theorem bearer?_of_issue {settings : TokenSettings} {now : Instant} {tokenId : Uuid}
    {identity : Identity} {access : Access} {issued : IssuedToken}
    (hissue : Token.issue settings now tokenId identity access = some issued)
    (hheader : r.header? "authorization" = some (Bytes.ofText ("Bearer " ++ issued.token))) :
    r.bearer? = some issued.token := by
  obtain ⟨claims, htoken⟩ : ∃ claims, issued.token = Token.encode settings claims := by
    obtain ⟨expiresAt, _, h⟩ := Option.bind_eq_some_iff.mp hissue
    cases h
    exact ⟨_, rfl⟩
  have hplain : ∀ c ∈ issued.token.toList, Token.IsPlain c := by
    rw [htoken]
    exact fun c hc => Token.isPlain_encode hc
  have hvalue : ∀ c ∈ ("Bearer " ++ issued.token).toList, 0x20 ≤ c.toNat ∧ c.toNat < 0x7F := by
    intro c hc
    rw [String.toList_append, List.mem_append] at hc
    rcases hc with hc | hc
    · have hall : "Bearer ".toList.all (fun c => decide (0x20 ≤ c.toNat ∧ c.toNat < 0x7F)) = true := by
        decide
      exact of_decide_eq_true (List.all_eq_true.mp hall c hc)
    · exact ⟨(hplain c hc).1.le, (hplain c hc).2⟩
  have hblank : ∀ c ∈ issued.token.toList, Text.isBlank c = false := by
    intro c hc
    obtain ⟨hlow, hhigh⟩ := hplain c hc
    grind [Text.isBlank]
  have hne : issued.token ≠ "" := htoken ▸ Token.encode_ne_empty settings claims
  unfold bearer? text?
  rw [hheader, Option.bind_some, valueText?_ofText hvalue]
  simp only [Option.bind_eq_bind, Option.bind_some, Text.behind?_append, Option.orElse_eq_orElse,
    Option.orElse_some]
  exact Text.nonBlank?_of_notBlank hne hblank

end Http.Request

end Gatehouse
