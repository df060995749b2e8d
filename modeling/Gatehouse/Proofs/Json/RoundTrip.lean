import Gatehouse.Proofs.Bytes.Utf8
import Gatehouse.Proofs.Json.Literal

/-! # Reading back JSON values

A value without decimals reads back from its compact text (`ofBytes?_compact`).  A decimal is kept
as its literal, and not every literal is the text of a number, so those are left out (`Exact`).

The text of a value is also enough fuel for reading it: each character that is read pays for one
step, the opening bracket of a list for the step into it and the comma behind an item for the step
to the next. -/

namespace Gatehouse.Json

/-- No number of the value is kept as its literal. -/
inductive Exact : Json → Prop
  | null : Exact .null
  | bool (b : Bool) : Exact (.bool b)
  | integer (i : Int) : Exact (.integer i)
  | string (s : Option String) : Exact (.string s)
  | array {items : List Json} (h : ∀ j ∈ items, Exact j) : Exact (.array items)
  | object {members : List (Option String × Json)} (h : ∀ m ∈ members, Exact m.2) :
    Exact (.object members)

/-- The value reads back from its text, whatever follows that cannot prolong a number. -/
def ReadsBack (j : Json) : Prop :=
  ∀ (fuel : Nat) (rest : Input), j.chars.length ≤ fuel → Ends rest →
    value? fuel (input j.chars ++ rest) = some (j, rest)

/-! ### Values without parts -/

theorem digit_ne {d c : Char} (hd : d.isDigit = true) (hc : c.isDigit = false) : d ≠ c := by
  rintro rfl
  rw [hd] at hc
  cases hc

theorem isSpace_digit {d : Char} (hd : d.isDigit = true) : isSpace (some d) = false := by
  have hblank := digit_ne (c := ' ') hd (by decide)
  have hline := digit_ne (c := '\n') hd (by decide)
  have htab := digit_ne (c := '\t') hd (by decide)
  have hreturn := digit_ne (c := '\r') hd (by decide)
  simp only [isSpace, hblank, hline, htab, hreturn, decide_false, Bool.or_self]

theorem value?_of_digit {d : Char} (hd : d.isDigit = true) (fuel : Nat) (cs : Input) :
    value? (fuel + 1) (some d :: cs) = number? false (some d :: cs) := by
  rw [value?, skipSpace_cons (isSpace_digit hd)]
  split
  case h_8 => rfl
  all_goals
    rename_i heq
    exact absurd (Option.some.inj (List.cons.inj heq).1) (digit_ne hd (by decide))

theorem toDigits_cons (n : Nat) : ∃ d ds, Nat.toDigits 10 n = d :: ds ∧ d.isDigit = true := by
  cases h : Nat.toDigits 10 n with
  | nil => exact absurd h Nat.toDigits_ne_nil
  | cons d ds =>
      have hd : d ∈ Nat.toDigits 10 n := by
        rw [h]
        exact .head _
      exact ⟨d, ds, rfl, Nat.isDigit_of_mem_toDigits (by decide) (by decide) hd⟩

theorem readsBack_null : ReadsBack .null := by
  intro fuel rest hfuel _
  cases fuel with
  | zero => cases hfuel
  | succ fuel => rfl

theorem readsBack_bool (b : Bool) : ReadsBack (.bool b) := by
  intro fuel rest hfuel _
  cases fuel with
  | zero => cases b <;> cases hfuel
  | succ fuel => cases b <;> rfl

theorem readsBack_integer (i : Int) : ReadsBack (.integer i) := by
  intro fuel rest hfuel hrest
  obtain ⟨d, ds, hdigits, hd⟩ := toDigits_cons i.natAbs
  cases fuel with
  | zero =>
      have hlength : (Json.integer i).chars.length = 0 := Nat.le_zero.mp hfuel
      rw [chars, integerChars, hdigits] at hlength
      split at hlength <;> cases hlength
  | succ fuel =>
      rw [chars, integerChars]
      by_cases hi : i < 0
      · have hread := number?_toDigits true (n := i.natAbs) (by omega) hrest
        have hneg : -(i.natAbs : Int) = i := by omega
        rw [if_pos rfl, hneg] at hread
        rw [if_pos hi, input_cons, List.cons_append, value?, skipSpace_cons (by decide)]
        exact hread
      · have hread := number?_toDigits false (n := i.natAbs) nofun hrest
        have hpos : (i.natAbs : Int) = i := by omega
        rw [if_neg (by decide), hpos] at hread
        rw [if_neg hi, hdigits, input_cons, List.cons_append, value?_of_digit hd]
        rw [hdigits] at hread
        exact hread

theorem readsBack_string (s : Option String) : ReadsBack (.string s) := by
  intro fuel rest hfuel _
  obtain ⟨cs, hcs⟩ := stringChars_eq s
  rw [chars, hcs] at hfuel ⊢
  cases fuel with
  | zero => cases hfuel
  | succ fuel =>
      rw [input_cons, List.cons_append, value?, skipSpace_cons (by decide)]
      simp only [string?_stringChars hcs]
      rfl

/-! ### Lists and objects -/

/-- No value begins with a blank or a closing bracket. -/
theorem Exact.first {j : Json} (h : Exact j) :
    ∃ c cs, j.chars = c :: cs ∧ isSpace (some c) = false ∧ c ≠ ']' := by
  cases h with
  | null => exact ⟨_, _, rfl, by decide, by decide⟩
  | bool b => cases b <;> exact ⟨_, _, rfl, by decide, by decide⟩
  | integer i =>
      obtain ⟨d, ds, hdigits, hd⟩ := toDigits_cons i.natAbs
      rw [chars, integerChars]
      by_cases hi : i < 0
      · rw [if_pos hi]
        exact ⟨_, _, rfl, by decide, by decide⟩
      · rw [if_neg hi]
        exact ⟨d, ds, hdigits, isSpace_digit hd, digit_ne hd (by decide)⟩
  | string s =>
      obtain ⟨cs, hcs⟩ := stringChars_eq s
      exact ⟨_, cs, hcs, by decide, by decide⟩
  | array _ => exact ⟨_, _, rfl, by decide, by decide⟩
  | object _ => exact ⟨_, _, rfl, by decide, by decide⟩

theorem items?_itemsChars {items : List Json} (hne : items ≠ [])
    (h : ∀ j ∈ items, ReadsBack j) (fuel : Nat) (rest : Input)
    (hfuel : (itemsChars items).length ≤ fuel) :
    items? fuel (input (itemsChars items) ++ rest) = some (items, rest) := by
  induction items generalizing fuel with
  | nil => exact absurd rfl hne
  | cons j items ih =>
      have hj := h j (.head _)
      cases items with
      | nil =>
          rw [itemsChars] at hfuel ⊢
          rw [List.length_append, List.length_singleton] at hfuel
          cases fuel with
          | zero => omega
          | succ fuel =>
              have hread := hj fuel (some ']' :: rest) (by omega)
                (ends_cons (by decide) (by decide) (by decide) (by decide) rest)
              rw [items?, input_append, List.append_assoc, input_cons, input_nil, List.cons_append,
                List.nil_append, hread]
              rfl
      | cons k items =>
          rw [itemsChars] at hfuel ⊢
          rw [List.length_append, List.length_cons] at hfuel
          cases fuel with
          | zero => omega
          | succ fuel =>
              have hread := hj fuel (some ',' :: (input (itemsChars (k :: items)) ++ rest))
                (by omega) (ends_cons (by decide) (by decide) (by decide) (by decide) _)
              have hrest := ih (List.cons_ne_nil k items) (fun j hj => h j (.tail _ hj)) fuel
                (by omega)
              rw [items?, input_append, List.append_assoc, input_cons, List.cons_append, hread]
              simp only [Option.bind_eq_bind, Option.bind_some, skipSpace_cons (show
                isSpace (some ',') = false by decide), hrest]
              rfl

theorem itemsChars_first {j : Json} (hj : Exact j) (items : List Json) :
    ∃ c cs, itemsChars (j :: items) = c :: cs ∧ isSpace (some c) = false ∧ c ≠ ']' := by
  obtain ⟨c, cs, hcs, hspace, hc⟩ := hj.first
  cases items with
  | nil =>
      rw [itemsChars, hcs]
      exact ⟨c, _, rfl, hspace, hc⟩
  | cons k items =>
      rw [itemsChars, hcs]
      exact ⟨c, _, rfl, hspace, hc⟩

theorem readsBack_array {items : List Json} (hexact : ∀ j ∈ items, Exact j)
    (h : ∀ j ∈ items, ReadsBack j) : ReadsBack (.array items) := by
  intro fuel rest hfuel _
  rw [chars, List.length_cons] at hfuel
  rw [chars, input_cons, List.cons_append]
  cases fuel with
  | zero => omega
  | succ fuel =>
      rw [value?, skipSpace_cons (by decide)]
      cases items with
      | nil => rfl
      | cons j items =>
          obtain ⟨c, cs, hcs, hspace, hc⟩ := itemsChars_first (hexact j (.head _)) items
          have hitems := items?_itemsChars (List.cons_ne_nil j items) h fuel rest (by omega)
          rw [hcs, input_cons, List.cons_append] at hitems ⊢
          simp only [skipSpace_cons hspace]
          split
          · rename_i heq
            exact absurd (Option.some.inj (List.cons.inj heq).1) hc
          · rw [hitems]
            rfl

theorem members?_last {name : Option String} {j : Json} {fuel : Nat} {cs : List Char}
    {rest rest' : Input} (h : value? fuel (input cs ++ rest) = some (j, some '\x7d' :: rest')) :
    members? (fuel + 1) (input (stringChars name ++ ':' :: cs) ++ rest) =
      some ([(name, j)], rest') := by
  obtain ⟨ns, hns⟩ := stringChars_eq name
  rw [hns, input_append, input_cons, input_cons, List.cons_append, List.cons_append,
    List.append_assoc, List.cons_append, members?, skipSpace_cons (by decide)]
  simp only [string?_stringChars hns, Option.bind_eq_bind, Option.bind_some,
    skipSpace_cons (show isSpace (some ':') = false by decide), h]
  rfl

theorem members?_more {name : Option String} {j : Json} {fuel : Nat} {cs : List Char}
    {rest rest' rest'' : Input} {members : List (Option String × Json)}
    (h : value? fuel (input cs ++ rest) = some (j, some ',' :: rest'))
    (hmore : members? fuel rest' = some (members, rest'')) :
    members? (fuel + 1) (input (stringChars name ++ ':' :: cs) ++ rest) =
      some ((name, j) :: members, rest'') := by
  obtain ⟨ns, hns⟩ := stringChars_eq name
  rw [hns, input_append, input_cons, input_cons, List.cons_append, List.cons_append,
    List.append_assoc, List.cons_append, members?, skipSpace_cons (by decide)]
  simp only [string?_stringChars hns, Option.bind_eq_bind, Option.bind_some,
    skipSpace_cons (show isSpace (some ':') = false by decide), h,
    skipSpace_cons (show isSpace (some ',') = false by decide), hmore]
  rfl

theorem members?_membersChars {members : List (Option String × Json)} (hne : members ≠ [])
    (h : ∀ m ∈ members, ReadsBack m.2) (fuel : Nat) (rest : Input)
    (hfuel : (membersChars members).length ≤ fuel) :
    members? fuel (input (membersChars members) ++ rest) = some (members, rest) := by
  induction members generalizing fuel with
  | nil => exact absurd rfl hne
  | cons m members ih =>
      obtain ⟨name, j⟩ := m
      have hj : ReadsBack j := h (name, j) (.head _)
      cases members with
      | nil =>
          rw [membersChars] at hfuel ⊢
          simp only [List.length_append, List.length_cons, List.length_nil] at hfuel
          cases fuel with
          | zero => omega
          | succ fuel =>
              have hread := hj fuel (some '\x7d' :: rest) (by omega)
                (ends_cons (by decide) (by decide) (by decide) (by decide) rest)
              refine members?_last ?_
              rw [input_append, List.append_assoc, input_cons, input_nil, List.cons_append,
                List.nil_append, hread]
      | cons k members =>
          rw [membersChars] at hfuel ⊢
          simp only [List.length_append, List.length_cons] at hfuel
          cases fuel with
          | zero => omega
          | succ fuel =>
              have hread := hj fuel (some ',' :: (input (membersChars (k :: members)) ++ rest))
                (by omega) (ends_cons (by decide) (by decide) (by decide) (by decide) _)
              have hrest := ih (List.cons_ne_nil k members) (fun m hm => h m (.tail _ hm)) fuel
                (by omega)
              refine members?_more ?_ hrest
              rw [input_append, List.append_assoc, input_cons, List.cons_append, hread]

theorem membersChars_first (m : Option String × Json) (members : List (Option String × Json)) :
    ∃ cs, membersChars (m :: members) = '"' :: cs := by
  obtain ⟨name, j⟩ := m
  obtain ⟨ns, hns⟩ := stringChars_eq name
  cases members with
  | nil =>
      rw [membersChars, hns]
      exact ⟨_, rfl⟩
  | cons k members =>
      rw [membersChars, hns]
      exact ⟨_, rfl⟩

theorem readsBack_object {members : List (Option String × Json)}
    (h : ∀ m ∈ members, ReadsBack m.2) : ReadsBack (.object members) := by
  intro fuel rest hfuel _
  rw [chars, List.length_cons] at hfuel
  rw [chars, input_cons, List.cons_append]
  cases fuel with
  | zero => omega
  | succ fuel =>
      rw [value?, skipSpace_cons (by decide)]
      cases members with
      | nil => rfl
      | cons m members =>
          obtain ⟨cs, hcs⟩ := membersChars_first m members
          have hmembers := members?_membersChars (List.cons_ne_nil m members) h fuel rest (by omega)
          rw [hcs, input_cons, List.cons_append] at hmembers ⊢
          simp only [skipSpace_cons (show isSpace (some '"') = false by decide), hmembers]
          rfl

/-! ### Whole texts -/

/-- **A value without decimals reads back**, by induction on the value. -/
theorem Exact.readsBack {j : Json} (h : Exact j) : ReadsBack j := by
  induction h with
  | null => exact readsBack_null
  | bool b => exact readsBack_bool b
  | integer i => exact readsBack_integer i
  | string s => exact readsBack_string s
  | array hexact ih => exact readsBack_array hexact ih
  | object _ ih => exact readsBack_object ih

theorem ofInput?_chars {j : Json} (h : Exact j) : ofInput? (input j.chars) = some j := by
  have hread := h.readsBack (2 * (input j.chars).length + 2) [] (by simp [input]; omega) ends_nil
  rw [List.append_nil] at hread
  unfold ofInput? leading?
  rw [hread]
  rfl

/-- **The bytes that are written for a value without decimals read back as the value.** -/
theorem ofBytes?_compact {j : Json} (h : Exact j) : ofBytes? (Bytes.ofText j.compact) = some j := by
  unfold ofBytes? compact
  rw [Utf8.decode_ofText, String.toList_ofList]
  exact ofInput?_chars h

end Gatehouse.Json
