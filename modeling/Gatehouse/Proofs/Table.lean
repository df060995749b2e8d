import Gatehouse.Table
import Mathlib.Data.List.Nodup

/-! # What a table holds

A table is looked at in two ways: through `get?`, which sees one key, and through the list of its
values, which is what the searches of the store go through.  On a table in which no key occurs twice
(`Table.Distinct`) the two agree (`mem_values`), and the operations keep it so: inserting adds a key
at most once (`Distinct.insert`), a function applied to the values leaves the keys alone
(`Distinct.map`), and leaving out entries leaves the others where they are (`get?_filter`).  Records
that are put in under a key of their own are found under it (`Edited.keyed`), and records that
differ in something go on doing so (`Differing.insert`, `Differing.modify`).  A search that at most
one value passes finds the same value in every order of the values (`find?_eq_of_perm`). -/

namespace Gatehouse.Table

variable {κ α : Type} {t : Table κ α}

theorem distinct_empty : (empty : Table κ α).Distinct := List.nodup_nil

theorem keys_map (f : κ → α → α) : (t.map f).keys = t.keys := by
  unfold keys map
  rw [List.map_map]
  rfl

theorem Distinct.map (hd : t.Distinct) (f : κ → α → α) : (t.map f).Distinct := by
  rw [Distinct, keys_map]
  exact hd

theorem Distinct.filter (hd : t.Distinct) (p : κ → α → Bool) : (t.filter p).Distinct := by
  have hsub : (t.filter p).keys.Sublist t.keys := List.filter_sublist.map _
  exact hd.sublist hsub

/-! ### Functions applied to the values -/

theorem map_congr {f g : κ → α → α} (h : ∀ k a, (k, a) ∈ t.entries → f k a = g k a) :
    t.map f = t.map g :=
  congrArg mk (List.map_congr_left fun e he => Prod.ext rfl (h e.1 e.2 he))

/-- A function that changes no value changes nothing. -/
theorem map_eq_self {f : κ → α → α} (h : ∀ k a, (k, a) ∈ t.entries → f k a = a) :
    t.map f = t := by
  have hid : t.map (fun _ a => a) = t := congrArg mk (List.map_id _)
  rw [map_congr h, hid]

theorem map_map (t : Table κ α) (f g : κ → α → α) :
    (t.map f).map g = t.map fun k a => g k (f k a) := by
  unfold map
  rw [List.map_map]
  rfl

variable [DecidableEq κ]

/-! ### Entries and keys -/

theorem mem_entries_of_get? {k : κ} {a : α} (h : t.get? k = some a) : (k, a) ∈ t.entries := by
  unfold get? at h
  obtain ⟨e, he, rfl⟩ := Option.map_eq_some_iff.mp h
  have hk : e.1 = k := by simpa using List.find?_some he
  rw [← hk]
  exact List.mem_of_find?_eq_some he

/-- The value at a key is the one listed under it. -/
theorem get?_of_mem_entries (hd : t.Distinct) {k : κ} {a : α} (h : (k, a) ∈ t.entries) :
    t.get? k = some a := by
  obtain ⟨es⟩ := t
  unfold Distinct keys at hd
  unfold get?
  induction es with
  | nil => cases h
  | cons e rest ih =>
      rw [List.map_cons, List.nodup_cons] at hd
      rw [List.find?_cons]
      rcases List.mem_cons.mp h with rfl | hr
      · simp
      · have hne : e.1 ≠ k := fun hk => hd.1 (List.mem_map.mpr ⟨(k, a), hr, hk.symm⟩)
        rw [decide_eq_false hne]
        exact ih hd.2 hr

theorem mem_entries (hd : t.Distinct) {k : κ} {a : α} :
    (k, a) ∈ t.entries ↔ t.get? k = some a :=
  ⟨get?_of_mem_entries hd, mem_entries_of_get?⟩

/-- A value is listed if and only if it lies under some key. -/
theorem mem_values (hd : t.Distinct) {a : α} : a ∈ t.values ↔ ∃ k, t.get? k = some a := by
  unfold values
  rw [List.mem_map]
  constructor
  · rintro ⟨⟨k, _⟩, he, rfl⟩
    exact ⟨k, get?_of_mem_entries hd he⟩
  · rintro ⟨k, h⟩
    exact ⟨(k, a), mem_entries_of_get? h, rfl⟩

/-- A key is listed if and only if something lies under it. -/
theorem mem_keys (hd : t.Distinct) {k : κ} : k ∈ t.keys ↔ ∃ a, t.get? k = some a := by
  unfold keys
  rw [List.mem_map]
  constructor
  · rintro ⟨⟨_, a⟩, he, rfl⟩
    exact ⟨a, get?_of_mem_entries hd he⟩
  · rintro ⟨a, h⟩
    exact ⟨(k, a), mem_entries_of_get? h, rfl⟩

theorem any_of_get? {k : κ} {a : α} {p : α → Bool} (h : t.get? k = some a) (hp : p a = true) :
    t.any p = true :=
  List.any_eq_true.mpr ⟨a, List.mem_map_of_mem (mem_entries_of_get? h), hp⟩

theorem has_of_get? {k : κ} {a : α} (h : t.get? k = some a) : t.has k = true :=
  List.any_eq_true.mpr ⟨(k, a), mem_entries_of_get? h, decide_eq_true rfl⟩

/-- A change at a key without a value changes nothing. -/
theorem modify_of_not_has {k : κ} (h : t.has k = false) (f : α → α) : t.modify k f = t := by
  refine map_eq_self fun k' a ha => if_neg ?_
  rintro rfl
  exact List.any_eq_false.mp h _ ha (decide_eq_true rfl)

theorem any_iff (hd : t.Distinct) {p : α → Bool} :
    t.any p = true ↔ ∃ k a, t.get? k = some a ∧ p a = true := by
  unfold any
  rw [List.any_eq_true]
  constructor
  · rintro ⟨a, ha, hp⟩
    obtain ⟨k, hk⟩ := (mem_values hd).mp ha
    exact ⟨k, a, hk, hp⟩
  · rintro ⟨k, a, hk, hp⟩
    exact ⟨a, (mem_values hd).mpr ⟨k, hk⟩, hp⟩

/-! ### Operations -/

theorem insertEntry_of_notMem {k : κ} (a : α) :
    ∀ {es : List (κ × α)}, k ∉ es.map (·.1) → insertEntry k a es = es ++ [(k, a)]
  | [], _ => rfl
  | e :: rest, h => by
      rw [List.map_cons, List.mem_cons, not_or] at h
      rw [insertEntry, if_neg (Ne.symm h.1), insertEntry_of_notMem a h.2, List.cons_append]

theorem map_insertEntry_of_mem {k : κ} (a : α) :
    ∀ {es : List (κ × α)}, k ∈ es.map (·.1) → (insertEntry k a es).map (·.1) = es.map (·.1)
  | [], h => by cases h
  | e :: rest, h => by
      rw [insertEntry]
      by_cases he : e.1 = k
      · rw [if_pos he, List.map_cons, List.map_cons, he]
      · have hr : k ∈ rest.map (·.1) := by
          rcases List.mem_cons.mp h with hk | hr
          · exact absurd hk.symm he
          · exact hr
        rw [if_neg he, List.map_cons, List.map_cons, map_insertEntry_of_mem a hr]

theorem keys_insert_of_notMem {k : κ} (a : α) (hk : k ∉ t.keys) :
    (t.insert k a).keys = t.keys ++ [k] := by
  unfold keys Table.insert
  rw [insertEntry_of_notMem a hk, List.map_append]
  rfl

/-- A value under a new key is listed last. -/
theorem values_insert_of_notMem {k : κ} (a : α) (hk : k ∉ t.keys) :
    (t.insert k a).values = t.values ++ [a] := by
  unfold values Table.insert
  rw [insertEntry_of_notMem a hk, List.map_append]
  rfl

theorem Distinct.insert (hd : t.Distinct) (k : κ) (a : α) : (t.insert k a).Distinct := by
  by_cases h : k ∈ t.keys
  · have hk : (t.insert k a).keys = t.keys := map_insertEntry_of_mem a h
    rw [Distinct, hk]
    exact hd
  · rw [Distinct, keys_insert_of_notMem a h, List.nodup_append]
    refine ⟨hd, List.nodup_singleton k, ?_⟩
    intro x hx y hy hxy
    rw [List.mem_singleton] at hy
    exact h (hy ▸ hxy ▸ hx)

theorem Distinct.modify (hd : t.Distinct) (k : κ) (f : α → α) : (t.modify k f).Distinct :=
  hd.map _

/-- An entry after an insertion is the one put in, or was there. -/
theorem mem_entries_insert {k : κ} {a : α} {e : κ × α} (h : e ∈ (t.insert k a).entries) :
    e = (k, a) ∨ e ∈ t.entries := by
  obtain ⟨es⟩ := t
  unfold Table.insert at h
  induction es with
  | nil => exact .inl (List.mem_singleton.mp h)
  | cons first rest ih =>
      rw [insertEntry] at h
      split_ifs at h with hk
      · exact (List.mem_cons.mp h).imp_right (List.mem_cons_of_mem first)
      · rcases List.mem_cons.mp h with rfl | h
        · exact .inr List.mem_cons_self
        · exact (ih h).imp_right (List.mem_cons_of_mem first)

theorem has_insert_of_has {k k' : κ} {a : α} (h : t.has k' = true) :
    (t.insert k a).has k' = true := by
  obtain ⟨es⟩ := t
  unfold has Table.insert at *
  induction es with
  | nil => cases h
  | cons first rest ih =>
      rw [List.any_cons, Bool.or_eq_true] at h
      rw [insertEntry]
      split_ifs with hk
      · rw [List.any_cons, Bool.or_eq_true, ← hk]
        exact h
      · rw [List.any_cons, Bool.or_eq_true]
        exact h.imp_right ih

theorem has_map (f : κ → α → α) {k : κ} : (t.map f).has k = t.has k := by
  unfold has map
  rw [List.any_map]
  rfl

/-- Leaving out entries leaves the others where they are. -/
theorem get?_filter (hd : t.Distinct) (p : κ → α → Bool) {k : κ} {a : α} :
    (t.filter p).get? k = some a ↔ t.get? k = some a ∧ p k a = true := by
  rw [← mem_entries (hd.filter p), ← mem_entries hd]
  exact List.mem_filter

/-! ### Records under keys of their own -/

section Edited

variable (key : α → κ)

/-- Each record lies under its own key. -/
def Keyed (t : Table κ α) : Prop := ∀ ⦃k a⦄, t.get? k = some a → key a = k

/-- A table of records after at most one edit: a record is put in under its key, or what lies under
a key is changed in something other than its key. -/
inductive Edited (t : Table κ α) : Table κ α → Prop
  | same : Edited t t
  | insert (a : α) : Edited t (t.insert (key a) a)
  | modify (k : κ) (f : α → α) (hf : ∀ a, key (f a) = key a) : Edited t (t.modify k f)

variable {key} {t' : Table κ α}

theorem Edited.distinct (h : Edited key t t') (hd : t.Distinct) : t'.Distinct := by
  cases h with
  | same => exact hd
  | insert a => exact hd.insert (key a) a
  | modify k f _ => exact hd.modify k f

theorem Edited.keyed (h : Edited key t t') (hk : t.Keyed key) : t'.Keyed key := by
  cases h with
  | same => exact hk
  | insert a =>
      intro k b hb
      rw [get?_insert] at hb
      split_ifs at hb with heq
      · cases hb
        exact heq
      · exact hk hb
  | modify k' f hf =>
      intro k b hb
      rw [get?_modify] at hb
      split_ifs at hb with heq
      · obtain ⟨a, ha, rfl⟩ := Option.map_eq_some_iff.mp hb
        rw [hf, hk ha]
      · exact hk hb

end Edited

/-! ### Records that differ in something -/

section Differing

variable {β : Type} {f : α → β}

/-- Records under different keys have different values of a function. -/
def Differing (f : α → β) (t : Table κ α) : Prop :=
  ∀ ⦃k k' a a'⦄, t.get? k = some a → t.get? k' = some a' → f a = f a' → k = k'

theorem Differing.insert (h : t.Differing f) (k : κ) {a : α}
    (hnew : ∀ k' a', t.get? k' = some a' → f a' ≠ f a) : (t.insert k a).Differing f := by
  intro k₁ k₂ a₁ a₂ h₁ h₂ heq
  rw [get?_insert] at h₁ h₂
  split_ifs at h₁ h₂ with hk₁ hk₂ hk₂
  · rw [← hk₁, ← hk₂]
  · cases h₁
    exact absurd heq.symm (hnew k₂ a₂ h₂)
  · cases h₂
    exact absurd heq (hnew k₁ a₁ h₁)
  · exact h h₁ h₂ heq

theorem Differing.modify (h : t.Differing f) (k : κ) {g : α → α} (hg : ∀ a, f (g a) = f a) :
    (t.modify k g).Differing f := by
  have hbefore : ∀ {k' a'}, (t.modify k g).get? k' = some a' →
      ∃ a, t.get? k' = some a ∧ f a' = f a := by
    intro k' a' hk'
    rw [get?_modify] at hk'
    split_ifs at hk' with heq
    · obtain ⟨a, ha, rfl⟩ := Option.map_eq_some_iff.mp hk'
      exact ⟨a, ha, hg a⟩
    · exact ⟨a', hk', rfl⟩
  intro k₁ k₂ a₁ a₂ h₁ h₂ heq
  obtain ⟨b₁, hb₁, hf₁⟩ := hbefore h₁
  obtain ⟨b₂, hb₂, hf₂⟩ := hbefore h₂
  exact h hb₁ hb₂ (hf₁.symm.trans (heq.trans hf₂))

/-- What the values differ in goes on to differ if a value is put in that has something new. -/
theorem nodup_map_values_insert {k : κ} {a : α} (h : (t.values.map f).Nodup)
    (hnew : ∀ b ∈ t.values, f b ≠ f a) : ((t.insert k a).values.map f).Nodup := by
  obtain ⟨es⟩ := t
  unfold values Table.insert at *
  induction es with
  | nil => exact List.nodup_singleton (f a)
  | cons first rest ih =>
      rw [List.map_cons, List.map_cons, List.nodup_cons] at h
      rw [List.map_cons, List.forall_mem_cons] at hnew
      rw [insertEntry]
      split_ifs with hk
      · refine List.nodup_cons.mpr ⟨fun hmem => ?_, h.2⟩
        obtain ⟨b, hb, heq⟩ := List.mem_map.mp hmem
        exact hnew.2 b hb heq
      · refine List.nodup_cons.mpr ⟨fun hmem => ?_, ih h.2 hnew.2⟩
        obtain ⟨b, hb, heq⟩ := List.mem_map.mp hmem
        obtain ⟨e, he, rfl⟩ := List.mem_map.mp hb
        rcases mem_entries_insert (t := ⟨rest⟩) he with rfl | he
        · exact hnew.1 heq.symm
        · exact h.1 (List.mem_map.mpr ⟨e.2, List.mem_map_of_mem he, heq⟩)

/-- A change of something else leaves what the values differ in. -/
theorem map_values_modify (k : κ) {g : α → α} (hg : ∀ a, f (g a) = f a) :
    (t.modify k g).values.map f = t.values.map f := by
  unfold values modify Table.map
  rw [List.map_map, List.map_map, List.map_map]
  refine List.map_congr_left fun e _ => ?_
  simp only [Function.comp_apply]
  split_ifs with hk
  · exact hg e.2
  · rfl

end Differing

/-! ### Inserting one record after another -/

/-- The table with records put in, each under its key. -/
def insertAll (t : Table κ α) (key : α → κ) (as : List α) : Table κ α :=
  as.foldl (fun t a => t.insert (key a) a) t

variable {key : α → κ}

theorem Distinct.insertAll (hd : t.Distinct) (as : List α) : (t.insertAll key as).Distinct := by
  induction as generalizing t with
  | nil => exact hd
  | cons a as ih => exact ih (hd.insert (key a) a)

/-- A key that is none of theirs keeps its value. -/
theorem get?_insertAll_of_notMem {as : List α} {k : κ} (hk : k ∉ as.map key) :
    (t.insertAll key as).get? k = t.get? k := by
  induction as generalizing t with
  | nil => rfl
  | cons a as ih =>
      rw [List.map_cons, List.mem_cons, not_or] at hk
      have hrest : ((t.insert (key a) a).insertAll key as).get? k = (t.insert (key a) a).get? k :=
        ih hk.2
      rw [get?_insert, if_neg (Ne.symm hk.1)] at hrest
      exact hrest

/-- If their keys differ, each record is found under its key. -/
theorem get?_insertAll_of_mem {as : List α} (hkeys : (as.map key).Nodup) {a : α} (ha : a ∈ as) :
    (t.insertAll key as).get? (key a) = some a := by
  induction as generalizing t with
  | nil => cases ha
  | cons b as ih =>
      rw [List.map_cons, List.nodup_cons] at hkeys
      rcases List.mem_cons.mp ha with rfl | hrest
      · have hkept := get?_insertAll_of_notMem (t := t.insert (key a) a) hkeys.1
        rw [get?_insert, if_pos rfl] at hkept
        exact hkept
      · exact ih hkeys.2 hrest

/-- What is found lay there before, or is one of them, under its key. -/
theorem get?_insertAll_eq_some {as : List α} {k : κ} {a : α}
    (h : (t.insertAll key as).get? k = some a) : t.get? k = some a ∨ a ∈ as ∧ key a = k := by
  induction as generalizing t with
  | nil => exact .inl h
  | cons b as ih =>
      rcases ih h with h | ⟨ha, hk⟩
      · rw [get?_insert] at h
        split_ifs at h with hb
        · cases h
          exact .inr ⟨List.mem_cons_self, hb⟩
        · exact .inl h
      · exact .inr ⟨List.mem_cons_of_mem b ha, hk⟩

/-- Under new keys, which differ, they are listed last. -/
theorem values_insertAll {as : List α} (hkeys : (as.map key).Nodup)
    (hnew : ∀ a ∈ as, key a ∉ t.keys) : (t.insertAll key as).values = t.values ++ as := by
  induction as generalizing t with
  | nil => exact (List.append_nil _).symm
  | cons a as ih =>
      rw [List.map_cons, List.nodup_cons] at hkeys
      have hfirst : key a ∉ t.keys := hnew a List.mem_cons_self
      have hrest : ∀ b ∈ as, key b ∉ (t.insert (key a) a).keys := by
        intro b hb
        rw [keys_insert_of_notMem a hfirst, List.mem_append, List.mem_singleton, not_or]
        exact ⟨hnew b (List.mem_cons_of_mem a hb), fun heq => hkeys.1 (heq ▸ List.mem_map_of_mem hb)⟩
      have hvalues := ih hkeys.2 hrest
      rw [values_insert_of_notMem a hfirst, List.append_assoc] at hvalues
      exact hvalues

/-! ### Values that pass a test -/

/-- If the values that pass a test lie under one key, at most one value passes. -/
theorem length_filter_values_le_one {p : α → Bool} (hd : t.Distinct)
    (h : ∀ k k' a a', t.get? k = some a → t.get? k' = some a' → p a = true → p a' = true → k = k') :
    (t.values.filter p).length ≤ 1 := by
  have hd' := hd
  have hpair : t.entries.Pairwise fun e e' => ¬ (p e.2 = true ∧ p e'.2 = true) := by
    unfold Distinct keys List.Nodup at hd
    rw [List.pairwise_map] at hd
    refine List.Pairwise.imp_of_mem ?_ hd
    rintro e e' he he' hne ⟨hp, hp'⟩
    exact hne (h _ _ _ _ ((mem_entries hd').mp he) ((mem_entries hd').mp he') hp hp')
  unfold values
  rw [List.filter_map, List.length_map]
  have hf := hpair.filter (p ∘ (·.2))
  cases hl : t.entries.filter (p ∘ (·.2)) with
  | nil => exact Nat.zero_le 1
  | cons e rest =>
      cases rest with
      | nil => exact Nat.le_refl 1
      | cons e' rest =>
          have hmem : ∀ x ∈ e :: e' :: rest, p x.2 = true := by
            intro x hx
            rw [← hl, List.mem_filter] at hx
            exact hx.2
          rw [hl, List.pairwise_cons] at hf
          exact absurd ⟨hmem e (by simp), hmem e' (by simp)⟩ (hf.1 e' (by simp))

/-! ### Searching in any order -/

/-- A search that at most one element passes does not depend on the order. -/
theorem find?_eq_of_perm {p : α → Bool} {l l' : List α} (hp : l'.Perm l)
    (unique : ∀ a ∈ l, ∀ b ∈ l, p a = true → p b = true → a = b) : l'.find? p = l.find? p := by
  cases h : l.find? p with
  | none =>
      rw [List.find?_eq_none] at h ⊢
      exact fun a ha => h a (hp.mem_iff.mp ha)
  | some a =>
      have ha := List.mem_of_find?_eq_some h
      have hpa := List.find?_some h
      cases h' : l'.find? p with
      | none =>
          rw [List.find?_eq_none] at h'
          exact absurd hpa (h' a (hp.mem_iff.mpr ha))
      | some b =>
          have hb := hp.mem_iff.mp (List.mem_of_find?_eq_some h')
          rw [unique b hb a ha (List.find?_some h') hpa]

end Gatehouse.Table
