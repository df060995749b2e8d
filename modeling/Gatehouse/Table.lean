/-! # Tables

A finite map as a list of entries in the order in which their keys were first inserted. A table is
looked at through `get?`: inserting changes it at one key, and modifying changes the value at one
key if there is one. Where no operation but `insert` and the updates below built the table, no key
occurs twice (`Table.Distinct`). -/

namespace Gatehouse

/-- A finite map from `κ` to `α`. -/
structure Table (κ α : Type) where
  entries : List (κ × α)
  deriving DecidableEq, Repr

namespace Table

variable {κ α : Type} [DecidableEq κ]

/-- The table without entries. -/
def empty : Table κ α := ⟨[]⟩

instance : Inhabited (Table κ α) := ⟨empty⟩

/-- The value at a key. -/
def get? (t : Table κ α) (k : κ) : Option α := (t.entries.find? (·.1 = k)).map (·.2)

/-- The key has a value. -/
def has (t : Table κ α) (k : κ) : Bool := t.entries.any (·.1 = k)

/-- The values, in the order of their keys. -/
def values (t : Table κ α) : List α := t.entries.map (·.2)

/-- The keys. -/
def keys (t : Table κ α) : List κ := t.entries.map (·.1)

/-- The number of entries. -/
def size (t : Table κ α) : Nat := t.entries.length

/-- Entries with the value at a key replaced, or an entry added at the end. -/
def insertEntry (k : κ) (a : α) : List (κ × α) → List (κ × α)
  | [] => [(k, a)]
  | e :: rest => if e.1 = k then (k, a) :: rest else e :: insertEntry k a rest

/-- The table with a value at a key. -/
def insert (t : Table κ α) (k : κ) (a : α) : Table κ α := ⟨insertEntry k a t.entries⟩

/-- The table with a function applied to every value, which sees the key. -/
def map (t : Table κ α) (f : κ → α → α) : Table κ α :=
  ⟨t.entries.map fun e => (e.1, f e.1 e.2)⟩

/-- The table with the value at a key changed, if there is one. -/
def modify (t : Table κ α) (k : κ) (f : α → α) : Table κ α :=
  t.map fun k' a => if k' = k then f a else a

/-- The entries that pass a test. -/
def filter (t : Table κ α) (p : κ → α → Bool) : Table κ α :=
  ⟨t.entries.filter fun e => p e.1 e.2⟩

/-- The first value that passes a test. -/
def find? (t : Table κ α) (p : α → Bool) : Option α := t.values.find? p

/-- Some value passes a test. -/
def any (t : Table κ α) (p : α → Bool) : Bool := t.values.any p

/-- No key occurs twice. -/
def Distinct (t : Table κ α) : Prop := t.keys.Nodup

@[simp] theorem get?_empty (k : κ) : (empty : Table κ α).get? k = none := rfl

@[simp] theorem get?_insert (t : Table κ α) (k k' : κ) (a : α) :
    (t.insert k a).get? k' = if k = k' then some a else t.get? k' := by
  simp only [insert, get?]
  induction t.entries with
  | nil => by_cases h : k = k' <;> simp [insertEntry, h]
  | cons e rest ih =>
    by_cases he : e.1 = k <;> by_cases hk : k = k' <;> by_cases hek : e.1 = k' <;>
      simp_all [insertEntry]

@[simp] theorem get?_map (t : Table κ α) (f : κ → α → α) (k : κ) :
    (t.map f).get? k = (t.get? k).map (f k) := by
  simp only [map, get?]
  induction t.entries with
  | nil => rfl
  | cons e rest ih =>
    simp only [List.map_cons, List.find?_cons]
    by_cases h : e.1 = k
    · subst h; simp
    · simpa only [h, decide_false] using ih

theorem get?_modify (t : Table κ α) (k k' : κ) (f : α → α) :
    (t.modify k f).get? k' = if k' = k then (t.get? k').map f else t.get? k' := by
  by_cases h : k' = k <;> simp [modify, h]

end Table

/-- The values of a table whose keys are texts, in the order of the keys. -/
def Table.sortedValues {α : Type} (t : Table String α) : List α :=
  (t.entries.mergeSort fun a b => decide (a.1 ≤ b.1)).map (·.2)

/-- The keys of a table whose keys are texts, in order. -/
def Table.sortedKeys {α : Type} (t : Table String α) : List String :=
  t.keys.mergeSort fun a b => decide (a ≤ b)

end Gatehouse
