import Gatehouse.Proofs.Database.Layout

/-! # What statements select and change

A statement says behind `WHERE` which rows it is about, by a condition on their columns and on the
parameters, and an update says behind `SET` what it makes of them.  A condition is read from the
words of the text (`condition?`); on a row it is true, false, or unknown if it hangs on a value that
is null (`Condition.truth`), and the rows of which it is true are selected (`Statement.Selects`).
Parameters count as the database keeps them, instants to the microsecond. -/

namespace Gatehouse.Database

/-! ### Words -/

/-- The words of a text; a bracket is a word. -/
def words (text : List Char) : List (List Char) :=
  ((text.flatMap fun c => if c = '(' ∨ c = ')' then [' ', c, ' '] else [c]).splitOn ' ').filter
    (· ≠ [])

/-- The number of the parameter that a place such as `$1` stands for, from zero. -/
def number? : List Char → Option Nat
  | '$' :: digits =>
    match digits.foldl (fun n c => 10 * n + (c.toNat - '0'.toNat)) 0 with
    | 0 => none
    | n + 1 => some n
  | _ => none

/-! ### Conditions -/

/-- A condition on the columns of a row and the parameters of a statement. -/
inductive Condition where
  /-- The column holds true. -/
  | holds (column : String)
  | equals (column : String) (parameter : Nat)
  | atLeast (column : String) (parameter : Nat)
  | not (c : Condition)
  | and (c d : Condition)
  | or (c d : Condition)
  deriving DecidableEq, Repr

mutual

/-- Alternatives, from the words with which they begin. -/
def disjunction? : Nat → List (List Char) → Option (Condition × List (List Char))
  | 0, _ => none
  | n + 1, ws => do
    let (c, ws) ← conjunction? n ws
    match ws with
    | ['O', 'R'] :: ws => do
      let (d, ws) ← disjunction? n ws
      pure (.or c d, ws)
    | ws => pure (c, ws)

/-- Conditions that must all hold, from the words with which they begin. -/
def conjunction? : Nat → List (List Char) → Option (Condition × List (List Char))
  | 0, _ => none
  | n + 1, ws => do
    let (c, ws) ← factor? n ws
    match ws with
    | ['A', 'N', 'D'] :: ws => do
      let (d, ws) ← conjunction? n ws
      pure (.and c d, ws)
    | ws => pure (c, ws)

/-- One condition, from the words with which it begins. -/
def factor? : Nat → List (List Char) → Option (Condition × List (List Char))
  | 0, _ => none
  | n + 1, ws =>
    match ws with
    | ['N', 'O', 'T'] :: ws => do
      let (c, ws) ← factor? n ws
      pure (.not c, ws)
    | ['('] :: ws => do
      let (c, ws) ← disjunction? n ws
      match ws with
      | [')'] :: ws => pure (c, ws)
      | _ => none
    | column :: ['='] :: place :: ws => do pure (.equals (.ofList column) (← number? place), ws)
    | column :: ['>', '='] :: place :: ws => do
      pure (.atLeast (.ofList column) (← number? place), ws)
    | column :: ws => some (.holds (.ofList column), ws)
    | [] => none

end

/-- The condition that stands behind `WHERE` in a text. What comes after it is passed over. -/
def condition? (text : List Char) : Option Condition := do
  let (_, text) ← Text.cutChars? " WHERE ".toList text
  let (c, _) ← disjunction? (3 * (words text).length) (words text)
  pure c

/-- The value, unless it is null. -/
def known? : Option Value → Option Value
  | some .null | none => none
  | some v => some v

/-- True if both are, false if one of them is, whatever the other. -/
def both : Option Bool → Option Bool → Option Bool
  | some true, some true => some true
  | some false, _ | _, some false => some false
  | _, _ => none

/-- True if one of both is, whatever the other, and false if both are. -/
def either : Option Bool → Option Bool → Option Bool
  | some false, some false => some false
  | some true, _ | _, some true => some true
  | _, _ => none

/-- Whether the condition holds of a row; it is unknown if that hangs on a null. -/
def Condition.truth (params : List Value) (row : Row) : Condition → Option Bool
  | holds column => bool? row column
  | equals column n => do
    let v ← known? (row.lookup column)
    let w ← known? params[n]?
    pure (v == w)
  | atLeast column n => do
    match ← known? (row.lookup column), ← known? params[n]? with
    | .instant t, .instant u => pure (decide (u ≤ t))
    | _, _ => none
  | not c => (c.truth params row).map (!·)
  | and c d => both (c.truth params row) (d.truth params row)
  | or c d => either (c.truth params row) (d.truth params row)

/-- The statement is about the row: its condition is true of it. -/
def Statement.Selects (s : Statement) (row : Row) : Prop :=
  ∃ c, condition? s.sql.toList = some c ∧ c.truth (s.params.map Value.kept) row = some true

theorem Statement.selects_iff {sql : String} {params : List Value} {text : List Char}
    {c : Condition} {row : Row} (htext : sql.toList = text) (h : condition? text = some c) :
    (⟨sql, params⟩ : Statement).Selects row ↔ c.truth (params.map Value.kept) row = some true := by
  constructor
  · rintro ⟨c', hc', htruth⟩
    cases h.symm.trans (htext ▸ hc')
    exact htruth
  · exact fun htruth => ⟨c, htext.symm ▸ h, htruth⟩

section Truth

variable {params : List Value} {row : Row} {column : String} {n : Nat} {c d : Condition}

theorem known?_eq_some {v : Option Value} {w : Value} :
    known? v = some w ↔ v = some w ∧ w ≠ .null := by
  unfold known?
  split <;> grind

@[simp] theorem truth_and_iff : (c.and d).truth params row = some true ↔
    c.truth params row = some true ∧ d.truth params row = some true := by
  rw [Condition.truth]
  unfold both
  split <;> simp_all

@[simp] theorem truth_or_iff : (c.or d).truth params row = some true ↔
    c.truth params row = some true ∨ d.truth params row = some true := by
  rw [Condition.truth]
  unfold either
  split <;> grind

@[simp] theorem truth_not_holds_iff : (Condition.holds column).not.truth params row = some true ↔
    bool? row column = some false := by
  simp [Condition.truth]

@[simp] theorem truth_equals_iff : (Condition.equals column n).truth params row = some true ↔
    ∃ v, v ≠ .null ∧ row.lookup column = some v ∧ params[n]? = some v := by
  simp only [Condition.truth, Option.bind_eq_bind, Option.bind_eq_some_iff, known?_eq_some]
  grind

@[simp] theorem truth_atLeast_iff : (Condition.atLeast column n).truth params row = some true ↔
    ∃ t u, row.lookup column = some (.instant t) ∧ params[n]? = some (.instant u) ∧ u ≤ t := by
  simp only [Condition.truth, Option.bind_eq_bind, Option.bind_eq_some_iff, known?_eq_some]
  constructor
  · rintro ⟨v, ⟨hv, _⟩, w, ⟨hw, _⟩, h⟩
    cases v with
    | instant t =>
        cases w with
        | instant u => exact ⟨t, u, hv, hw, of_decide_eq_true (Option.some.inj h)⟩
        | _ => cases h
    | _ => cases h
  · rintro ⟨t, u, ht, hu, hle⟩
    exact ⟨_, ⟨ht, nofun⟩, _, ⟨hu, nofun⟩, congrArg some (decide_eq_true hle)⟩

end Truth

/-! ### Changes -/

/-- What a column is set to. -/
inductive Operand where
  | truth
  | parameter (n : Nat)
  deriving DecidableEq, Repr

/-- The value of an operand. -/
def Operand.value? (params : List Value) : Operand → Option Value
  | truth => some (.bool true)
  | parameter n => params[n]?

/-- A column and what it is set to, from the words that say so. -/
def assignment? : List (List Char) → Option (String × Operand)
  | [column, ['='], ['T', 'R', 'U', 'E']] => some (.ofList column, .truth)
  | [column, ['='], place] => do pure (.ofList column, .parameter (← number? place))
  | _ => none

/-- What stands between `SET` and `WHERE` in the text of an update. -/
def assignments? (text : List Char) : Option (List (String × Operand)) := do
  let (_, text) ← Text.cutChars? " SET ".toList text
  let (text, _) ← Text.cutChars? " WHERE ".toList text
  (text.splitOn ',').mapM (assignment? ∘ words)

/-- The row with new values in some columns. -/
def Row.set (row changes : Row) : Row :=
  row.map fun (column, v) => (column, (changes.lookup column).getD v)

/-- What an update makes of a row that it is about. -/
def Statement.updatedRow? (s : Statement) (row : Row) : Option Row := do
  let assignments ← assignments? s.sql.toList
  let changes ← assignments.mapM fun (column, o) =>
    (o.value? (s.params.map Value.kept)).map (column, ·)
  pure (row.set changes)

theorem Statement.updatedRow?_eq {sql : String} {params : List Value} {text : List Char}
    (assignments : List (String × Operand)) (changes : Row) (htext : sql.toList = text)
    (h : assignments? text = some assignments)
    (hchanges : assignments.mapM (fun (column, o) =>
      (o.value? (params.map Value.kept)).map (column, ·)) = some changes) (row : Row) :
    (⟨sql, params⟩ : Statement).updatedRow? row = some (row.set changes) := by
  rw [updatedRow?, htext, h]
  simp only [Option.bind_eq_bind, Option.bind_some]
  rw [hchanges]
  rfl

theorem Row.lookup_set (row changes : Row) (column : String) :
    (row.set changes).lookup column =
      (row.lookup column).map fun v => (changes.lookup column).getD v := by
  induction row with
  | nil => rfl
  | cons e row ih =>
      rw [set, List.map_cons, List.lookup_cons, List.lookup_cons]
      cases hcolumn : column == e.1
      · exact ih
      · rw [beq_iff_eq.mp hcolumn]
        rfl

end Gatehouse.Database
