import Gatehouse.Database.Basic
import Gatehouse.Proofs.Calendar
import Gatehouse.Proofs.Text.Cut
import Mathlib.Data.List.Forall2
import Std.Data.String.ToNat

/-! # What statements write and show

A database reads a statement by its text.  An insertion writes a row of the columns that its text
lists, each with the parameter whose place stands in the same position
(`Statement.insertedRow?`); a query shows of a stored row the columns that its text lists
(`Statement.selectedRow?`).  In between each value is kept as it is, but an instant only to the
microsecond (`Row.kept`).  An insertion that lists all its places in order writes its columns with its
parameters (`insertedRow?_of_listing`), and a query that is put together from a list of names shows
what the list says (`selectedRow?_eq`). -/

namespace Gatehouse.Database

/-- The names in a list with commas. -/
def listed (s : String) : List String :=
  ((s.toList.filter (· ≠ ' ')).splitOn ',').map String.ofList

/-- The table that the text of an insertion names. -/
def tableOf? (sql : List Char) : Option (List Char) := do
  let text ← Text.after? "INSERT INTO ".toList sql
  let (table, _) ← Text.cutChars? [' '] text
  pure table

/-- The columns and the places that the text of an insertion lists. -/
def listing? (sql : List Char) : Option (List (List Char) × List (List Char)) := do
  let (_, text) ← Text.cutChars? ['('] sql
  let (columns, text) ← Text.cutChars? [')'] text
  let (_, text) ← Text.cutChars? ['('] text
  let (places, _) ← Text.cutChars? [')'] text
  pure ((columns.filter (· ≠ ' ')).splitOn ',', (places.filter (· ≠ ' ')).splitOn ',')

namespace Statement

/-- The table that an insertion writes to. -/
def table? (s : Statement) : Option String := (tableOf? s.sql.toList).map String.ofList

/-- The parameter that a text such as `$1` stands for. -/
def parameter? (s : Statement) (place : String) : Option Value := do
  let number ← Text.behind? "$" place
  match ← number.toNat? with
  | 0 => none
  | n + 1 => s.params[n]?

/-- The row that an insertion writes: the columns that its text lists, with the parameters that
stand in their places. -/
def insertedRow? (s : Statement) : Option Row := do
  let (_, text) ← Text.cutFirst? "(" s.sql
  let (columns, text) ← Text.cutFirst? ")" text
  let (_, text) ← Text.cutFirst? "(" text
  let (places, _) ← Text.cutFirst? ")" text
  let values ← (listed places).mapM s.parameter?
  if (listed columns).length = values.length then some ((listed columns).zip values) else none

/-- What a query shows of a stored row: the columns that its text lists. -/
def selectedRow? (s : Statement) (stored : Row) : Option Row := do
  let text ← Text.behind? "SELECT " s.sql
  let (columns, _) ← Text.cutFirst? "FROM" text
  (listed columns).mapM fun column => (stored.lookup column).map (column, ·)

end Statement

/-- A value as its column keeps it: an instant to the microsecond. -/
def Value.kept : Value → Value
  | .instant t => .instant t.truncateToMicros
  | v => v

/-- A row as the database keeps it. -/
def Row.kept (r : Row) : Row := r.map fun (column, v) => (column, v.kept)

/-! ### What is kept -/

theorem Value.kept_instant {t : Instant} : (Value.instant t).kept = .instant t ↔ t.OnMicro := by
  rw [kept, Value.instant.injEq, Instant.truncateToMicros_eq_iff]

theorem Value.kept_ofOption_instant {t : Option Instant} :
    (Value.ofOption .instant t).kept = .ofOption .instant t ↔ ∀ u, t = some u → u.OnMicro := by
  cases t with
  | none => simp [ofOption, kept]
  | some t => simp [ofOption, kept_instant]

theorem Value.kept_ofOption_text (s : Option String) :
    (Value.ofOption .text s).kept = .ofOption .text s := by
  cases s <;> rfl

theorem Row.lookup_kept (r : Row) (column : String) :
    r.kept.lookup column = (r.lookup column).map Value.kept := by
  induction r with
  | nil => rfl
  | cons e r ih =>
      rw [Row.kept, List.map_cons, List.lookup_cons, List.lookup_cons]
      cases column == e.1
      · exact ih
      · rfl

/-! ### Lists of names -/

theorem filter_intercalate {α : Type} (p : α → Bool) (separator : List α) (ls : List (List α)) :
    (separator.intercalate ls).filter p =
      (separator.filter p).intercalate (ls.map (List.filter p)) := by
  induction ls with
  | nil => rfl
  | cons l ls ih =>
      cases ls with
      | nil => simp
      | cons l' ls => simp [List.intercalate_cons_cons, ih]

theorem mem_intercalate {α : Type} {a : α} {separator : List α} {ls : List (List α)}
    (h : a ∈ separator.intercalate ls) : a ∈ separator ∨ ∃ l ∈ ls, a ∈ l := by
  induction ls with
  | nil => cases h
  | cons l ls ih =>
      cases ls with
      | nil =>
          rw [List.intercalate_singleton] at h
          exact .inr ⟨l, List.mem_cons_self, h⟩
      | cons l' ls =>
          rw [List.intercalate_cons_cons, List.mem_append, List.mem_append] at h
          rcases h with (h | h) | h
          · exact .inr ⟨l, List.mem_cons_self, h⟩
          · exact .inl h
          · rcases ih h with h | ⟨l'', hl, h⟩
            · exact .inl h
            · exact .inr ⟨l'', List.mem_cons_of_mem l hl, h⟩

/-- The character may stand in the name of a column or in the place of a parameter. -/
def isNameChar (c : Char) : Bool := c.isLower || c.isDigit || c == '_' || c == '$'

/-- The text consists of such characters. -/
def IsName (name : String) : Prop := ∀ c ∈ name.toList, isNameChar c = true

instance (name : String) : Decidable (IsName name) :=
  List.decidableBAll (fun c => isNameChar c = true) name.toList

section Lists

variable {names : List String} (hnames : ∀ name ∈ names, IsName name)
include hnames

/-- Between names there stand only commas and blanks. -/
theorem notMem_list {c : Char} (hc : isNameChar c = false) (hcomma : c ≠ ',') (hblank : c ≠ ' ') :
    c ∉ (", ".intercalate names).toList := by
  rw [String.toList_intercalate]
  intro h
  rcases mem_intercalate h with h | ⟨cs, hcs, h⟩
  · have hseparator : c = ',' ∨ c = ' ' := by simpa using h
    exact hseparator.elim hcomma hblank
  · obtain ⟨name, hname, rfl⟩ := List.mem_map.mp hcs
    rw [hnames name hname c h] at hc
    cases hc

theorem listed_intercalate (hne : names ≠ []) : listed (", ".intercalate names) = names := by
  have hother : ∀ cs ∈ names.map String.toList, ∀ c ∈ cs, c ≠ ' ' ∧ c ≠ ',' := by
    intro cs hcs c hc
    obtain ⟨name, hname, rfl⟩ := List.mem_map.mp hcs
    have hchar := hnames name hname c hc
    constructor <;>
    · rintro rfl
      exact absurd hchar (by decide)
  have hkept : (names.map String.toList).map (List.filter (· ≠ ' ')) = names.map String.toList :=
    (List.map_congr_left fun cs hcs => List.filter_eq_self.mpr fun c hc =>
      decide_eq_true (hother cs hcs c hc).1).trans (List.map_id _)
  have hseparator : (", " : String).toList.filter (· ≠ ' ') = [','] := by decide
  unfold listed
  rw [String.toList_intercalate, filter_intercalate, hseparator, hkept,
    List.splitOn_intercalate ',' (fun cs hcs hc => (hother cs hcs ',' hc).2 rfl)
      (by simpa using hne), List.map_map]
  exact (List.map_congr_left fun name _ => String.ofList_toList).trans (List.map_id _)

end Lists

theorem listed_blank (s : String) : listed (s ++ " ") = listed s := by
  simp [listed, String.toList_append]

/-! ### Texts put together from lists -/

/-- The characters of a text in two parts, for texts that are compared as characters. -/
theorem toList_parts (front back : List Char) :
    (String.ofList front ++ String.ofList back).toList = front ++ back := by
  rw [String.toList_append, String.toList_ofList, String.toList_ofList]

theorem mapM_eq_some {α β : Type} {f : α → Option β} {as : List α} {bs : List β}
    (h : List.Forall₂ (fun a b => f a = some b) as bs) : as.mapM f = some bs := by
  induction h with
  | nil => rfl
  | cons hab _ ih => simp [List.mapM_cons, hab, ih]

theorem lookup_of_mem {r : Row} (h : (r.map (·.1)).Nodup) {e : String × Value} (he : e ∈ r) :
    r.lookup e.1 = some e.2 := by
  induction r with
  | nil => cases he
  | cons first rest ih =>
      rw [List.map_cons, List.nodup_cons] at h
      rw [List.lookup_cons]
      rcases List.mem_cons.mp he with rfl | he
      · rw [beq_self_eq_true]
      · have hne : (e.1 == first.1) = false :=
          beq_eq_false_iff_ne.mpr fun heq => h.1 (heq ▸ List.mem_map_of_mem he)
        rw [hne]
        exact ih h.2 he

namespace Statement

variable {s : Statement} {columns : List String}

/-- The text of a parameter's place, which counts from one. -/
def place (n : Nat) : String := "$" ++ Nat.repr (n + 1)

theorem parameter?_place (s : Statement) (n : Nat) : s.parameter? (place n) = s.params[n]? := by
  rw [parameter?, place, Text.behind?_append]
  simp

/-- The places of all parameters in order, as a text lists them. -/
def places (s : Statement) : List String := (List.range s.params.length).map place

theorem mapM_parameter?_places (s : Statement) : s.places.mapM s.parameter? = some s.params := by
  refine mapM_eq_some (List.forall₂_iff_get.mpr ⟨by simp [places], fun n hn hn' => ?_⟩)
  simp [places, parameter?_place]

theorem table?_of_tableOf? {table : String} (h : tableOf? s.sql.toList = some table.toList) :
    s.table? = some table := by
  rw [table?, h, Option.map_some, String.ofList_toList]

/-- An insertion that lists columns, and the places of all parameters in order, writes the columns
with the parameters. -/
theorem insertedRow?_of_listing
    (h : listing? s.sql.toList = some (columns.map String.toList, s.places.map String.toList))
    (hlength : columns.length = s.params.length) :
    s.insertedRow? = some (columns.zip s.params) := by
  have hback (names : List String) : (names.map String.toList).map String.ofList = names := by
    rw [List.map_map]
    exact (List.map_congr_left fun name _ => String.ofList_toList).trans (List.map_id _)
  obtain ⟨⟨_, behind⟩, hfront, h⟩ := Option.bind_eq_some_iff.mp h
  obtain ⟨⟨names, between⟩, hnames, h⟩ := Option.bind_eq_some_iff.mp h
  obtain ⟨⟨_, back⟩, hbetween, h⟩ := Option.bind_eq_some_iff.mp h
  obtain ⟨⟨places, _⟩, hplaces, h⟩ := Option.bind_eq_some_iff.mp h
  obtain ⟨hcolumns, hlisted⟩ := Prod.mk.inj (Option.some.inj h)
  unfold insertedRow? listed Text.cutFirst?
  simp only [String.reduceToList, hfront, hnames, hbetween, hplaces, Option.map_some,
    Option.bind_eq_bind, Option.bind_some, String.toList_ofList]
  rw [hlisted, hcolumns, hback, hback, mapM_parameter?_places, Option.bind_some, if_pos hlength]

/-- A query that lists the columns of a stored row shows the row. -/
theorem selectedRow?_eq {stored : Row} (back : String) (hcolumns : ∀ e ∈ stored, IsName e.1)
    (hne : stored ≠ []) (hnodup : (stored.map (·.1)).Nodup)
    (hs : s.sql = "SELECT " ++ (", ".intercalate (stored.map (·.1)) ++ " " ++ ("FROM" ++ back))) :
    s.selectedRow? stored = some stored := by
  have hcolumns : ∀ name ∈ stored.map (·.1), IsName name := by
    intro name hname
    obtain ⟨e, he, rfl⟩ := List.mem_map.mp hname
    exact hcolumns e he
  have hclosed : 'F' ∉ (", ".intercalate (stored.map (·.1)) ++ " ").toList := by
    have hlist := notMem_list hcolumns (c := 'F') rfl (by decide) (by decide)
    simpa [String.toList_append] using hlist
  unfold selectedRow?
  rw [hs, Text.behind?_append]
  simp only [Option.bind_eq_bind, Option.bind_some]
  rw [Text.cutFirst?_append "FROM" rfl hclosed]
  simp only [Option.bind_some]
  rw [listed_blank, listed_intercalate hcolumns (by simpa using hne), List.mapM_map]
  refine mapM_eq_some (List.forall₂_same.mpr fun e he => ?_)
  rw [Function.comp_apply, lookup_of_mem hnodup he]
  rfl

end Statement

end Gatehouse.Database
