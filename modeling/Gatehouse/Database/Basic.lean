import Gatehouse.Calendar.Instant
import Gatehouse.Failure
import Gatehouse.Program
import Gatehouse.Uuid

/-! # A relational database

A database takes *statements*, texts with values bound to their parameters, and answers each with
rows and the number of rows affected, or with a fault. Statements between `begin` and `commit` take
effect together or not at all; a transaction that is abandoned is rolled back. A row is read by the
names of its columns, and a value is what its column declares or it is null. -/

namespace Gatehouse.Database

/-- A value of a column or of a parameter. -/
inductive Value where
  | null
  | text (s : String)
  | uuid (u : Uuid)
  | bool (b : Bool)
  | instant (t : Instant)
  | bytes (bs : Bytes)
  | integer (i : Int)
  deriving DecidableEq, Repr

/-- A value, or null. -/
def Value.ofOption {α : Type} (f : α → Value) : Option α → Value
  | some a => f a
  | none => .null

/-- The type of a value as the database names it. -/
def Value.typeName : Value → String
  | null => "UNKNOWN"
  | text _ => "TEXT"
  | uuid _ => "UUID"
  | bool _ => "BOOL"
  | instant _ => "TIMESTAMPTZ"
  | bytes _ => "BYTEA"
  | integer _ => "INT8"

/-- A statement with its bound values. -/
structure Statement where
  sql : String
  params : List Value := []
  deriving DecidableEq, Repr

/-- A row: its columns with their values. -/
abbrev Row := List (String × Value)

/-- What a statement is answered. -/
structure Reply where
  rows : List Row
  affected : Nat
  deriving DecidableEq, Repr

/-- The answer without rows. -/
def Reply.empty : Reply := ⟨[], 0⟩

/-- Why the database does not do what it is asked. -/
inductive Fault where
  /-- The database refuses, with a code and a message. -/
  | refused (code message : String)
  /-- There is no connection to be had. -/
  | closed
  /-- A query that must have a row has none. -/
  | noRow
  /-- A query that must have a column has none. -/
  | noColumn
  /-- The first column does not hold what it must. -/
  | unfit (reason : String)
  deriving DecidableEq, Repr

/-- The causes that a fault is reported with. -/
def Fault.cause : Fault → Cause
  | refused _ message => (Cause.root message).within ("error returned from database: " ++ message)
  | closed => .root "attempted to acquire a connection on a closed pool"
  | noRow => .root "no rows returned by a query that expected to return at least one row"
  | noColumn => .root "column index out of bounds: the len is 0, but the index is 0"
  | unfit reason =>
    (Cause.root reason).within ("error occurred while decoding column 0: " ++ reason)

/-- The code of a write that breaks a rule of uniqueness. -/
def uniqueViolation : String := "23505"

/-- The fault is a broken rule of uniqueness. -/
def Fault.isUniqueViolation : Fault → Bool
  | refused code _ => code == uniqueViolation
  | _ => false

/-- A call of the database. -/
inductive Op where
  | execute (s : Statement)
  | begin
  | commit
  | rollback
  /-- Leave a transaction without an end; it is rolled back. -/
  | abandon
  /-- Ask whether the database answers. -/
  | ping
  deriving DecidableEq, Repr

/-- What a call is answered. -/
abbrev Answer : Op → Type
  | .execute _ => Except Fault Reply
  | .begin => Except Fault Unit
  | .commit => Except Fault Unit
  | .rollback => Except Fault Unit
  | .abandon => Unit
  | .ping => Bool

end Database

/-- The interface of a database. -/
def Database : Interface := ⟨Database.Op, Database.Answer⟩

namespace Database

/-! ## Reading rows -/

/-- The text in a column. -/
def text? (r : Row) (column : String) : Option String :=
  match r.lookup column with
  | some (.text s) => some s
  | _ => none

/-- The text in a column that may be null. -/
def nullableText? (r : Row) (column : String) : Option (Option String) :=
  match r.lookup column with
  | some (.text s) => some (some s)
  | some .null => some none
  | _ => none

/-- The identifier in a column. -/
def uuid? (r : Row) (column : String) : Option Uuid :=
  match r.lookup column with
  | some (.uuid u) => some u
  | _ => none

/-- The identifier in a column that may be null. -/
def nullableUuid? (r : Row) (column : String) : Option (Option Uuid) :=
  match r.lookup column with
  | some (.uuid u) => some (some u)
  | some .null => some none
  | _ => none

/-- The truth value in a column. -/
def bool? (r : Row) (column : String) : Option Bool :=
  match r.lookup column with
  | some (.bool b) => some b
  | _ => none

/-- The instant in a column. -/
def instant? (r : Row) (column : String) : Option Instant :=
  match r.lookup column with
  | some (.instant t) => some t
  | _ => none

/-- The instant in a column that may be null. -/
def nullableInstant? (r : Row) (column : String) : Option (Option Instant) :=
  match r.lookup column with
  | some (.instant t) => some (some t)
  | some .null => some none
  | _ => none

/-- The bytes in a column. -/
def bytes? (r : Row) (column : String) : Option Bytes :=
  match r.lookup column with
  | some (.bytes bs) => some bs
  | _ => none

/-- The integer in a column. -/
def integer? (r : Row) (column : String) : Option Int :=
  match r.lookup column with
  | some (.integer i) => some i
  | _ => none

end Gatehouse.Database
