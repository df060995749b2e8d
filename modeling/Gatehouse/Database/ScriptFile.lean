import Gatehouse.Calendar.Text
import Gatehouse.Database.Script
import Gatehouse.Json.Lenient

/-! # Scripts in JSON

A script is an object with the replies to statements under `db`, faults of `begin` and `commit`, and
the answer to a ping. The columns of rows are those of the first row, in the order of their names,
and a column holds what its name says; a missing value is null. The trace shows each statement on
one line with its parameters. -/

namespace Gatehouse.Database

/-- What a column holds. -/
inductive ColumnKind where
  | identifier
  | bytes
  | truth
  | instant
  | count
  | text
  deriving DecidableEq, Repr

/-- What the column of a name holds. -/
def ColumnKind.ofName (column : String) : ColumnKind :=
  if ["id", "user_id", "module_id", "permission_type_id"].contains column then identifier
  else if column = "token_hash" then bytes
  else if ["enabled", "is_revoked", "module_enabled", "exists"].contains column then truth
  else if ["issued_at", "expires_at", "last_used", "revoked_at"].contains column then instant
  else if ["found", "changed"].contains column then count
  else text

/-- The value of a column. Instants are kept to the microsecond. -/
def Value.ofJson (kind : ColumnKind) (j : Json) : Value :=
  match kind with
  | .identifier => .ofOption .uuid (j.text?.bind Uuid.ofText?)
  | .bytes => .ofOption .bytes (j.text?.bind Bytes.ofHex?)
  | .truth =>
    match j with
    | .bool b => .bool b
    | _ => .null
  | .instant => .ofOption (fun t => .instant t.truncateToMicros) j.instant?
  | .count => .ofOption .integer j.integer?
  | .text => .ofOption .text j.text?

/-- The names of the members of an object, in order. -/
def memberNames : Json → List String
  | .object members => (members.filterMap (·.1)).mergeSort fun a b => decide (a ≤ b)
  | _ => []

/-- The fault of a record. -/
def Fault.ofJson (j : Json) : Fault := .refused (j.textAt "code") (j.textAt "message")

/-- The reply of a record. -/
def replyOfJson (j : Json) : Except Fault Reply :=
  match j.get? "error" with
  | some fault => .error (.ofJson fault)
  | none =>
    match j.get? "rows" with
    | some (.array rows) =>
      let columns := rows.head?.elim [] memberNames
      let valueIn (r : Json) (column : String) : String × Value :=
        (column, Value.ofJson (.ofName column) (r.memberAt column))
      .ok ⟨rows.map fun r => columns.map (valueIn r), rows.length⟩
    | _ => .ok ⟨[], (j.integerAt "affected").toNat⟩

/-- The faults of a list in which null stands for success. -/
def faultsAt (j : Json) (name : String) : List (Option Fault) :=
  (j.itemsAt name).map fun fault => if fault == .null then none else some (.ofJson fault)

/-- The script of a record. -/
def Script.ofJson (j : Json) : Script :=
  { replies := (j.itemsAt "db").map replyOfJson, begins := faultsAt j "begin"
    commits := faultsAt j "commit", answersPing := (j.textAt? "ping").getD "ok" == "ok" }

/-- The value of a parameter. -/
def Value.toJson : Value → Json
  | null => .null
  | text s => .text s
  | uuid u => .text u.text
  | bool b => .bool b
  | instant t => .text t.truncateToMicros.text
  | bytes bs => .obj [("bytes", .text (Bytes.toHex bs))]
  | integer i => .integer i

/-- A text with every run of blanks as one blank, and none at its ends. -/
def oneLine (sql : String) : String :=
  let blank (c : Char) : Char := if c = '\n' || c = '\t' || c = '\r' then ' ' else c
  " ".intercalate ((((String.ofList (sql.toList.map blank)).splitOn " ")).filter (· ≠ ""))

/-- A statement with its parameters. -/
def Statement.toJson (s : Statement) : Json :=
  .obj [("sql", .text (oneLine s.sql)), ("params", .array (s.params.map Value.toJson))]

/-- A line of the trace. -/
def Event.toJson : Event → Json
  | statement s => s.toJson
  | transaction statements committed =>
    .obj [("tx", .array (statements.map Statement.toJson)),
      ("end", .text (if committed then "commit" else "rollback"))]

/-- The trace of a script. -/
def Script.traceJson (s : Script) : Json := .array (s.trace.map Event.toJson)

end Gatehouse.Database
