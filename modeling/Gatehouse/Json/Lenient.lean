import Gatehouse.Calendar.Instant
import Gatehouse.Json.Basic
import Gatehouse.Uuid

/-! # Lenient reading

Members of an object that may be missing: a missing member, or one of another kind than expected,
counts as absent, and where something must stand it is empty, zero or nil. Instants are seconds
since the start of 1970, or a pair of seconds and nanoseconds. -/

namespace Gatehouse.Json

/-- A member, or null. -/
def memberAt (j : Json) (name : String) : Json := (j.get? name).getD .null

/-- A text, if there is one. -/
def textAt? (j : Json) (name : String) : Option String := (j.get? name).bind text?

/-- A text, or the empty one. -/
def textAt (j : Json) (name : String) : String := (j.textAt? name).getD ""

/-- The items of a value that is a list. -/
def items : Json → List Json
  | .array items => items
  | _ => []

/-- A list, or the empty one. -/
def itemsAt (j : Json) (name : String) : List Json := (j.memberAt name).items

/-- The texts in a list. -/
def textsAt (j : Json) (name : String) : List String := (j.itemsAt name).filterMap text?

/-- A truth value, or a standard one. -/
def flagAt (j : Json) (name : String) (standard : Bool) : Bool :=
  match j.memberAt name with
  | .bool b => b
  | _ => standard

/-- The integer that a value is. -/
def integer? : Json → Option Int
  | .integer i => some i
  | _ => none

/-- An integer, if there is one. -/
def integerAt? (j : Json) (name : String) : Option Int := (j.memberAt name).integer?

/-- An integer, or zero. -/
def integerAt (j : Json) (name : String) : Int := (j.integerAt? name).getD 0

/-- The instant that a value writes. -/
def instant? : Json → Option Instant
  | .integer s => some (.ofSeconds s)
  | .array [.integer s, .integer n] => Instant.ofParts? s n
  | _ => none

/-- An instant, if there is one. -/
def instantAt? (j : Json) (name : String) : Option Instant := (j.memberAt name).instant?

/-- An instant, or the start of 1970. -/
def instantAt (j : Json) (name : String) : Instant := (j.instantAt? name).getD (.ofSeconds 0)

/-- An identifier, if there is one. -/
def uuidAt? (j : Json) (name : String) : Option Uuid := (j.textAt? name).bind Uuid.ofText?

/-- An identifier, or the nil one. -/
def uuidAt (j : Json) (name : String) : Uuid := (j.uuidAt? name).getD .nil

/-- A value that may be missing. -/
def optional {α : Type} (f : α → Json) : Option α → Json
  | some a => f a
  | none => .null

end Gatehouse.Json
