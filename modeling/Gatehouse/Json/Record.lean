import Gatehouse.Json.Basic

/-! # Records in JSON

A record of named members is written as an object, in which members of other names are passed over
but none of its own may occur twice, or as an array of the members in their declared order. Of an
array, members at the end that are declared so may be left off, and nothing may follow the last. -/

namespace Gatehouse.Json

/-- A declared member of a record. -/
structure Member where
  name : String
  /-- An array may end before it. -/
  optionalAtEnd : Bool := false
  deriving DecidableEq, Repr

/-- The members of a record that a value holds, by name. -/
abbrev Members := List (String × Json)

/-- The value of a member, if it is held. -/
def Members.value? (ms : Members) (name : String) : Option Json := ms.lookup name

/-- The members of an object that are declared, none of them twice; every name must be a text. -/
def declared? (names : List String) : List (Option String × Json) → Option Members
  | [] => some []
  | (none, _) :: _ => none
  | (some name, j) :: rest => do
    let ms ← declared? names rest
    if names.contains name then
      guard (ms.lookup name).isNone
      pure ((name, j) :: ms)
    else pure ms

/-- The items of an array as the members in their order. -/
def inOrder? : List Member → List Json → Option Members
  | [], [] => some []
  | [], _ :: _ => none
  | m :: ms, [] => do
    guard m.optionalAtEnd
    inOrder? ms []
  | m :: ms, j :: js => (inOrder? ms js).map ((m.name, j) :: ·)

/-- The members of a record. -/
def record? (declaration : List Member) : Json → Option Members
  | .object members => declared? (declaration.map (·.name)) members
  | .array items => inOrder? declaration items
  | _ => none

/-- A member that must be a text. -/
def Members.text? (ms : Members) (name : String) : Option String := (ms.value? name).bind Json.text?

/-- A member that may be missing or null, and else must be a text. -/
def Members.optionalText? (ms : Members) (name : String) : Option (Option String) :=
  match ms.value? name with
  | none | some .null => some none
  | some j => j.text?.map some

/-- A member that must be an integer of sixty-four bits. -/
def Members.int64? (ms : Members) (name : String) : Option Int := (ms.value? name).bind Json.int64?

/-- A member that may be missing or null, and else must be an integer of sixty-four bits. -/
def Members.optionalInt64? (ms : Members) (name : String) : Option (Option Int) :=
  match ms.value? name with
  | none | some .null => some none
  | some j => j.int64?.map some

/-- The name of a case without content: the text of a string, or an object whose only member has
that name and the value null. -/
def caseName? : Json → Option String
  | .string s => s
  | .object [(name, .null)] => name
  | _ => none

end Gatehouse.Json
