/-! # JSON values

A JSON value as its text presents it. An object is the list of its members in order, repeated names
kept. A string literal denotes a text, or none if its escapes leave half a surrogate pair alone or
its bytes are not UTF-8: such a literal is well formed and may stand where nobody looks, but it is
the value of no member that is read. A number is an integer if it is written without fraction and
exponent and is not a negated zero; any other keeps its literal. -/

namespace Gatehouse

/-- A JSON value. -/
inductive Json where
  | null
  | bool (b : Bool)
  | integer (i : Int)
  | decimal (literal : String)
  | string (s : Option String)
  | array (items : List Json)
  | object (members : List (Option String × Json))
  deriving BEq, Inhabited, Repr

namespace Json

/-- A string value. -/
def text (s : String) : Json := .string (some s)

/-- A string value, or null. -/
def optionalText : Option String → Json
  | some s => .text s
  | none => .null

/-- A list of strings. -/
def texts (ss : List String) : Json := .array (ss.map .text)

/-- A natural number. -/
def natural (n : Nat) : Json := .integer n

/-- An object from names and values. -/
def obj (members : List (String × Json)) : Json :=
  .object (members.map fun (k, v) => (some k, v))

/-- The text of a string value. -/
def text? : Json → Option String
  | .string s => s
  | _ => none

/-- The texts of an array of strings. -/
def texts? : Json → Option (List String)
  | .array items => items.mapM text?
  | _ => none

/-- The value is an object. -/
def isObject : Json → Bool
  | .object _ => true
  | _ => false

/-- An integer that a signed word of sixty-four bits holds. -/
def int64? : Json → Option Int
  | .integer i => if Int64.minValue.toInt ≤ i && i ≤ Int64.maxValue.toInt then some i else none
  | _ => none

/-- The first member of the given name. -/
def get? (name : String) : Json → Option Json
  | .object members => (members.find? (·.1 = some name)).map (·.2)
  | _ => none

/-- The value at a path of member names and array positions, each part `~1` standing for a slash and
`~0` for a tilde. -/
def at? : List String → Json → Option Json
  | [], j => some j
  | part :: rest, j =>
    let name := (part.replace "~1" "/").replace "~0" "~"
    match j with
    | .object _ => (j.get? name).bind (at? rest)
    | .array items =>
      match name.toNat? with
      | some n => if toString n = name then items[n]?.bind (at? rest) else none
      | none => none
    | _ => none

/-- The value that a pointer names: a path with a slash before each part. -/
def pointer? (pointer : String) (j : Json) : Option Json :=
  match pointer.splitOn "/" with
  | "" :: parts => j.at? parts
  | _ => none

end Json

end Gatehouse
