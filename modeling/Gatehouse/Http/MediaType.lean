import Gatehouse.Http.Characters

/-! # Media types

A media type is a type and a subtype with a slash between them; the part of the subtype behind its
last plus sign is its suffix. Parameters follow behind semicolons, each a name and a value, the
value perhaps in quotes. A text that does not keep to this form has no media type at all. -/

namespace Gatehouse

/-- A media type without its parameters. -/
structure MediaType where
  type : String
  subtype : String
  suffix : Option String
  deriving DecidableEq, Repr

namespace MediaType

/-- The characters of a value in quotes, the quote apart. -/
def isQuotable (c : Char) : Bool := 31 < c.toNat && c.toNat ≠ 127

/-- What may stand between a value in quotes and the next parameter. -/
def afterQuoted? : List Char → Option (List Char)
  | [] => some []
  | ';' :: rest => some rest
  | ' ' :: rest => afterQuoted? rest
  | _ => none

/-- The input behind a parameter: a name, an equals sign and a value. A value in quotes has at least
one character, and its first may be a quote itself. -/
def parameter? (cs : List Char) : Option (List Char) :=
  match cs.span Http.isTokenChar with
  | ([], _) => none
  | (_, '=' :: '"' :: c :: rest) =>
    if isQuotable c then
      match rest.dropWhile fun c => isQuotable c && c != '"' with
      | '"' :: rest => afterQuoted? rest
      | _ => none
    else none
  | (_, '=' :: '"' :: []) => none
  | (_, '=' :: rest) =>
    match rest.span Http.isTokenChar with
    | (_, []) => some []
    | ([], _) => none
    | (_, ';' :: rest) => some rest
    | _ => none
  | _ => none

/-- The input consists of parameters, blanks in front of each allowed. -/
def parametersFit (fuel : Nat) (cs : List Char) : Bool :=
  match fuel with
  | 0 => false
  | fuel + 1 =>
    match cs with
    | [] => true
    | ' ' :: rest => parametersFit fuel rest
    | cs => (parameter? cs).any (parametersFit fuel)

/-- A subtype before and behind its last plus sign; a plus sign in front does not count. -/
def splitSuffix (cs : List Char) : List Char × Option (List Char) :=
  let back := cs.reverse
  match back.dropWhile (· ≠ '+') with
  | _ :: c :: front => ((c :: front).reverse, some (back.takeWhile (· ≠ '+')).reverse)
  | _ => (cs, none)

/-- The media type of a text, in lower case. -/
def ofText? (s : String) : Option MediaType := do
  let cs := s.toLower.toList
  let (type, rest) := cs.span Http.isTokenChar
  guard (!type.isEmpty)
  let '/' :: rest := rest | none
  let (subtype, rest) := rest.span Http.isTokenChar
  guard (!subtype.isEmpty || rest.isEmpty)
  match rest with
  | [] => pure ()
  | ';' :: rest => guard (parametersFit (rest.length + 1) rest)
  | _ => none
  let (name, suffix) := splitSuffix subtype
  pure ⟨String.ofList type, String.ofList name, suffix.map String.ofList⟩

/-- The media type is one of JSON. -/
def isJson (m : MediaType) : Bool :=
  m.type == "application" && (m.subtype == "json" || m.suffix == some "json")

end MediaType

end Gatehouse
