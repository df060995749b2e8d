import Gatehouse.Text.Cut

/-! # Resource identifiers

An identifier is a star, a path alone, an authority alone, or a scheme, an authority and perhaps a
path; a query may follow a path, and a fragment behind it is dropped unseen. An authority may name a
user, holds at most one colon outside brackets, and escapes only in the user's name. Paths and
queries may hold characters outside ASCII as they are. -/

namespace Gatehouse

/-- An identifier of a resource, taken apart. -/
structure Uri where
  scheme : Option String := none
  authority : String := ""
  /-- The path; behind an authority, the root if none is written. -/
  path : String := ""
  query : Option String := none
  deriving DecidableEq, Repr

namespace Uri

/-- What is wrong with an identifier. -/
inductive Fault where
  | empty
  | tooLong
  | badCharacter
  | badAuthority
  | badFormat
  | longScheme
  deriving DecidableEq, Repr

/-- What is said of a fault. -/
def Fault.message : Fault → String
  | empty => "empty string"
  | tooLong => "uri too long"
  | badCharacter => "invalid uri character"
  | badAuthority => "invalid authority"
  | badFormat => "invalid format"
  | longScheme => "scheme too long"

/-- Printable characters that must be escaped in an authority. -/
def reserved : List Char := "\"%<>\\^`\x7b|\x7d".toList

/-- The character may stand in an authority as it is. -/
def isPlain (c : Char) : Bool := 0x21 ≤ c.toNat && c.toNat ≤ 0x7E && !reserved.contains c

/-- The character may stand in the name of a scheme. -/
def isSchemeChar (c : Char) : Bool := c.isAlphanum || c = '+' || c = '-' || c = '.' || c = '~'

/-- The character may stand in a path. -/
def isPathChar (c : Char) : Bool :=
  let n := c.toNat
  n = 0x21 || n = 0x22 || 0x24 ≤ n && n ≤ 0x3B || n = 0x3D || 0x40 ≤ n && n ≤ 0x5F || 0x61 ≤ n

/-- The character may stand in a query. -/
def isQueryChar (c : Char) : Bool :=
  let n := c.toNat
  n = 0x21 || 0x24 ≤ n && n ≤ 0x3B || n = 0x3D || 0x3F ≤ n

/-- What was seen of an authority. -/
structure Seen where
  colons : Nat := 0
  opened : Bool := false
  closed : Bool := false
  /-- An escape stands outside the user's name. -/
  escaped : Bool := false
  /-- The last character was an at sign. -/
  endsWithAt : Bool := false

/-- One character of an authority. -/
def Seen.step (s : Seen) (c : Char) : Except Fault Seen :=
  let s := { s with endsWithAt := false }
  match c with
  | ':' => if 8 ≤ s.colons then .error .badAuthority else .ok { s with colons := s.colons + 1 }
  | '[' => if s.escaped || s.opened then .error .badAuthority else .ok { s with opened := true }
  | ']' =>
    if !s.opened || s.closed then .error .badAuthority
    else .ok { s with closed := true, colons := 0, escaped := false }
  | '@' => .ok { s with colons := 0, escaped := false, endsWithAt := true }
  | '%' => .ok { s with escaped := true }
  | c => if isPlain c then .ok s else .error .badCharacter

/-- The character ends an authority. -/
def endsAuthority (c : Char) : Bool := c = '/' || c = '?' || c = '#'

/-- An authority and the characters behind it. -/
def authority? (cs : List Char) : Except Fault (List Char × List Char) := do
  let (authority, rest) := cs.span fun c => !endsAuthority c
  let s ← authority.foldlM Seen.step {}
  if s.opened != s.closed || 1 < s.colons || s.endsWithAt || s.escaped then throw .badAuthority
  pure (authority, rest)

/-- A path with a query, behind a scheme and an authority. -/
def withPath (front : Uri) (cs : List Char) : Except Fault Uri :=
  let cs := cs.takeWhile (· ≠ '#')
  let (path, tail) := cs.span (· ≠ '?')
  if path.all isPathChar && (tail.drop 1).all isQueryChar then
    .ok { front with
      path := if path.isEmpty then "/" else String.ofList path
      query := if tail.isEmpty then none else some (String.ofList (tail.drop 1)) }
  else .error .badCharacter

/-- The longest identifier, in bytes. -/
def longest : Nat := 65534

/-- The longest name of a scheme. -/
def longestScheme : Nat := 64

/-- The name of a scheme and the characters behind its two slashes; three characters alone name
none. -/
def scheme? (cs : List Char) : Except Fault (Option (List Char × List Char)) :=
  let (name, rest) := cs.span isSchemeChar
  match Text.after? [':', '/', '/'] rest with
  | some rest =>
    if name.isEmpty && rest.isEmpty then .ok none
    else if longestScheme < name.length then .error .longScheme
    else .ok (some (name, rest))
  | none => .ok none

/-- An identifier that is an authority alone; anything behind it is a fault. -/
def onlyAuthority (cs : List Char) (fault : Fault) : Except Fault Uri := do
  let (authority, rest) ← authority? cs
  unless rest.isEmpty do throw fault
  pure { authority := String.ofList authority }

/-- The identifier that a text writes. -/
def ofText (s : String) : Except Fault Uri := do
  if s.isEmpty then throw .empty
  if longest < s.utf8ByteSize then throw .tooLong
  match s.toList with
  | ['*'] => pure { path := "*" }
  | '/' :: cs => withPath {} ('/' :: cs)
  | [c] => onlyAuthority [c] .badCharacter
  | cs =>
    match ← scheme? cs with
    | none => onlyAuthority cs .badFormat
    | some (scheme, rest) =>
      if rest.isEmpty then throw .empty
      let (authority, rest) ← authority? rest
      if authority.isEmpty then throw .badFormat
      withPath { scheme := some (String.ofList scheme), authority := String.ofList authority } rest

end Uri

end Gatehouse
