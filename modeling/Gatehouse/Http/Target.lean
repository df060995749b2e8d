import Gatehouse.Bytes.Utf8
import Gatehouse.Http.Uri

/-! # Request targets

A target is a path and perhaps a query. Escapes of a percent sign and two hexadecimal digits stand
for bytes; a percent sign before anything else stands for itself. A query is a list of names and
values, in which a plus sign stands for a blank, and bytes that are not UTF-8 are replaced. -/

namespace Gatehouse

/-- A path and a query, as they are written. -/
structure Target where
  path : String
  query : Option String
  deriving DecidableEq, Repr

namespace Target

/-- Bytes with their escapes resolved. -/
def unescape : Bytes → Bytes
  | 0x25 :: a :: b :: rest =>
    match Bytes.hexDigitValue? (Char.ofNat a.toNat), Bytes.hexDigitValue? (Char.ofNat b.toNat) with
    | some x, some y => UInt8.ofNat (16 * x + y) :: unescape rest
    | _, _ => 0x25 :: unescape (a :: b :: rest)
  | b :: rest => b :: unescape rest
  | [] => []

/-- The bytes that a part of a path stands for. -/
def pathBytes (s : String) : Bytes := unescape (Bytes.ofText s)

/-- The text that a part of a query stands for. -/
def queryText (s : String) : String :=
  Utf8.replaced (unescape ((Bytes.ofText s).map fun b => if b = 0x2B then 0x20 else b))

/-- A name and a value, split at the first equals sign; without one the value is empty. -/
def pair (s : String) : String × String :=
  let cs := s.toList
  (queryText (String.ofList (cs.takeWhile (· ≠ '='))),
    queryText (String.ofList ((cs.dropWhile (· ≠ '=')).drop 1)))

/-- The names and values of a query. -/
def pairs (query : String) : List (String × String) :=
  ((query.splitOn "&").filter (· ≠ "")).map pair

/-- The values of a name in the query. -/
def values (t : Target) (name : String) : List String :=
  ((pairs (t.query.getD "")).filter (·.1 = name)).map (·.2)

/-- The target that a text writes; a scheme and an authority in front count for nothing. -/
def ofText (s : String) : Except Uri.Fault Target :=
  (Uri.ofText s).map fun u => ⟨u.path, u.query⟩

end Target

end Gatehouse
