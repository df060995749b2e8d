import Gatehouse.Bytes.Hex
import Gatehouse.Json.Basic

/-! # Writing JSON

The compact text of a value: no blanks, members in their order. Inside a string only the quote, the
backslash and the control characters are escaped, the five common controls by a letter and the
others by four hexadecimal digits. A string that denotes no text is written as half a surrogate
pair, which reads back as a string that denotes no text. -/

namespace Gatehouse.Json

/-- A character inside a string literal. -/
def escapeChar (c : Char) : List Char :=
  if c = '"' then ['\\', '"']
  else if c = '\\' then ['\\', '\\']
  else if c.toNat = 8 then ['\\', 'b']
  else if c.toNat = 9 then ['\\', 't']
  else if c.toNat = 10 then ['\\', 'n']
  else if c.toNat = 12 then ['\\', 'f']
  else if c.toNat = 13 then ['\\', 'r']
  else if c.toNat < 0x20 then
    ['\\', 'u', '0', '0', Bytes.hexDigit (c.toNat / 16), Bytes.hexDigit (c.toNat % 16)]
  else [c]

/-- A string literal. -/
def stringChars : Option String → List Char
  | some s => '"' :: (s.toList.flatMap escapeChar ++ ['"'])
  | none => ['"', '\\', 'u', 'd', '8', '0', '0', '"']

/-- The decimal digits of an integer. -/
def integerChars (i : Int) : List Char :=
  if i < 0 then '-' :: Nat.toDigits 10 i.natAbs else Nat.toDigits 10 i.natAbs

mutual

/-- The characters of a value. -/
def chars : Json → List Char
  | .null => ['n', 'u', 'l', 'l']
  | .bool true => ['t', 'r', 'u', 'e']
  | .bool false => ['f', 'a', 'l', 's', 'e']
  | .integer i => integerChars i
  | .decimal literal => literal.toList
  | .string s => stringChars s
  | .array items => '[' :: itemsChars items
  | .object members => '\x7b' :: membersChars members

/-- The items of an array and its closing bracket. -/
def itemsChars : List Json → List Char
  | [] => [']']
  | [j] => j.chars ++ [']']
  | j :: k :: rest => j.chars ++ ',' :: itemsChars (k :: rest)

/-- The members of an object and its closing brace. -/
def membersChars : List (Option String × Json) → List Char
  | [] => ['\x7d']
  | [(name, j)] => stringChars name ++ ':' :: (j.chars ++ ['\x7d'])
  | (name, j) :: m :: rest =>
    stringChars name ++ ':' :: (j.chars ++ ',' :: membersChars (m :: rest))

end

/-- The compact text of a value. -/
def compact (j : Json) : String := String.ofList j.chars

end Gatehouse.Json
