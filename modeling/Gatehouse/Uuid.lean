import Gatehouse.Bytes.Hex

/-! # Universally unique identifiers

A hundred and twenty-eight bits, written as thirty-two hexadecimal digits with hyphens after the
eighth, twelfth, sixteenth and twentieth. Reading takes digits of either case, and also the digits
without hyphens, and the hyphenated form in braces or behind `urn:uuid:`, in either case too. -/

namespace Gatehouse

/-- An identifier. -/
structure Uuid where
  bits : BitVec 128
  deriving DecidableEq, Repr, Inhabited

namespace Uuid

/-- The identifier whose bits are all zero. -/
def nil : Uuid := ⟨0⟩

/-- The hexadecimal digit at a position, counted from the left. -/
def digit (u : Uuid) (i : Nat) : Char := Bytes.hexDigit ((u.bits.toNat >>> (4 * (31 - i))) % 16)

/-- The thirty-two digits. -/
def digits (u : Uuid) : List Char := (List.range 32).map u.digit

/-- Digits with the four hyphens. -/
def hyphenated (ds : List Char) : List Char :=
  ds.take 8 ++ '-' :: ((ds.drop 8).take 4 ++ '-' :: ((ds.drop 12).take 4 ++ '-' ::
    ((ds.drop 16).take 4 ++ '-' :: ds.drop 20)))

/-- The hyphenated text of an identifier. -/
def text (u : Uuid) : String := String.ofList (hyphenated u.digits)

instance : ToString Uuid := ⟨text⟩

/-- The identifier that thirty-two digits write. -/
def ofDigits? (ds : List Char) : Option Uuid := do
  guard (ds.length = 32)
  let n ← ds.foldlM (fun n d => do pure (16 * n + (← Bytes.hexDigitValue? d))) 0
  pure ⟨BitVec.ofNat 128 n⟩

/-- The identifier that thirty-two digits and four hyphens write. -/
def ofHyphenated? (cs : List Char) : Option Uuid :=
  match cs[8]?, cs[13]?, cs[18]?, cs[23]? with
  | some '-', some '-', some '-', some '-' =>
    ofDigits? (cs.take 8 ++ (cs.drop 9).take 4 ++ (cs.drop 14).take 4 ++ (cs.drop 19).take 4 ++
      cs.drop 24)
  | _, _, _, _ => none

/-- The identifier that a text writes, in any of the accepted forms. -/
def ofText? (s : String) : Option Uuid :=
  let cs := s.toList
  if cs.length = 32 then ofDigits? cs
  else if cs.length = 36 then ofHyphenated? cs
  else if cs.length = 38 then
    if cs.head? = some '\x7b' && cs.getLast? = some '\x7d' then ofHyphenated? (cs.drop 1).dropLast
    else none
  else if cs.length = 45 then
    if (String.ofList (cs.take 9)).toLower = "urn:uuid:" then ofHyphenated? (cs.drop 9) else none
  else none

/-- The version: which rule the bits were made by. -/
def version (u : Uuid) : Nat := (u.bits >>> 76).toNat % 16

/-- The bits of an identifier that name its rule: four for the version, two for the layout. -/
def ruleMask : BitVec 128 := ((0xF : BitVec 128) <<< 76) ||| ((0x3 : BitVec 128) <<< 62)

/-- The rule bits of a version. -/
def ruleBits (version : BitVec 128) : BitVec 128 := (version <<< 76) ||| ((0x2 : BitVec 128) <<< 62)

/-- A random identifier, version 4, from a random number. -/
def random (n : Nat) : Uuid :=
  ⟨(BitVec.ofNat 128 n &&& ~~~ruleMask) ||| ruleBits 4⟩

/-- An identifier that sorts by time, version 7, from milliseconds since 1970 and a random
number. -/
def timeOrdered (millis n : Nat) : Uuid :=
  let bits : BitVec 128 := BitVec.ofNat 48 millis ++ BitVec.ofNat 80 n
  ⟨(bits &&& ~~~ruleMask) ||| ruleBits 7⟩

end Uuid

end Gatehouse
