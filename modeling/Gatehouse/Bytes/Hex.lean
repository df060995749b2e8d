/-! # Bytes and hexadecimal

A byte string is a list of bytes. In hexadecimal each byte is two lower-case digits, the high half
first; reading takes digits of either case and refuses an odd count. -/

namespace Gatehouse

/-- A byte string. -/
abbrev Bytes := List UInt8

namespace Bytes

/-- The UTF-8 bytes of a text. -/
def ofText (s : String) : Bytes := s.toUTF8.toList

/-- The number that bytes write, the first the highest. -/
def number (bs : Bytes) : Nat := bs.foldl (fun n b => 256 * n + b.toNat) 0

/-- A half byte as a digit. -/
def hexDigit (n : Nat) : Char :=
  if n < 10 then Char.ofNat (48 + n) else Char.ofNat (87 + n)

/-- The two digits of a byte. -/
def hexPair (b : UInt8) : List Char := [hexDigit (b.toNat / 16), hexDigit (b.toNat % 16)]

/-- A byte string in hexadecimal. -/
def toHex (bs : Bytes) : String := String.ofList (bs.flatMap hexPair)

/-- The value of a digit of either case. -/
def hexDigitValue? (c : Char) : Option Nat :=
  let n := c.toNat
  if 48 ≤ n && n ≤ 57 then some (n - 48)
  else if 97 ≤ n && n ≤ 102 then some (n - 87)
  else if 65 ≤ n && n ≤ 70 then some (n - 55)
  else none

/-- The bytes that pairs of digits write. -/
def ofHexDigits? : List Char → Option Bytes
  | [] => some []
  | a :: b :: rest => do
    let x ← hexDigitValue? a
    let y ← hexDigitValue? b
    let bs ← ofHexDigits? rest
    pure (UInt8.ofNat (16 * x + y) :: bs)
  | [_] => none

/-- The bytes that a text writes in hexadecimal. -/
def ofHex? (s : String) : Option Bytes := ofHexDigits? s.toList

end Bytes

end Gatehouse
