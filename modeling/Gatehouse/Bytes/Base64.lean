import Gatehouse.Bytes.Hex

/-! # Base64

Bytes regrouped six bits at a time, the high bits first, each group written as one character of an
alphabet of sixty-four. Two forms are used: the *standard* form fills the last group of four
characters with `=`, and the *bare* form leaves it short. Reading is strict: it accepts exactly the
texts that writing produces, so the spare bits of a last short group must be zero. -/

namespace Gatehouse.Base64

/-- An alphabet: which character stands for which six bits. -/
structure Alphabet where
  chars : String
  deriving DecidableEq, Repr

/-- The letters, the digits, plus and slash. -/
def standard : Alphabet :=
  ⟨"ABCDEFGHIJKLMNOPQRSTUVWXYZabcdefghijklmnopqrstuvwxyz0123456789+/"⟩

/-- The letters, the digits, minus and underscore: safe in a URL. -/
def urlSafe : Alphabet :=
  ⟨"ABCDEFGHIJKLMNOPQRSTUVWXYZabcdefghijklmnopqrstuvwxyz0123456789-_"⟩

/-- Dot, slash, the letters and the digits: the alphabet of password hashes. -/
def passwordHash : Alphabet :=
  ⟨"./ABCDEFGHIJKLMNOPQRSTUVWXYZabcdefghijklmnopqrstuvwxyz0123456789"⟩

/-- The character for six bits. -/
def Alphabet.char (a : Alphabet) (n : Nat) : Char := a.chars.toList.getD n '='

/-- The six bits that a character stands for. -/
def Alphabet.value? (a : Alphabet) (c : Char) : Option Nat := a.chars.toList.idxOf? c

/-- The sextets of a byte string, high bits first; a last short group is filled with zero bits. -/
def sextets : Bytes → List Nat
  | [] => []
  | [x] => [x.toNat / 4, x.toNat % 4 * 16]
  | [x, y] => [x.toNat / 4, x.toNat % 4 * 16 + y.toNat / 16, y.toNat % 16 * 4]
  | x :: y :: z :: rest =>
    x.toNat / 4 :: (x.toNat % 4 * 16 + y.toNat / 16) :: (y.toNat % 16 * 4 + z.toNat / 64) ::
      z.toNat % 64 :: sextets rest

/-- The bytes that sextets write, if their count is possible and the spare bits are zero. -/
def ofSextets? : List Nat → Option Bytes
  | [] => some []
  | [_] => none
  | [a, b] => if b % 16 = 0 then some [UInt8.ofNat (a * 4 + b / 16)] else none
  | [a, b, c] =>
    if c % 4 = 0 then
      some [UInt8.ofNat (a * 4 + b / 16), UInt8.ofNat (b % 16 * 16 + c / 4)]
    else none
  | a :: b :: c :: d :: rest => do
    let bs ← ofSextets? rest
    pure (UInt8.ofNat (a * 4 + b / 16) :: UInt8.ofNat (b % 16 * 16 + c / 4) ::
      UInt8.ofNat (c % 4 * 64 + d) :: bs)

/-- The bare form: no filling at the end. -/
def encodeBare (a : Alphabet) (bs : Bytes) : String :=
  String.ofList ((sextets bs).map a.char)

/-- The filling that completes the last group of four characters. -/
def padding (count : Nat) : List Char := List.replicate ((4 - count % 4) % 4) '='

/-- The standard form: filled up to groups of four characters. -/
def encode (a : Alphabet) (bs : Bytes) : String :=
  let body := (sextets bs).map a.char
  String.ofList (body ++ padding body.length)

/-- The bytes that a text writes in the bare form. -/
def decodeBare? (a : Alphabet) (s : String) : Option Bytes := do
  ofSextets? (← s.toList.mapM a.value?)

end Gatehouse.Base64
