import Gatehouse.Json.Reader

/-! # Values within bounds

A value that is kept before anyone looks into it must be one that can be kept: its strings and the
names of its members denote texts, its numbers are words of sixty-four bits or fit a double, and its
lists and objects are not nested too deep.

A number fits a double by the rule that reads it. Its leading digits make a significand, as many as
a word of sixty-four bits holds, and an exponent of ten is left over. The significand and the power
of ten are each rounded to a double, and their product must not round to infinity. -/

namespace Gatehouse.Json

/-- A significand and an exponent of ten. -/
structure Scaled where
  significand : Nat
  exponent : Int
  deriving DecidableEq, Repr

namespace Scaled

/-- A word of sixty-four bits holds the significand with a digit more. -/
def takes (s : Scaled) (d : Char) : Bool :=
  10 * s.significand + (d.toNat - 48) < UInt64.size

/-- The significand with a digit more. -/
def push (s : Scaled) (d : Char) (shift : Int) : Scaled :=
  ⟨10 * s.significand + (d.toNat - 48), s.exponent + shift⟩

/-- Whole digits: from the first that does not fit, each counts for the exponent alone. -/
def whole (s : Scaled) : List Char → Scaled
  | [] => s
  | d :: ds =>
    if s.takes d then (s.push d 0).whole ds else ⟨s.significand, s.exponent + (ds.length + 1)⟩

/-- Digits of a fraction: from the first that does not fit, they are dropped. -/
def fraction (s : Scaled) : List Char → Scaled
  | [] => s
  | d :: ds => if s.takes d then (s.push d (-1)).fraction ds else s

end Scaled

/-- The number that a literal writes, its sign apart. -/
def scaled (literal : String) : Scaled :=
  let cs := literal.toList.filter (· ≠ '-') |>.takeWhile fun c => c ≠ 'e' && c ≠ 'E'
  let tail := (literal.toList.dropWhile fun c => c ≠ 'e' && c ≠ 'E').drop 1
  let exponent : Int := ofDigits (tail.filter Char.isDigit)
  let s := (Scaled.mk 0 0).whole (cs.takeWhile (· ≠ '.'))
  let s := s.fraction ((cs.dropWhile (· ≠ '.')).drop 1)
  { s with exponent := s.exponent + (if tail.head? = some '-' then -exponent else exponent) }

/-- A number rounded to fifty-three bits, a half to the even neighbour. -/
def toDouble (n : Nat) : Nat :=
  let surplus := n.log2 - 52
  let most := n >>> surplus
  let rest := n - (most <<< surplus)
  let up := 1 <<< surplus < 2 * rest || 1 <<< surplus = 2 * rest && most % 2 = 1
  (if up then most + 1 else most) <<< surplus

/-- The least number that is rounded to infinity: half a unit above the greatest double. -/
def overflowing : Nat := (1 <<< 1024) - (1 <<< 970)

/-- The greatest power of ten that is a double. -/
def greatestPower : Nat := 308

/-- A number fits a double. -/
def Scaled.fits (s : Scaled) : Bool :=
  s.significand = 0 || s.exponent ≤ greatestPower &&
    toDouble s.significand * toDouble (Nat.pow 10 s.exponent.toNat) < overflowing

/-- The value can be kept: at most so many lists and objects stand one in the other. -/
def isBounded : Nat → Json → Bool
  | _, .null | _, .bool _ => true
  | _, .integer i => (scaled (toString i.natAbs)).fits
  | _, .decimal literal => (scaled literal).fits
  | _, .string s => s.isSome
  | depth + 1, .array items => items.all (isBounded depth)
  | depth + 1, .object members => members.all fun (name, j) => name.isSome && isBounded depth j
  | 0, .array _ | 0, .object _ => false

end Gatehouse.Json
