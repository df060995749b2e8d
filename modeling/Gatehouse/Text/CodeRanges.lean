import Gatehouse.Bytes.Hex

/-! # Sets of code points

A set of code points is a list of ranges, written in lines of text: hexadecimal bounds joined by a
hyphen, or one bound alone, ranges apart by a space, in ascending order. The tables of Unicode
properties in this folder are written so. -/

namespace Gatehouse.Text

/-- Code points from `first` to `last`, both included. -/
structure CodeRange where
  first : Nat
  last : Nat
  deriving DecidableEq, Repr

/-- The range holds the code point. -/
def CodeRange.holds (r : CodeRange) (n : Nat) : Bool := r.first ≤ n && n ≤ r.last

/-- The number that hexadecimal digits write; characters that are no digit count as zero. -/
def hexNumber (cs : List Char) : Nat :=
  cs.foldl (fun n c => 16 * n + (Bytes.hexDigitValue? c).getD 0) 0

/-- A range from its text. -/
def CodeRange.ofText (s : String) : CodeRange :=
  match s.splitOn "-" with
  | [a] => ⟨hexNumber a.toList, hexNumber a.toList⟩
  | a :: b :: _ => ⟨hexNumber a.toList, hexNumber b.toList⟩
  | [] => ⟨1, 0⟩

/-- The ranges that the lines of a table write. -/
def rangesOfLines (lines : List String) : Array CodeRange :=
  (lines.flatMap fun line => (line.splitOn " ").map CodeRange.ofText).toArray

/-- Some range of the table holds the character. -/
def inRanges (table : Array CodeRange) (c : Char) : Bool :=
  table.any (·.holds c.toNat)

end Gatehouse.Text
