/-! # Cutting texts

A text is cut at the first or at the last place where a mark stands; the mark itself is dropped. A
text without the mark is not cut. A piece of a text can also be cut out between two places, which
are counts of bytes. -/

namespace Gatehouse.Text

/-- The characters behind a fixed beginning. -/
def after? : List Char → List Char → Option (List Char)
  | [], cs => some cs
  | p :: ps, c :: cs => if p = c then after? ps cs else none
  | _ :: _, [] => none

/-- The characters before and behind the first place of a mark. -/
def cutChars? (mark : List Char) : List Char → Option (List Char × List Char)
  | [] => (after? mark []).map fun rest => ([], rest)
  | c :: cs =>
    match after? mark (c :: cs) with
    | some rest => some ([], rest)
    | none => (cutChars? mark cs).map fun (front, rest) => (c :: front, rest)

/-- The text before and behind the first place of a mark. -/
def cutFirst? (mark s : String) : Option (String × String) :=
  (cutChars? mark.toList s.toList).map fun (front, rest) =>
    (String.ofList front, String.ofList rest)

/-- The text before and behind the last place of a character. -/
def cutLast? (mark : Char) (s : String) : Option (String × String) :=
  let back := s.toList.reverse
  match back.dropWhile (· ≠ mark) with
  | [] => none
  | _ :: front =>
    some (String.ofList front.reverse, String.ofList (back.takeWhile (· ≠ mark)).reverse)

/-- The text behind a fixed beginning. -/
def behind? (start s : String) : Option String := (after? start.toList s.toList).map String.ofList

/-- Characters with their places, the first at the place `i`. -/
def places (i : Nat) : List Char → List (Nat × Char)
  | [] => []
  | c :: cs => (i, c) :: places (i + c.utf8Size) cs

/-- The characters before and behind a place, unless it lies inside a character or beyond the
end. -/
def splitAt? (place : Nat) : List Char → Option (List Char × List Char)
  | [] => if place = 0 then some ([], []) else none
  | c :: cs =>
    if place = 0 then some ([], c :: cs)
    else if place < c.utf8Size then none
    else (splitAt? (place - c.utf8Size) cs).map fun (front, rest) => (c :: front, rest)

/-- The piece of a text from one place to another, unless one of them lies inside a character. -/
def cut? (s : String) (start stop : Nat) : Option String := do
  let (_, rest) ← splitAt? start s.toList
  let (piece, _) ← splitAt? (stop - start) rest
  pure (String.ofList piece)

end Gatehouse.Text
