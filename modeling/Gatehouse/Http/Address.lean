import Gatehouse.Bytes.Hex

/-! # Network addresses

The address of a peer: four bytes, or eight groups of sixteen bits. The long form is written with
the longest run of two zero groups or more left out, the first of several; an address that holds a
short one shows it. -/

namespace Gatehouse

/-- An address. -/
inductive IpAddress where
  | v4 (bytes : List Nat)
  | v6 (groups : List Nat)
  deriving DecidableEq, Repr

namespace IpAddress

/-- Four numbers with dots between them. -/
def dotted (bytes : List Nat) : String := ".".intercalate (bytes.map toString)

/-- A group in hexadecimal. -/
def groupText (n : Nat) : String := String.ofList (Nat.toDigits 16 n)

/-- The number of zeros at the head of a list. -/
def zeroRun : List Nat → Nat
  | 0 :: rest => zeroRun rest + 1
  | _ => 0

/-- The longest run of zeros: where it begins and how long it is. -/
def longestZeros (groups : List Nat) : Nat × Nat :=
  (List.range groups.length).foldl (fun best i =>
    let n := zeroRun (groups.drop i)
    if best.2 < n then (i, n) else best) (0, 0)

/-- Groups with colons between them. -/
def coloned (groups : List Nat) : String := ":".intercalate (groups.map groupText)

/-- The text of an address. -/
def text : IpAddress → String
  | v4 bytes => dotted bytes
  | v6 [0, 0, 0, 0, 0, 0xFFFF, hi, lo] =>
    "::ffff:" ++ dotted [hi / 256, hi % 256, lo / 256, lo % 256]
  | v6 groups =>
    let (start, length) := longestZeros groups
    if 2 ≤ length then
      coloned (groups.take start) ++ "::" ++ coloned (groups.drop (start + length))
    else coloned groups

/-- A decimal number of at most three digits, below 256 and without needless zeros. -/
def byte? (s : String) : Option Nat := do
  let ds := s.toList
  guard (!ds.isEmpty && ds.length ≤ 3 && ds.all Char.isDigit)
  guard (ds.length = 1 || ds.head? != some '0')
  let n : Nat := ds.foldl (fun n d => 10 * n + (d.toNat - 48)) 0
  guard (n < 256)
  pure n

/-- Four bytes. -/
def v4? (s : String) : Option (List Nat) := do
  let bytes ← (s.splitOn ".").mapM byte?
  guard (bytes.length = 4)
  pure bytes

/-- A group of one to four hexadecimal digits. -/
def group? (s : String) : Option Nat := do
  let ds := s.toList
  guard (!ds.isEmpty && ds.length ≤ 4)
  ds.foldlM (fun n d => do pure (16 * n + (← Bytes.hexDigitValue? d))) 0

/-- Groups with colons between them, perhaps none. -/
def groups? (s : String) : Option (List Nat) :=
  if s.isEmpty then some [] else (s.splitOn ":").mapM group?

/-- Groups at the end of an address: the last two may be written as four bytes. -/
def tailGroups? (s : String) : Option (List Nat) :=
  let parts := s.splitOn ":"
  match v4? (parts.getLast?.getD "") with
  | some [a, b, c, d] => do
    let front ← parts.dropLast.mapM group?
    pure (front ++ [a * 256 + b, c * 256 + d])
  | _ => groups? s

/-- Eight groups, a run of zeros perhaps left out. -/
def v6? (s : String) : Option (List Nat) :=
  match s.splitOn "::" with
  | [all] => do
    let groups ← tailGroups? all
    guard (groups.length = 8)
    pure groups
  | [front, back] => do
    let front ← groups? front
    let back ← tailGroups? back
    guard (front.length + back.length < 8)
    pure (front ++ List.replicate (8 - front.length - back.length) 0 ++ back)
  | _ => none

/-- The address of a peer, behind which its port stands. -/
def ofPeer? (s : String) : Option IpAddress :=
  if s.startsWith "[" then
    match s.splitOn "]" with
    | [address, _] =>
      let address := ((address.drop 1).toString.splitOn "%").headD ""
      (v6? address).map v6
    | _ => none
  else
    match s.splitOn ":" with
    | [address, _] => (v4? address).map v4
    | _ => none

end IpAddress

end Gatehouse
