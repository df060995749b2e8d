import Gatehouse.Json.Basic
import Gatehouse.Bytes.Utf8

/-! # Reading JSON

The reader takes characters, `none` standing for a byte that is part of no character. Such a byte
may only stand inside a string, which then denotes no text. A value is read from the head of the
input and the rest is handed back, so a caller decides whether anything may follow. Nothing is
refused for being large or deep: `fuel` bounds the nesting, and the length of the input is
enough. -/

namespace Gatehouse.Json

/-- Characters to read, `none` for a byte that belongs to none. -/
abbrev Input := List (Option Char)

/-- The characters of a text. -/
def Input.ofText (s : String) : Input := s.toList.map some

/-- The four blanks of the format. -/
def isSpace : Option Char → Bool
  | some c => c = ' ' || c = '\n' || c = '\t' || c = '\r'
  | none => false

/-- The input without leading blanks. -/
def skipSpace (cs : Input) : Input := cs.dropWhile isSpace

/-- The value of a hexadecimal digit. -/
def hexValue? : Option Char → Option Nat
  | some c => Bytes.hexDigitValue? c
  | none => none

/-- The number that four digits write. -/
def unit? (a b c d : Option Char) : Option Nat := do
  let a ← hexValue? a
  let b ← hexValue? b
  let c ← hexValue? c
  let d ← hexValue? d
  pure (((a * 16 + b) * 16 + c) * 16 + d)

/-- A part of a string literal: a character, a sixteen-bit unit written by an escape, or a byte that
belongs to no character. -/
inductive Piece where
  | char (c : Char)
  | unit (n : Nat)
  | junk
  deriving DecidableEq, Repr

/-- The character that a one-letter escape writes. -/
def escape? (c : Char) : Option Char :=
  if c = '"' || c = '\\' || c = '/' then some c
  else if c = 'b' then some (Char.ofNat 8)
  else if c = 'f' then some (Char.ofNat 12)
  else if c = 'n' then some '\n'
  else if c = 'r' then some '\r'
  else if c = 't' then some '\t'
  else none

/-- The pieces of a string literal up to its closing quote, and the input behind it. -/
def pieces? : Input → Option (List Piece × Input)
  | some '"' :: rest => some ([], rest)
  | some '\\' :: some 'u' :: a :: b :: c :: d :: rest => do
    let n ← unit? a b c d
    let (ps, rest) ← pieces? rest
    pure (.unit n :: ps, rest)
  | some '\\' :: some e :: rest => do
    let c ← escape? e
    let (ps, rest) ← pieces? rest
    pure (.char c :: ps, rest)
  | some '\\' :: _ => none
  | some c :: rest => do
    guard (0x20 ≤ c.toNat)
    let (ps, rest) ← pieces? rest
    pure (.char c :: ps, rest)
  | none :: rest => do
    let (ps, rest) ← pieces? rest
    pure (.junk :: ps, rest)
  | [] => none

/-- The first half of a surrogate pair. -/
def isHighSurrogate (n : Nat) : Bool := 0xD800 ≤ n && n ≤ 0xDBFF

/-- The second half of a surrogate pair. -/
def isLowSurrogate (n : Nat) : Bool := 0xDC00 ≤ n && n ≤ 0xDFFF

/-- The characters that pieces write, unless half a pair stands alone or a byte is stray. -/
def assemble? : List Piece → Option (List Char)
  | [] => some []
  | .char c :: rest => (assemble? rest).map (c :: ·)
  | .junk :: _ => none
  | .unit n :: rest =>
    if isHighSurrogate n then
      match rest with
      | .unit m :: rest =>
        if isLowSurrogate m then
          (assemble? rest).map (Char.ofNat (0x10000 + (n - 0xD800) * 0x400 + (m - 0xDC00)) :: ·)
        else none
      | _ => none
    else if isLowSurrogate n then none
    else (assemble? rest).map (Char.ofNat n :: ·)

/-- A string literal behind its opening quote: the text it denotes, if any. -/
def string? (cs : Input) : Option (Option String × Input) := do
  let (ps, rest) ← pieces? cs
  pure ((assemble? ps).map String.ofList, rest)

/-- A decimal digit. -/
def isDigit : Option Char → Bool
  | some c => c.isDigit
  | none => false

/-- The digits at the head of the input, and the input behind them. -/
def digits (cs : Input) : List Char × Input :=
  ((cs.takeWhile isDigit).filterMap id, cs.dropWhile isDigit)

/-- The number that decimal digits write. -/
def ofDigits (ds : List Char) : Nat := ds.foldl (fun n d => 10 * n + (d.toNat - 48)) 0

/-- A fraction: a point and at least one digit; nothing if no point follows. -/
def fraction? : Input → Option (List Char × Input)
  | some '.' :: rest =>
    match digits rest with
    | ([], _) => none
    | (ds, rest) => some ('.' :: ds, rest)
  | cs => some ([], cs)

/-- An exponent: a letter, perhaps a sign, and at least one digit; nothing if no letter follows. -/
def exponent? : Input → Option (List Char × Input)
  | some e :: rest =>
    if e = 'e' || e = 'E' then
      let (sign, rest) : List Char × Input :=
        match rest with
        | some '+' :: rest => (['+'], rest)
        | some '-' :: rest => (['-'], rest)
        | _ => ([], rest)
      match digits rest with
      | ([], _) => none
      | (ds, rest) => some (e :: (sign ++ ds), rest)
    else some ([], some e :: rest)
  | cs => some ([], cs)

/-- A number, its sign already read: whole digits without a needless zero in front, then fraction
and exponent. -/
def number? (negative : Bool) (cs : Input) : Option (Json × Input) := do
  let (whole, rest) := digits cs
  guard (!whole.isEmpty)
  guard (whole.length = 1 || whole.head? != some '0')
  let (frac, rest) ← fraction? rest
  let (exp, rest) ← exponent? rest
  let n := ofDigits whole
  if frac.isEmpty && exp.isEmpty && !(negative && n == 0) then
    pure (.integer (if negative then -(n : Int) else n), rest)
  else
    let sign := if negative then ['-'] else []
    pure (.decimal (String.ofList (sign ++ whole ++ frac ++ exp)), rest)

mutual

/-- The value at the head of the input, leading blanks skipped. -/
def value? (fuel : Nat) (cs : Input) : Option (Json × Input) :=
  match fuel with
  | 0 => none
  | fuel + 1 =>
    match skipSpace cs with
    | some 'n' :: some 'u' :: some 'l' :: some 'l' :: rest => some (.null, rest)
    | some 't' :: some 'r' :: some 'u' :: some 'e' :: rest => some (.bool true, rest)
    | some 'f' :: some 'a' :: some 'l' :: some 's' :: some 'e' :: rest => some (.bool false, rest)
    | some '"' :: rest => (string? rest).map fun (s, rest) => (.string s, rest)
    | some '-' :: rest => number? true rest
    | some '[' :: rest =>
      match skipSpace rest with
      | some ']' :: rest => some (.array [], rest)
      | _ => (items? fuel rest).map fun (items, rest) => (.array items, rest)
    | some '\x7b' :: rest =>
      match skipSpace rest with
      | some '\x7d' :: rest => some (.object [], rest)
      | _ => (members? fuel rest).map fun (members, rest) => (.object members, rest)
    | cs => number? false cs

/-- One item or more, commas between them, and the closing bracket. -/
def items? (fuel : Nat) (cs : Input) : Option (List Json × Input) :=
  match fuel with
  | 0 => none
  | fuel + 1 => do
    let (j, rest) ← value? fuel cs
    match skipSpace rest with
    | some ',' :: rest => do
      let (items, rest) ← items? fuel rest
      pure (j :: items, rest)
    | some ']' :: rest => pure ([j], rest)
    | _ => none

/-- One member or more, commas between them, and the closing brace. -/
def members? (fuel : Nat) (cs : Input) : Option (List (Option String × Json) × Input) :=
  match fuel with
  | 0 => none
  | fuel + 1 =>
    match skipSpace cs with
    | some '"' :: rest => do
      let (name, rest) ← string? rest
      match skipSpace rest with
      | some ':' :: rest => do
        let (j, rest) ← value? fuel rest
        match skipSpace rest with
        | some ',' :: rest => do
          let (members, rest) ← members? fuel rest
          pure ((name, j) :: members, rest)
        | some '\x7d' :: rest => pure ([(name, j)], rest)
        | _ => none
      | _ => none
    | _ => none

end

/-- The value that an input begins with, and what follows it. -/
def leading? (cs : Input) : Option (Json × Input) := value? (2 * cs.length + 2) cs

/-- The value that an input consists of, blanks apart. -/
def ofInput? (cs : Input) : Option Json := do
  let (j, rest) ← leading? cs
  guard (skipSpace rest).isEmpty
  pure j

/-- The value that a text writes. -/
def ofText? (s : String) : Option Json := ofInput? (Input.ofText s)

/-- The value that a byte string writes. -/
def ofBytes? (bs : Bytes) : Option Json := ofInput? (Utf8.decode bs)

end Gatehouse.Json
