import Gatehouse.Bytes.Hex

/-! # Reading UTF-8

Bytes as characters. Each well-formed group of one to four bytes is one character; a byte that
begins no such group is `none`, and reading goes on behind it. A byte string is UTF-8 exactly when
no `none` appears. -/

namespace Gatehouse.Utf8

/-- A continuation byte in the given bounds, as six bits. -/
def tail? (lo hi : Nat) (b : UInt8) : Option Nat :=
  if lo ≤ b.toNat && b.toNat ≤ hi then some (b.toNat - 0x80) else none

/-- The character at the head of a byte string, with the number of bytes it takes. -/
def head? : Bytes → Option (Char × Nat)
  | [] => none
  | a :: rest =>
    let n := a.toNat
    if n < 0x80 then some (Char.ofNat n, 1)
    else if 0xC2 ≤ n && n ≤ 0xDF then
      match rest with
      | b :: _ => do
        let y ← tail? 0x80 0xBF b
        pure (Char.ofNat ((n - 0xC0) * 64 + y), 2)
      | _ => none
    else if 0xE0 ≤ n && n ≤ 0xEF then
      match rest with
      | b :: c :: _ => do
        let y ← tail? (if n = 0xE0 then 0xA0 else 0x80) (if n = 0xED then 0x9F else 0xBF) b
        let z ← tail? 0x80 0xBF c
        pure (Char.ofNat (((n - 0xE0) * 64 + y) * 64 + z), 3)
      | _ => none
    else if 0xF0 ≤ n && n ≤ 0xF4 then
      match rest with
      | b :: c :: d :: _ => do
        let y ← tail? (if n = 0xF0 then 0x90 else 0x80) (if n = 0xF4 then 0x8F else 0xBF) b
        let z ← tail? 0x80 0xBF c
        let w ← tail? 0x80 0xBF d
        pure (Char.ofNat ((((n - 0xF0) * 64 + y) * 64 + z) * 64 + w), 4)
      | _ => none
    else none

/-- Characters of a byte string; `skip` bytes belong to the character read last. -/
def decodeFrom (skip : Nat) : Bytes → List (Option Char)
  | [] => []
  | b :: rest =>
    match skip with
    | k + 1 => decodeFrom k rest
    | 0 =>
      match head? (b :: rest) with
      | some (c, n) => some c :: decodeFrom (n - 1) rest
      | none => none :: decodeFrom 0 rest

/-- The characters of a byte string, `none` for each byte that belongs to none. -/
def decode (bs : Bytes) : List (Option Char) := decodeFrom 0 bs

/-- The text that the bytes write, if they are UTF-8. -/
def text? (bs : Bytes) : Option String :=
  ((decode bs).mapM id).map String.ofList

/-- The number of bytes, at the head of a byte string that begins no character, that could begin
one: they count as one error. -/
def brokenLength : Bytes → Nat
  | a :: b :: rest =>
    let n := a.toNat
    if 0xE0 ≤ n && n ≤ 0xEF then
      if (tail? (if n = 0xE0 then 0xA0 else 0x80) (if n = 0xED then 0x9F else 0xBF) b).isSome then 2
      else 1
    else if 0xF0 ≤ n && n ≤ 0xF4 then
      if (tail? (if n = 0xF0 then 0x90 else 0x80) (if n = 0xF4 then 0x8F else 0xBF) b).isSome then
        if rest.head?.any fun c => (tail? 0x80 0xBF c).isSome then 3 else 2
      else 1
    else 1
  | _ => 1

/-- Characters of a byte string, each error replaced; `skip` bytes are dealt with already. -/
def replaceFrom (skip : Nat) : Bytes → List Char
  | [] => []
  | b :: rest =>
    match skip with
    | k + 1 => replaceFrom k rest
    | 0 =>
      match head? (b :: rest) with
      | some (c, n) => c :: replaceFrom (n - 1) rest
      | none => Char.ofNat 0xFFFD :: replaceFrom (brokenLength (b :: rest) - 1) rest

/-- The text that the bytes write, with a replacement character for each error. -/
def replaced (bs : Bytes) : String := String.ofList (replaceFrom 0 bs)

end Gatehouse.Utf8
