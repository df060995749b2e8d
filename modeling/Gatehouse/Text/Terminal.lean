import Gatehouse.Bytes.Utf8

/-! # Plain text

A text may hold commands for a terminal: sequences of bytes that begin with the escape byte. A
message shows such a text without them, and without control bytes other than blanks. A blank inside
a sequence is shown and suspends it: what follows is shown as well, up to the next byte that is not,
and there the sequence goes on. -/

namespace Gatehouse.Terminal

/-- What a reader stands in. -/
inductive State where
  /-- The text itself. -/
  | ground
  /-- A sequence, behind the escape byte. -/
  | escape
  /-- A sequence that ends with its next letter or digit. -/
  | short
  /-- A sequence with parameters, which ends with a letter. -/
  | control
  /-- A command to the system, which a bell ends. -/
  | command
  /-- A string that is no text. -/
  | string
  deriving DecidableEq, Repr

/-- The byte stands for a blank. -/
def isBlankByte (b : UInt8) : Bool := b == 9 || b == 10 || b == 12 || b == 13

/-- The byte belongs to a character that is shown. -/
def isShown (b : UInt8) : Bool := isBlankByte b || (32 ≤ b && b != 127)

/-- The byte goes on with a character. -/
def isContinuation (b : UInt8) : Bool := 0x80 ≤ b && b < 0xC0

namespace State

/-- Behind a byte that is no part of what is shown. -/
def next (s : State) (b : UInt8) : State :=
  if b == 0x18 || b == 0x1A then ground
  else if b == 0x1B then escape
  else match s with
    | ground => ground
    | escape =>
      if b < 0x20 || 0x7F ≤ b then escape
      else if b < 0x30 then short
      else if b == 0x5B then control
      else if b == 0x5D then command
      else if b == 0x50 || b == 0x58 || b == 0x5E || b == 0x5F then string
      else ground
    | short => if 0x30 ≤ b && b < 0x7F then ground else short
    | control => if 0x40 ≤ b && b < 0x7F then ground else control
    | command => if b == 7 then ground else command
    | string => if b == 0x9C then ground else string

/-- The byte is shown where the reader stands. -/
def shows (s : State) (b : UInt8) : Bool :=
  match s with
  | ground => isShown b
  | escape | short | control => isBlankByte b || isContinuation b
  | command | string => isContinuation b

end State

/-- The bytes that are shown; `isShowing` says whether the last byte was. -/
def shown (s : State) (isShowing : Bool) : Bytes → Bytes
  | [] => []
  | b :: rest =>
    if isShowing && isShown b then b :: shown (if 0xC0 ≤ b then .ground else s) true rest
    else if s.shows b then b :: shown (s.next b) true rest
    else shown (s.next b) false rest

/-- A text without commands for a terminal. -/
def plain (s : String) : String := Utf8.replaced (shown .ground false (Bytes.ofText s))

end Gatehouse.Terminal
