import Gatehouse.Json.Basic

/-! # Log entries

An entry has a level, the part of the program that it comes from, and a message. It is shown as a
line of text behind a time, or as an object. In the line, characters that a terminal would take for
commands are written as escapes. -/

namespace Gatehouse.Log

/-- How grave an entry is. -/
inductive Level where
  | error
  | warn
  | info
  | debug
  | trace
  deriving DecidableEq, Repr

namespace Level

/-- The place of a level: the gravest is first. -/
def rank : Level → Nat
  | error => 1
  | warn => 2
  | info => 3
  | debug => 4
  | trace => 5

/-- The name of a level. -/
def text : Level → String
  | error => "ERROR"
  | warn => "WARN"
  | info => "INFO"
  | debug => "DEBUG"
  | trace => "TRACE"

/-- The level that a verbosity asks for. -/
def ofVerbosity : Nat → Level
  | 0 => error
  | 1 => warn
  | 2 => info
  | 3 => debug
  | _ => trace

/-- The name of a level, five characters wide. -/
def padded (l : Level) : String := if l.text.length < 5 then " " ++ l.text else l.text

end Level

/-- An entry of the log. -/
structure Entry where
  level : Level
  /-- The part of the program that the entry comes from. -/
  target : String
  message : String
  deriving DecidableEq, Repr

/-- A character as a line shows it. -/
def lineChar (c : Char) : String :=
  let n := c.toNat
  if n = 0x1B then "\\x1b"
  else if n = 0x07 then "\\x07"
  else if n = 0x08 then "\\x08"
  else if n = 0x0C then "\\x0c"
  else if n = 0x7F then "\\x7f"
  else if 0x80 ≤ n && n ≤ 0x9F then
    "\\u\x7b" ++ String.ofList (Nat.toDigits 16 n) ++ "\x7d"
  else c.toString

namespace Entry

/-- The names of the fields of an entry. -/
def fieldNames (_ : Entry) : List String := ["message"]

/-- The entry as text, to stand behind a time. -/
def line (e : Entry) : String :=
  e.level.padded ++ " " ++ String.join (e.message.toList.map lineChar)

/-- The members of the entry as an object, the time apart. -/
def members (e : Entry) : List (String × Json) :=
  [("level", .text e.level.text), ("fields", .obj [("message", .text e.message)])]

/-- The entry of a time as an object. -/
def toJson (e : Entry) (time : String) : Json := .obj (("timestamp", .text time) :: e.members)

end Entry

end Gatehouse.Log
