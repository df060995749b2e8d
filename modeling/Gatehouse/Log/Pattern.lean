import Gatehouse.Bytes.Hex
import Gatehouse.Text.Alphanumeric
import Gatehouse.Text.Blank

/-! # Patterns

A filter may ask that the value of a field match a regular expression. No value is ever matched
here, so all that counts of a pattern is whether it is one: its groups and classes are closed, its
repetitions have something to repeat, its escapes and flags are known, and it matches nothing that
is not text. Besides, a pattern is run without looking back, which bars word boundaries among the
letters of Unicode. Patterns stand between braces and commas, so a counted repetition, which ends
with a brace, is never whole. -/

namespace Gatehouse.Log.Pattern

/-- Why a pattern will not do. -/
inductive Fault where
  /-- It is no pattern. -/
  | malformed
  /-- It looks for the boundaries of words. -/
  | wordBoundary
  deriving DecidableEq, Repr

/-- What is said of a fault. -/
def Fault.message : Fault → String
  | malformed => "error building NFA"
  | wordBoundary =>
    "unsupported regex feature for DFAs: cannot build DFAs for regexes with Unicode word " ++
      "boundaries; switch to ASCII word boundaries, or heuristically enable Unicode word " ++
      "boundaries or use a different regex engine"

/-- How a part of a pattern is read. -/
structure Flags where
  /-- Characters are those of Unicode, and not bytes. -/
  unicode : Bool := true
  /-- Blanks and comments are passed over. -/
  spaced : Bool := false
  deriving DecidableEq, Repr

/-- The input behind blanks and comments; a comment runs from a number sign to the end of its
line. -/
def skipBlanks (inComment : Bool) : List Char → List Char
  | [] => []
  | c :: cs =>
    if inComment then skipBlanks (c ≠ '\n') cs
    else if Text.isBlank c then skipBlanks false cs
    else if c = '#' then skipBlanks true cs
    else c :: cs

/-- The input behind what the flags pass over. -/
def Flags.skip (f : Flags) (cs : List Char) : List Char :=
  if f.spaced then skipBlanks false cs else cs

/-! ## Escapes -/

/-- What an escape stands for. -/
inductive Escape where
  /-- A character; or a byte, if two digits write it. -/
  | literal (code : Nat) (isByte : Bool)
  /-- A class with a letter of its own, or the characters outside it. -/
  | shorthand (negated : Bool)
  /-- A general category of Unicode. -/
  | category
  /-- An end of the text. -/
  | anchor
  /-- A boundary of a word, or where none is. -/
  | boundary
  deriving DecidableEq, Repr

/-- The escape may stand in a pattern: without Unicode, only what matches ASCII alone. -/
def Escape.fits (f : Flags) : Escape → Bool
  | literal code isByte => f.unicode || !isByte || code < 0x80
  | shorthand negated => f.unicode || !negated
  | category => f.unicode
  | anchor | boundary => true

/-- The escape may stand in a class. -/
def Escape.fitsClass (f : Flags) : Escape → Bool
  | literal code _ => f.unicode || code < 0x80
  | shorthand negated => f.unicode || !negated
  | category => f.unicode
  | anchor | boundary => false

/-- A number of so many hexadecimal digits, and the input behind it. -/
def hexNumber? (f : Flags) : Nat → Nat → List Char → Option (Nat × List Char)
  | 0, n, cs => some (n, f.skip cs)
  | k + 1, n, cs =>
    match f.skip cs with
    | c :: rest => (Bytes.hexDigitValue? c).bind fun d => hexNumber? f k (16 * n + d) rest
    | [] => none

/-- The character that hexadecimal digits write. -/
def hexEscape? (f : Flags) (count : Nat) (cs : List Char) : Option (Escape × List Char) := do
  let (n, rest) ← hexNumber? f count 0 cs
  guard n.isValidChar
  pure (.literal n (count = 2), rest)

/-- The letters of general categories. -/
def categories : List Char := "CLMNPSZclmnpsz".toList

/-- The control characters with a letter of their own. -/
def controls : List (Char × Nat) := [('a', 7), ('t', 9), ('n', 10), ('v', 11), ('f', 12), ('r', 13)]

/-- The escape behind a backslash. -/
def escape? (f : Flags) : List Char → Option (Escape × List Char)
  | [] => none
  | c :: rest =>
    if c = 'x' then hexEscape? f 2 rest
    else if c = 'u' then hexEscape? f 4 rest
    else if c = 'U' then hexEscape? f 8 rest
    else if c = 'p' || c = 'P' then
      match f.skip rest with
      | c :: rest => if categories.contains c then some (.category, f.skip rest) else none
      | [] => none
    else if "dsw".toList.contains c then some (.shorthand false, rest)
    else if "DSW".toList.contains c then some (.shorthand true, rest)
    else if "Az".toList.contains c then some (.anchor, rest)
    else if "bB<>".toList.contains c then some (.boundary, rest)
    else if c.toNat < 0x80 && !c.isAlphanum then some (.literal c.toNat false, rest)
    else (controls.lookup c).map fun n => (.literal n false, rest)

/-! ## Classes -/

/-- The classes that are named between colons. -/
def namedClasses : List String :=
  ["alnum", "alpha", "ascii", "blank", "cntrl", "digit", "graph", "lower", "print", "punct",
    "space", "upper", "word", "xdigit"]

/-- A class named between colons, behind its first bracket: whether it is negated, and the input
behind it. -/
def namedClass? : List Char → Option (Bool × List Char)
  | ':' :: rest =>
    let negated := rest.head? = some '^'
    let rest := if negated then rest.drop 1 else rest
    match rest.dropWhile (· ≠ ':') with
    | ':' :: ']' :: behind =>
      if namedClasses.contains (String.ofList (rest.takeWhile (· ≠ ':'))) then
        some (negated, behind)
      else none
    | _ => none
  | _ => none

/-- The input behind the head of a class: a caret negates it, hyphens stand for themselves, and so
does a bracket that comes first. -/
def classHead? (f : Flags) (cs : List Char) : Option (List Char) := do
  let cs := f.skip cs
  let negated := cs.head? = some '^'
  guard (f.unicode || !negated)
  let cs := if negated then f.skip (cs.drop 1) else cs
  let behind :=
    if cs.head? = some ']' then f.skip (cs.drop 1)
    else f.skip (cs.dropWhile fun c => c = '-' || f.spaced && Text.isBlank c)
  guard !behind.isEmpty
  pure behind

/-- A member of a class: a character or an escape. -/
def classMember? (f : Flags) : List Char → Option (Escape × List Char)
  | [] => none
  | '\\' :: rest => escape? f rest
  | c :: rest => some (.literal c.toNat false, rest)

/-- The input behind a member of a class or a range of characters. A hyphen before a bracket or
another hyphen makes no range. -/
def classItem? (f : Flags) (cs : List Char) : Option (List Char) := do
  let (first, rest) ← classMember? f cs
  guard (first.fitsClass f)
  let single := f.skip rest
  match single with
  | '-' :: behind =>
    let behind := f.skip behind
    if behind.head? = some ']' || behind.head? = some '-' then pure single
    else
      let (last, rest) ← classMember? f behind
      guard (last.fitsClass f)
      match first, last with
      | .literal m _, .literal n _ => if m ≤ n then pure rest else none
      | _, _ => none
  | _ => pure single

/-- The input behind a class, of which so many brackets are open. Classes may be nested, and two
ampersands, hyphens or tildes combine two sets. -/
def class? (f : Flags) (fuel depth : Nat) (cs : List Char) : Option (List Char) :=
  match fuel with
  | 0 => none
  | fuel + 1 =>
    match f.skip cs with
    | [] => none
    | '[' :: rest =>
      match namedClass? rest with
      | some (negated, rest) => if f.unicode || !negated then class? f fuel depth rest else none
      | none => (classHead? f rest).bind (class? f fuel (depth + 1))
    | ']' :: rest => if depth ≤ 1 then some rest else class? f fuel (depth - 1) rest
    | '&' :: '&' :: rest | '-' :: '-' :: rest | '~' :: '~' :: rest => class? f fuel depth rest
    | cs => (classItem? f cs).bind (class? f fuel depth)

/-! ## Groups -/

/-- What an opening parenthesis begins. -/
inductive Opening where
  /-- A group that captures, perhaps under a name. -/
  | capture (name : Option String)
  /-- A group that is read with flags of its own. -/
  | group (flags : Flags)
  /-- No group: the flags of the group that it stands in change. -/
  | change (flags : Flags)

/-- Flags behind a question mark, none twice and the last no minus sign: whether a group follows,
and the input behind them. -/
def flags? (seen : List Char) (f : Flags) : List Char → Option (Opening × List Char)
  | [] => none
  | c :: rest =>
    if c = ':' || c = ')' then
      if seen.head? = some '-' || c = ')' && seen.isEmpty then none
      else some (if c = ':' then .group f else .change f, rest)
    else if seen.contains c || !"-imsURux".toList.contains c then none
    else
      let on := !seen.contains '-'
      let f :=
        if c = 'u' then { f with unicode := on }
        else if c = 'x' then { f with spaced := on }
        else f
      flags? (c :: seen) f rest

/-- The name of a group, behind its angle bracket. -/
def groupName? (cs : List Char) : Option (String × List Char) := do
  let (name, rest) := cs.span (· ≠ '>')
  let first ← name.head?
  guard (first = '_' || Text.isAlphabetic first)
  guard (name.all fun c => "_.[]".toList.contains c || Text.isAlphanumeric c)
  guard !rest.isEmpty
  pure (String.ofList name, rest.drop 1)

/-- What an opening parenthesis begins, and the input behind it. Nothing looks ahead or behind. -/
def opening? (f : Flags) (cs : List Char) : Option (Opening × List Char) :=
  match f.skip cs with
  | '?' :: '=' :: _ | '?' :: '!' :: _ | '?' :: '<' :: '=' :: _ | '?' :: '<' :: '!' :: _ => none
  | '?' :: 'P' :: '<' :: rest | '?' :: '<' :: rest =>
    (groupName? rest).map fun (name, rest) => (.capture (some name), rest)
  | '?' :: rest => flags? [] f rest
  | cs => some (.capture none, cs)

/-! ## Patterns -/

/-- What was seen of a pattern. -/
structure Seen where
  flags : Flags := {}
  /-- The flags around each open group, the innermost first. -/
  outer : List Flags := []
  /-- Something that can be repeated stands right before. -/
  repeatable : Bool := false
  /-- The names of groups. -/
  names : List String := []
  /-- A word boundary among the letters of Unicode was seen. -/
  boundary : Bool := false

/-- A group is opened, or flags change. -/
def Seen.enter (s : Seen) : Opening → Option Seen
  | .capture none => some { s with outer := s.flags :: s.outer, repeatable := false }
  | .capture (some name) =>
    if s.names.contains name then none
    else some { s with outer := s.flags :: s.outer, repeatable := false, names := name :: s.names }
  | .group flags => some { s with flags, outer := s.flags :: s.outer, repeatable := false }
  | .change flags => some { s with flags, repeatable := false }

/-- All that is to be seen of a pattern, if it is one as far as groups are closed in it. -/
def scan (fuel : Nat) (s : Seen) (cs : List Char) : Option Seen :=
  match fuel with
  | 0 => none
  | fuel + 1 =>
    match s.flags.skip cs with
    | [] => some s
    | '(' :: rest => do
      let (opening, rest) ← opening? s.flags rest
      scan fuel (← s.enter opening) rest
    | ')' :: rest =>
      match s.outer with
      | flags :: outer => scan fuel { s with flags, outer, repeatable := true } rest
      | [] => none
    | '|' :: rest => scan fuel { s with repeatable := false } rest
    | '[' :: rest => do
      let rest ← class? s.flags (rest.length + 1) 1 (← classHead? s.flags rest)
      scan fuel { s with repeatable := true } rest
    | '\\' :: rest => do
      let (escape, rest) ← escape? s.flags rest
      guard (escape.fits s.flags)
      scan fuel
        { s with
          repeatable := true
          boundary := s.boundary || escape = .boundary && s.flags.unicode } rest
    | c :: rest =>
      if c = '?' || c = '*' || c = '+' then
        if s.repeatable then scan fuel s (if rest.head? = some '?' then rest.drop 1 else rest)
        else none
      else if c = '\x7b' || c = '.' && !s.flags.unicode then none
      else scan fuel { s with repeatable := true } rest

/-- Check a pattern. -/
def check (s : String) : Except Fault Unit :=
  let cs := s.toList
  match scan (cs.length + 1) {} cs with
  | some seen =>
    if !seen.outer.isEmpty then .error .malformed
    else if seen.boundary then .error .wordBoundary
    else .ok ()
  | none => .error .malformed

end Gatehouse.Log.Pattern
