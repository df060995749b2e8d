import Gatehouse.CommandLine.Reading
import Gatehouse.Log.Entry
import Gatehouse.Log.Pattern
import Gatehouse.Text.Blank
import Gatehouse.Text.Cut

/-! # Directives

A directive sets a threshold for the entries of some parts of the program. It is written as the
beginning of the names of the parts, then in brackets the name of a span and in braces a field, and
behind an equals sign the threshold: `part[span{field=value}]=level`. Each may be left out, and a
level may stand alone. A directive about a span, or about the value of a field, concerns only what
happens inside spans, where nothing is logged here; one about a field alone concerns entries with
that field.

Blanks at the ends count for nothing when the places of brackets and signs are found, but the pieces
between these places are cut from the text as it is written. So a piece may begin or end inside a
character, and then it cannot be cut. -/

namespace Gatehouse.Log

/-- A field that a directive is about. -/
structure Field where
  name : String
  /-- The directive is about a value of the field. -/
  hasValue : Bool := false
  deriving DecidableEq, Repr

/-- What a filter lets through. -/
structure Directive where
  /-- The beginning of the parts of the program that the directive is about, or all of them. -/
  target : Option String := none
  /-- The name of the spans that the directive is about. -/
  span : Option String := none
  fields : List Field := []
  /-- The rank of the least grave level that passes; zero lets nothing through. -/
  threshold : Nat := Level.trace.rank
  deriving DecidableEq, Repr

/-- Why a directive cannot be read. -/
inductive DirectiveFault where
  | malformed
  | unknownLevel
  | badPattern (fault : Pattern.Fault)
  /-- A piece begins or ends inside a character. -/
  | divided
  deriving DecidableEq, Repr

/-- What is said of such a directive. -/
def DirectiveFault.message : DirectiveFault → String
  | malformed | divided => "invalid filter directive"
  | unknownLevel =>
    "error parsing level filter: expected one of \"off\", \"error\", \"warn\", \"info\", " ++
      "\"debug\", \"trace\", or a number 0-5"
  | badPattern fault => "invalid field filter: " ++ fault.message

/-- The threshold that a word names, in any case, or a number. -/
def threshold? (word : String) : Option Nat :=
  match CommandLine.Reading.integer false word with
  | .ok i => if i ≤ 5 then some i.toNat else none
  | .error _ => ["off", "error", "warn", "info", "debug", "trace"].idxOf? word.toLower

/-! ## Values -/

/-- Digits, perhaps a point among them. -/
def isDecimal (cs : List Char) : Bool :=
  cs.any Char.isDigit && (cs.filter (!·.isDigit) == [] || cs.filter (!·.isDigit) == ['.'])

/-- Digits behind an optional sign. -/
def isSignedDigits (cs : List Char) : Bool :=
  let ds := if cs.head? = some '+' || cs.head? = some '-' then cs.drop 1 else cs
  !ds.isEmpty && ds.all Char.isDigit

/-- The text is a number: a decimal with an optional sign and exponent, or one that is not
finite. -/
def isNumber (s : String) : Bool :=
  let cs := s.toLower.toList
  let cs := if cs.head? = some '+' || cs.head? = some '-' then cs.drop 1 else cs
  let (front, tail) := cs.span (· ≠ 'e')
  ["inf", "infinity", "nan"].contains (String.ofList cs) ||
    isDecimal front && (tail.isEmpty || isSignedDigits (tail.drop 1))

/-- The field that a text writes: a name, and perhaps a value behind an equals sign, up to the next.
A value that is no number must be a pattern. -/
def Field.ofText (s : String) : Except DirectiveFault Field :=
  match s.splitOn "=" with
  | name :: value :: _ =>
    if isNumber value then .ok ⟨name, true⟩
    else match Pattern.check value with
      | .ok () => .ok ⟨name, true⟩
      | .error fault => .error (.badPattern fault)
  | _ => .ok ⟨s, false⟩

/-! ## Reading -/

/-- The character may begin a directive that names a part of the program or a level. -/
def isOpening (c : Char) : Bool := c = '-' || c = ':' || c = '_' || Text.isAlphanumeric c

/-- Where a reader stands, with the place where the piece that it reads begins. -/
inductive Place where
  | start
  | front (since : Nat)
  | span (since : Nat)
  | field (since : Nat)
  | fieldEnd
  | spanEnd
  | level (since : Nat)
  deriving DecidableEq, Repr

/-- A directive that is being read. -/
structure Reading where
  place : Place := .start
  directive : Directive := {}

/-- A piece that may be empty. -/
def piece? (s : String) : Option String := if s.isEmpty then none else some s

/-- The directive with the threshold of a word; without a word it lets everything through. -/
def Directive.assign (d : Directive) (word : String) : Except DirectiveFault Directive :=
  if word.isEmpty then .ok d
  else match threshold? word with
    | some n => .ok { d with threshold := n }
    | none => .error .unknownLevel

/-- One character, at its place; `cut` is the piece from one place to another. -/
def Reading.step (cut : Nat → Nat → Except DirectiveFault String) (r : Reading)
    (place : Nat × Char) : Except DirectiveFault Reading := do
  let (i, c) := place
  let d := r.directive
  match r.place, c with
  | .start, '[' => pure ⟨.span (i + 1), d⟩
  | .start, c => if isOpening c then pure ⟨.front i, d⟩ else throw .malformed
  | .front k, '=' => pure ⟨.level (i + 1), { d with target := some (← cut k i) }⟩
  | .front k, '[' => pure ⟨.span (i + 1), { d with target := some (← cut k i) }⟩
  | .span k, ']' => pure ⟨.spanEnd, { d with span := some (← cut k i) }⟩
  | .span k, '\x7b' => pure ⟨.field (i + 1), { d with span := piece? (← cut k i) }⟩
  | .field k, '\x7d' =>
    let text ← cut k i
    if text.isEmpty then throw .malformed
    pure ⟨.fieldEnd, { d with fields := d.fields ++ [← Field.ofText text] }⟩
  | .fieldEnd, ']' => pure ⟨.spanEnd, d⟩
  | .fieldEnd, _ => throw .malformed
  | .spanEnd, '=' => pure ⟨.level (i + 1), d⟩
  | .spanEnd, _ => throw .malformed
  | .front _, _ | .span _, _ | .field _, _ | .level _, _ => pure r

/-- The directive at the end of the text; `tail` is the piece from a place to the end. -/
def Reading.finish (tail : Nat → Except DirectiveFault String) (r : Reading) :
    Except DirectiveFault Directive := do
  match r.place with
  | .front k =>
    let text ← tail k
    match threshold? text with
    | some n => pure { r.directive with threshold := n }
    | none => pure { r.directive with target := some text }
  | .level k => r.directive.assign (← tail k)
  | .spanEnd => pure r.directive
  | .start | .span _ | .field _ | .fieldEnd => throw .malformed

namespace Directive

/-- The directive that a text writes. -/
def ofText (s : String) : Except DirectiveFault Directive := do
  let cut (start stop : Nat) : Except DirectiveFault String :=
    (Text.cut? s start stop).elim (.error .divided) .ok
  let r ← (Text.places 0 (Text.trim s).toList).foldlM (Reading.step cut) {}
  r.finish fun k => cut k s.utf8ByteSize

/-- The directive may concern entries outside spans. -/
def isOutsideSpans (d : Directive) : Bool := d.span.isNone && d.fields.all (!·.hasValue)

/-- The directive is about an entry. -/
def concerns (d : Directive) (e : Entry) : Bool :=
  d.isOutsideSpans && (d.target.all fun t => (Text.behind? t e.target).isSome) &&
    d.fields.all fun f => e.fieldNames.contains f.name

/-- How closely a directive names what it is about: by the length of the beginning, if it has one,
and then by the number of fields. -/
def specificity (d : Directive) : Nat × Nat :=
  (d.target.elim 0 fun t => t.utf8ByteSize + 1, d.fields.length)

/-- One directive names what it is about at least as closely as another. -/
def isAsSpecific (d b : Directive) : Bool :=
  b.specificity.1 < d.specificity.1 ||
    b.specificity.1 = d.specificity.1 && b.specificity.2 ≤ d.specificity.2

end Directive

end Gatehouse.Log
