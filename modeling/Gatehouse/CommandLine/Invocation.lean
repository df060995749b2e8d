import Gatehouse.CommandLine.Arguments
import Gatehouse.Text.Cut

/-! # Reading a command line

Arguments are read from left to right. An option with a value takes it from behind an equals sign,
from the rest of its cluster of letters, or from the next argument if that does not look like an
option; in the last case the value is looked at only when the reading has come to the next option or
to the end, so that an argument nobody knows is reported first. What no option gives is taken from
the environment and then from the standard values. -/

namespace Gatehouse.CommandLine

/-- What a command line asks for. -/
inductive Invocation where
  | run (a : Arguments)
  | help
  /-- The version, with the commit if the option was written out. -/
  | version (withCommit : Bool)
  deriving DecidableEq, Repr

/-- What ends the reading of a command line early. -/
inductive Interruption where
  | help
  | version (withCommit : Bool)
  | refused (e : UsageError)
  deriving DecidableEq, Repr

/-- What the arguments so far have given. -/
structure Given where
  /-- The settings with the texts of their values, the last first. -/
  texts : List (Setting × String) := []
  /-- An option that waits for its value, or has a value that was not looked at. -/
  pending : Option (Setting × Option String) := none
  deriving DecidableEq, Repr

namespace Given

/-- The text given to a setting. -/
def text? (g : Given) (s : Setting) : Option String := g.texts.lookup s

/-- End with an error. -/
def refuse {α : Type} (e : UsageError) : Except Interruption α := .error (.refused e)

/-- The setting with a text, if the text will do. -/
def put (g : Given) (s : Setting) (text : String) : Except Interruption Given :=
  match s.check text with
  | .ok () => .ok { g with texts := (s, text) :: g.texts }
  | .error complaint => refuse (.ofComplaint s.text text complaint)

/-- The setting with a text for the first time. -/
def putOnce (g : Given) (s : Setting) (text : String) : Except Interruption Given :=
  if (g.text? s).isSome then refuse (.repeated s.text) else g.put s text

/-- Look at the value that was not looked at yet. -/
def settle (g : Given) : Except Interruption Given :=
  match g.pending with
  | none => .ok g
  | some (s, none) => refuse (.missingValue s.text)
  | some (s, some text) => putOnce { g with pending := none } s text

/-- An option with a value of its own. -/
def attach (g : Given) (s : Setting) (text : String) : Except Interruption Given := do
  (← g.settle).putOnce s text

/-- An option whose value comes next. -/
def await (g : Given) (s : Setting) : Except Interruption Given := do
  pure { (← g.settle) with pending := some (s, none) }

/-- An option without a value. -/
def tick (g : Given) (s : Setting) : Except Interruption Given := do
  let g ← g.settle
  match s.arity with
  | .count =>
    let times : Nat :=
      match Reading.level ((g.text? s).getD "0") with
      | .ok n => n
      | .error _ => 0
    g.put s (toString (times + 1))
  | _ => g.putOnce s "true"

end Given

/-- What a name or a letter stands for. -/
inductive Switch where
  | setting (s : Setting)
  | help
  | version
  deriving DecidableEq, Repr

namespace Switch

/-- What a name stands for. -/
def ofName? (name : String) : Option Switch :=
  if name = "help" then some help
  else if name = "version" then some version
  else (Setting.all.find? (·.declaration.option = name)).map setting

/-- What a letter stands for. -/
def ofLetter? (c : Char) : Option Switch :=
  if c = 'h' then some help
  else if c = 'V' then some version
  else (Setting.all.find? (·.declaration.letter = some c)).map setting

/-- The switch as messages show it. -/
def text : Switch → String
  | setting s => s.text
  | help => "--help"
  | version => "--version"

end Switch

open Given in
/-- An argument that begins with two hyphens, perhaps with a value behind an equals sign. -/
def named (g : Given) (name : String) (attached : Option String) : Except Interruption Given :=
  match Switch.ofName? name with
  | none => refuse (.unknownArgument ("--" ++ name))
  | some switch =>
    match switch, attached with
    | .setting s, some text =>
      if s.arity = .value then g.attach s text else refuse (.unwantedValue text s.text)
    | .setting s, none => if s.arity = .value then g.await s else g.tick s
    | _, some text => refuse (.unwantedValue text switch.text)
    | .help, none => do
      let _ ← g.settle
      throw .help
    | .version, none => do
      let _ ← g.settle
      throw (.version true)

open Given in
/-- Letters behind one hyphen: switches without values, and at the end perhaps one with the rest of
the letters as its value. -/
def cluster (g : Given) : List Char → Except Interruption Given
  | [] => .ok g
  | c :: rest =>
    match Switch.ofLetter? c with
    | none => refuse (.unknownArgument ("-" ++ c.toString))
    | some .help => do
      let _ ← g.settle
      throw .help
    | some .version => do
      let _ ← g.settle
      throw (.version false)
    | some (.setting s) =>
      if s.arity = .value then
        match rest with
        | [] => g.await s
        | '=' :: text => g.attach s (String.ofList text)
        | text => g.attach s (String.ofList text)
      else do
        let g ← g.tick s
        cluster g rest

open Given in
/-- Read arguments. Behind two lone hyphens no option is known any more, and nothing else is. -/
def scan (g : Given) : List String → Except Interruption Given
  | [] => g.settle
  | argument :: rest =>
    match argument.toList with
    | ['-', '-'] =>
      match rest with
      | [] => g.settle
      | next :: _ => refuse (.unknownArgument next)
    | '-' :: '-' :: cs => do
      let g ← match Text.cutChars? ['='] cs with
        | some (name, text) => named g (String.ofList name) (some (String.ofList text))
        | none => named g (String.ofList cs) none
      scan g rest
    | '-' :: c :: cs => do
      let g ← cluster g (c :: cs)
      scan g rest
    | _ =>
      match g.pending with
      | some (s, none) => scan { g with pending := some (s, some argument) } rest
      | _ => refuse (.unknownArgument argument)

/-- Fill in from the environment what the arguments have not given. -/
def fill (environment : String → Option String) : List Setting → Given → Except Interruption Given
  | [], g => .ok g
  | s :: rest, g =>
    match g.text? s, environment s.declaration.environmentName with
    | none, some text => do
      let g ← g.put s text
      fill environment rest g
    | _, _ => fill environment rest g

/-- The arguments that a command line and an environment make. -/
def read (environment : String → Option String) (arguments : List String) :
    Except Interruption Arguments := do
  let g ← scan {} arguments
  let g ← fill environment Setting.all g
  (Arguments.ofTexts g.text?).mapError .refused

/-- What a command line asks for. -/
def Invocation.ofWords (environment : String → Option String) (arguments : List String) :
    Except UsageError Invocation :=
  match read environment arguments with
  | .ok a => .ok (.run a)
  | .error .help => .ok .help
  | .error (.version withCommit) => .ok (.version withCommit)
  | .error (.refused e) => .error e

end Gatehouse.CommandLine
