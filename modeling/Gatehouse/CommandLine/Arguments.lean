import Gatehouse.CommandLine.Setting
import Gatehouse.Text.Terminal
import Gatehouse.Token.Settings

/-! # What the program is started with

The values of all settings, or the first error in how they were given. Messages show what was given
without commands for a terminal. -/

namespace Gatehouse.CommandLine

/-- What is wrong with how the program is called. -/
inductive UsageError where
  /-- An argument is neither an option nor the value of one. -/
  | unknownArgument (argument : String)
  /-- An option stands without its value. -/
  | missingValue (option : String)
  /-- The value of an option is not one of a few names. -/
  | notOneOf (value option : String)
  /-- The value of an option will not do. -/
  | badValue (value option reason : String)
  /-- An option stands more than once. -/
  | repeated (option : String)
  /-- An option that takes no value has one. -/
  | unwantedValue (value option : String)
  /-- A setting without a standard value is not given. -/
  | missingArguments
  deriving DecidableEq, Repr

namespace UsageError

/-- The error that a complaint about a value is. -/
def ofComplaint (option value : String) : Complaint → UsageError
  | .notOneOf => if value.isEmpty then missingValue option else notOneOf value option
  | .because reason => badValue value option reason

/-- What is said of an error, in one line. -/
def message : UsageError → String
  | unknownArgument argument => "unexpected argument '" ++ Terminal.plain argument ++ "' found"
  | missingValue option => "a value is required for '" ++ option ++ "' but none was supplied"
  | notOneOf value option =>
    "invalid value '" ++ Terminal.plain value ++ "' for '" ++ option ++ "'"
  | badValue value option reason =>
    "invalid value '" ++ Terminal.plain value ++ "' for '" ++ option ++ "': " ++ reason
  | repeated option => "the argument '" ++ option ++ "' cannot be used multiple times"
  | unwantedValue value option =>
    "unexpected value '" ++ Terminal.plain value ++ "' for '" ++ option ++
      "' found; no more were expected"
  | missingArguments => "the following required arguments were not provided:"

end UsageError

/-- What the program runs with. -/
structure Arguments where
  port : Nat
  dsn : String
  tokens : TokenSettings
  permissionSource : PermissionSource
  /-- The deadline of storage work, in seconds. -/
  storageTimeout : Nat
  verbosity : Nat
  logJson : Bool
  deriving DecidableEq, Repr

namespace Arguments

/-- The text that a setting has: what was given, or the standard value. -/
def text (given : Setting → Option String) (s : Setting) : Except UsageError String :=
  match given s <|> s.declaration.standard with
  | some text => .ok text
  | none => .error .missingArguments

/-- The value that a setting has. -/
def value {α : Type} (given : Setting → Option String) (s : Setting)
    (read : String → Except Complaint α) : Except UsageError α := do
  let text ← text given s
  (read text).mapError (.ofComplaint s.text text)

/-- The arguments that the given texts make. -/
def ofTexts (given : Setting → Option String) : Except UsageError Arguments := do
  let tokens : TokenSettings :=
    { key := ← text given .key, issuer := ← text given .issuer, audience := ← text given .audience
      refreshDays := ← value given .refreshDays (Reading.upTo (UInt32.size - 1))
      blacklist := ← value given .blacklist Reading.truth }
  let hours ← value given .expiryHours (Reading.upTo (UInt32.size - 1))
  pure
    { port := ← value given .port (Reading.upTo (UInt16.size - 1)), dsn := ← text given .dsn
      tokens := tokens.withExpiryHours hours
      permissionSource := ← value given .permissionSource Reading.source
      storageTimeout := ← value given .storageTimeout Reading.positive
      verbosity := ← value given .verbosity Reading.level
      logJson := ← value given .logJson Reading.truth }

end Arguments

end Gatehouse.CommandLine
