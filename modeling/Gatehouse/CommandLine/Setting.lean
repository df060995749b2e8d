import Gatehouse.CommandLine.Reading

/-! # Settings

What can be set when the program is started: each setting by an option, by a variable of the
environment, or else by a standard value. The key and the address of the database have no standard
value. -/

namespace Gatehouse.CommandLine

/-- A setting. -/
inductive Setting where
  | port
  | dsn
  | permissionSource
  | storageTimeout
  | key
  | issuer
  | audience
  | expiryHours
  | refreshDays
  | blacklist
  | verbosity
  | logJson
  deriving DecidableEq, Repr

/-- How an option is given. -/
inductive Arity where
  /-- Once, with a value. -/
  | value
  /-- Once, without a value. -/
  | flag
  /-- Any number of times without a value: the number counts. -/
  | count
  deriving DecidableEq, Repr

/-- How a setting is named and what it is by itself. -/
structure Declaration where
  option : String
  letter : Option Char := none
  environmentName : String
  arity : Arity := .value
  standard : Option String := none
  deriving DecidableEq, Repr

namespace Setting

/-- All settings, in the order in which the environment is looked at. -/
def all : List Setting :=
  [port, dsn, permissionSource, storageTimeout, key, issuer, audience, expiryHours, refreshDays,
    blacklist, verbosity, logJson]

/-- The declaration of a setting. -/
def declaration : Setting → Declaration
  | port =>
    { option := "port", letter := some 'p', environmentName := "UMBRAL_PORT"
      standard := some "8080" }
  | dsn => { option := "dsn", letter := some 'd', environmentName := "UMBRAL_DSN" }
  | permissionSource =>
    { option := "permission-source", environmentName := "UMBRAL_PERMISSION_SOURCE"
      standard := some "live" }
  | storageTimeout =>
    { option := "storage-timeout-seconds", environmentName := "UMBRAL_STORAGE_TIMEOUT_SECONDS"
      standard := some "10" }
  | key => { option := "jwt-key", environmentName := "UMBRAL_JWT_KEY" }
  | issuer =>
    { option := "jwt-issuer", environmentName := "UMBRAL_JWT_ISSUER", standard := some "umbral" }
  | audience =>
    { option := "jwt-audience", environmentName := "UMBRAL_JWT_AUDIENCE"
      standard := some "umbral-clients" }
  | expiryHours =>
    { option := "jwt-expiry-hours", environmentName := "UMBRAL_JWT_EXPIRY_HOURS"
      standard := some "1" }
  | refreshDays =>
    { option := "refresh-token-expiry-days", environmentName := "UMBRAL_REFRESH_TOKEN_EXPIRY_DAYS"
      standard := some "30" }
  | blacklist =>
    { option := "jwt-enable-blacklist", environmentName := "UMBRAL_JWT_ENABLE_BLACKLIST"
      arity := .flag, standard := some "false" }
  | verbosity =>
    { option := "verbose", letter := some 'v', environmentName := "UMBRAL_LOG_LEVEL"
      arity := .count, standard := some "0" }
  | logJson =>
    { option := "log-json", environmentName := "UMBRAL_LOG_JSON", arity := .flag
      standard := some "false" }

/-- How a setting is given. -/
def arity (s : Setting) : Arity := s.declaration.arity

/-- The setting as messages show it. -/
def text (s : Setting) : String :=
  let option := s.declaration.option
  match s.arity with
  | .value => "--" ++ option ++ " <" ++ option ++ ">"
  | .flag => "--" ++ option
  | .count => "--" ++ option ++ "..."

/-- The setting must be given. -/
def isRequired (s : Setting) : Bool := s.declaration.standard.isNone

/-- Whether a text will do as the value of a setting. -/
def check (s : Setting) (text : String) : Except Complaint Unit :=
  match s with
  | port => ignore (Reading.upTo (UInt16.size - 1) text)
  | permissionSource => ignore (Reading.source text)
  | storageTimeout => ignore (Reading.positive text)
  | expiryHours | refreshDays => ignore (Reading.upTo (UInt32.size - 1) text)
  | blacklist | logJson => ignore (Reading.truth text)
  | verbosity => ignore (Reading.level text)
  | dsn | key | issuer | audience => .ok ()
where
  /-- The result without the value. -/
  ignore {α : Type} (r : Except Complaint α) : Except Complaint Unit := r.map fun _ => ()

end Setting

end Gatehouse.CommandLine
