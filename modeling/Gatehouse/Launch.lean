import Gatehouse.CommandLine.Arguments
import Gatehouse.Http.Api
import Gatehouse.Log.Entry
import Gatehouse.Store.Relational

/-! # Launching the service

The service logs what it is started with, opens its storage and fills it if it is new, sets up what
answers requests, and serves until it is told to stop. The storage is memory, which begins with the
default catalog, or a database. The password in the address of a database is never logged. -/

namespace Gatehouse

/-- The address of a database without its password. An address is a scheme, `://`, perhaps a user
with a password and an at sign, and the rest. -/
def redactDsn (dsn : String) : String :=
  match Text.cutFirst? "://" dsn with
  | none => "invalid-dsn"
  | some (scheme, rest) =>
    match Text.cutLast? '@' rest with
    | none => dsn
    | some (credentials, host) =>
      match Text.cutFirst? ":" credentials with
      | none => dsn
      | some (user, _) => scheme ++ "://" ++ user ++ ":REDACTED@" ++ host

/-- Where the service keeps its records. -/
inductive Stored where
  | memory (st : MemoryStore)
  | database

/-- A call of the launch. -/
inductive Host.Op where
  | log (e : Log.Entry)
  /-- Connect to a database. -/
  | connect (dsn : String)
  | database (op : Database.Op)
  /-- Answer requests until told to stop. -/
  | serve (api : Http.Api) (stored : Stored)

/-- What a call is answered. -/
abbrev Host.Answer : Host.Op → Type
  | .log _ => Unit
  | .connect _ => Bool
  | .database op => Database.Answer op
  | .serve .. => Unit

/-- The interface of a launch. -/
def Host : Interface := ⟨Host.Op, Host.Answer⟩

/-- What a launch makes of chance and of the moment. -/
structure Occasion where
  catalog : Catalog.Seed
  /-- The salt of the hash that unknown addresses are compared with. -/
  salt : Bytes
  now : Instant

/-- A launch that may fail. -/
abbrev Launch (α : Type) := ExceptT Trouble (Program Host) α

namespace Launch

/-- A call of the host. -/
def ask (op : Host.Op) : Launch (Host.Answer op) := ExceptT.lift (Program.ask (I := Host) op)

/-- Fail with a cause. -/
def fail {α : Type} (cause : Cause) : Launch α := throw (.failed cause)

/-- The value of a computation, or its cause of failure. -/
def ofExcept {α : Type} : Except Cause α → Launch α
  | .ok a => pure a
  | .error cause => fail cause

/-- A program over the database. -/
def query {α : Type} (call : Relational.Call α) : Launch α := do
  let p : Program Host (Except Trouble α) :=
    call.run.interpret (J := Host) fun op => Program.ask (I := Host) (.database op)
  match ← ExceptT.lift p with
  | .ok a => pure a
  | .error trouble => throw trouble

/-- The part of the program that starts the service. -/
def serverTarget : String := "umbral::cli::actions::server"

/-- The part of the program that answers requests. -/
def interfaceTarget : String := "umbral::api"

/-- Log what happened. -/
def inform (target message : String) : Launch Unit := ask (.log ⟨.info, target, message⟩)

/-- The settings as the log shows them, in order. -/
def entries (a : CommandLine.Arguments) : List (String × String) :=
  [("listen", "tcp:" ++ toString a.port), ("dsn", redactDsn a.dsn), ("jwt_issuer", a.tokens.issuer),
    ("jwt_audience", a.tokens.audience), ("jwt_expiry_hours", toString a.tokens.expiryHours),
    ("refresh_token_expiry_days", toString a.tokens.refreshDays),
    ("jwt_blacklist", toString a.tokens.blacklist), ("permission_source", a.permissionSource.label),
    ("storage_timeout_seconds", toString a.storageTimeout)]

/-- A setting on a line of its own, its value in a column. -/
def entryLine (width : Nat) (entry : String × String) : String :=
  let gap := String.ofList (List.replicate (width - entry.1.length) ' ')
  "\n  " ++ entry.1 ++ ":" ++ gap ++ " " ++ entry.2

/-- What is logged first: the release, and the settings below each other. -/
def banner (release : Release) (a : CommandLine.Arguments) : String :=
  let entries := entries a
  let width := (entries.map (·.1.length)).foldl max 0
  release.name ++ " " ++ release.version ++ " - " ++ release.shortCommit ++
    "\n\nStartup configuration:" ++ String.join (entries.map (entryLine width))

/-- The address that stands for memory. -/
def memoryDsn : String := "memory://"

/-- Open the storage, and fill it if it is new. -/
def openStorage (hasher : PasswordHasher) (occasion : Occasion) (dsn : String) : Launch Stored := do
  if (Text.behind? memoryDsn dsn).isSome then
    match Catalog.loadInto .empty hasher occasion.catalog occasion.now with
    | (.ok _, st) =>
      inform serverTarget "Using in-memory store seeded with the default catalog"
      pure (.memory st)
    | (.error failure, _) =>
      fail ((Cause.root failure.message).within "Failed to seed in-memory store")
  else
    if !(← ask (.connect dsn)) then fail (.root "Failed to connect to database")
    query Relational.applySchema
    if ← query (Relational.seedCatalog hasher occasion.catalog) then
      inform serverTarget "Seeded empty database with the default catalog"
    pure .database

/-- The modules and permission types that the policies are declared from. -/
def declarations : Stored → Launch Declarations
  | .memory st => pure st.catalog
  | .database =>
    ExceptT.adapt
      (fun
        | .failed cause => .failed (cause.within "Failed to load authorization policies")
        | trouble => trouble)
      (query (Relational.call .catalog))

/-- Set up what answers requests. The key is looked at first. -/
def assemble (release : Release) (hasher : PasswordHasher) (salt : Bytes) (tokens : TokenSettings)
    (source : PermissionSource) (stored : Stored) : Launch Http.Api := do
  if ¬ tokens.Admissible then fail (.root TokenSettings.shortKeyMessage)
  let credentials ← ofExcept (Credentials.ofHasher hasher salt)
  let policies := Registry.ofDeclarations (← declarations stored)
  inform serverTarget ("Registered " ++ toString policies.size ++ " authorization policies")
  pure ⟨⟨tokens, credentials⟩, ⟨tokens, source⟩, policies, release⟩

/-- Launch the service and serve until told to stop. -/
def execute (release : Release) (hasher : PasswordHasher) (occasion : Occasion)
    (a : CommandLine.Arguments) : Launch Unit := do
  inform serverTarget (banner release a)
  let stored ← openStorage hasher occasion a.dsn
  let api ← assemble release hasher occasion.salt a.tokens a.permissionSource stored
  inform interfaceTarget ("Listening on [::]:" ++ toString a.port)
  ask (.serve api stored)
  inform interfaceTarget "Gracefully shutdown"

end Launch

end Gatehouse
