import Gatehouse.Backend
import Gatehouse.Catalog
import Gatehouse.Store.Statements
import Gatehouse.World

/-! # The store in a relational database

Each store call is a program over the database. A rotation runs in a transaction of its own: it
locks the session to be replaced, revokes, inserts, and commits, and it stops at the first fault.
The rule that a device has at most one session that is not revoked is an index of the database; of
two logins that race for a device one breaks it and starts its transaction over, three times at
most. -/

namespace Gatehouse.Relational

open Database

/-- Why a program over the database has no value. -/
inductive Break where
  | fault (f : Fault)
  /-- A row is not of its form. -/
  | unreadable
  deriving DecidableEq, Repr

/-- A program over the database that may break off. -/
abbrev Query (α : Type) := ExceptT Break (Program Database) α

/-- The trouble of a break, seen from what was being done. -/
def Break.trouble (context : String) : Break → Trouble
  | fault f => .failed (f.cause.within context)
  | unreadable => .unreadable

/-- The result of a call of the database. -/
def Query.ofCall {α : Type} (p : Program Database (Except Fault α)) : Query α := do
  match ← ExceptT.lift p with
  | .ok a => pure a
  | .error f => throw (.fault f)

/-- Send a statement. -/
def send (s : Statement) : Query Reply := .ofCall (Program.ask (I := Database) (.execute s))

/-- Send a statement for its rows. -/
def rows (s : Statement) : Query (List Row) := Reply.rows <$> send s

/-- Send a statement for its first row, if there is one. -/
def row? (s : Statement) : Query (Option Row) := List.head? <$> rows s

/-- Send a statement for its first row. -/
def row (s : Statement) : Query Row := do
  match ← row? s with
  | some r => pure r
  | none => throw (.fault .noRow)

/-- Begin a transaction. -/
def beginTransaction : Query Unit := .ofCall (Program.ask (I := Database) .begin)

/-- Commit a transaction. -/
def commit : Query Unit := .ofCall (Program.ask (I := Database) .commit)

/-- Roll a transaction back. -/
def rollback : Query Unit := .ofCall (Program.ask (I := Database) .rollback)

/-- What a row holds. -/
def readable {α : Type} : Option α → Query α
  | some a => pure a
  | none => throw .unreadable

/-- A transaction: it is abandoned if its body breaks off. -/
def transaction {α : Type} (body : Query α) : Query α := do
  beginTransaction
  tryCatch body fun e => do
    ExceptT.lift (Program.ask (I := Database) .abandon)
    throw e

/-- A program that reports trouble. -/
abbrev Call (α : Type) := ExceptT Trouble (Program Database) α

/-- A query, its breaks reported as trouble with what was being done. -/
def during {α : Type} (context : String) (q : Query α) : Call α :=
  ExceptT.adapt (Break.trouble context) q

/-- What a row holds. -/
def fromRow {α : Type} (a : Option α) : Call α :=
  match a with
  | some a => pure a
  | none => throw .unreadable

/-! ## Rows -/

/-- The session of a row, its flavor known. -/
def sessionOfFlavor? (flavor : Flavor) (r : Row) : Option Session := do
  pure
    { id := ← uuid? r "id", userId := ← uuid? r "user_id", tokenHash := ← bytes? r "token_hash"
      flavor, issuedAt := ← instant? r "issued_at", expiresAt := ← instant? r "expires_at"
      lastUsed := ← instant? r "last_used", revoked := ← bool? r "is_revoked"
      revokedReason := ← nullableText? r "revoked_reason"
      revokedAt := ← nullableInstant? r "revoked_at", deviceId := ← text? r "device_id"
      deviceName := ← text? r "device_name", platform := ← text? r "platform"
      appVersion := ← nullableText? r "app_version", userAgent := ← nullableText? r "user_agent"
      ipAddress := ← nullableText? r "ip_address" }

/-- The session of a row. A flavor that is not known is a failure of its own. -/
def session (r : Row) : Except Trouble Session := do
  match text? r "session_type" with
  | none => throw .unreadable
  | some label =>
    match Flavor.ofLabel? label with
    | none => throw (.failed (.root ("unknown session_type: " ++ label)))
    | some flavor =>
      match sessionOfFlavor? flavor r with
      | some s => pure s
      | none => throw .unreadable

/-- The identity of a row. -/
def identity? (r : Row) : Option Identity := do
  pure
    { id := ← uuid? r "id", name := ← text? r "name", email := ← text? r "email"
      passwordHash := ← text? r "password_hash", enabled := ← bool? r "enabled" }

/-- The module of a row. -/
def module? (r : Row) : Option Module := do
  pure ⟨← uuid? r "id", ← text? r "name", ← text? r "description", ← bool? r "enabled"⟩

/-- The permission type of a row. -/
def permissionType? (r : Row) : Option PermissionType := do
  pure ⟨← uuid? r "id", ← text? r "name", ← text? r "code", ← text? r "description"⟩

/-- The role of a row. -/
def role? (r : Row) : Option Role := do
  pure ⟨← uuid? r "id", ← text? r "name", ← text? r "description", ← bool? r "enabled"⟩

/-- The grant of a row, if the row has one. -/
def grant? (r : Row) : Option (Option ResolvedGrant) := do
  match ← nullableUuid? r "module_id", ← nullableUuid? r "permission_type_id" with
  | some moduleId, some permissionTypeId =>
    let m : Module := ⟨moduleId, ← text? r "module_name", ← text? r "module_description",
      ← bool? r "module_enabled"⟩
    let p : PermissionType := ⟨permissionTypeId, ← text? r "permission_type_name",
      ← text? r "permission_type_code", ← text? r "permission_type_description"⟩
    pure (some ⟨m, p⟩)
  | _, _ => pure none

/-- Assignments, the last first, with a row of one more grant: it goes to the last assignment if
that is of the row's role, and else begins another. Only the first row of an assignment is read for
what the role is. -/
def addRow (done : List RoleAssignment) (r : Row) : Option (List RoleAssignment) := do
  let id ← uuid? r "id"
  let started ←
    match done with
    | a :: rest => if a.role.id = id then pure (a :: rest) else pure (⟨← role? r, []⟩ :: a :: rest)
    | [] => pure [⟨← role? r, []⟩]
  match ← grant? r, started with
  | some g, a :: rest => pure ({ a with grants := a.grants ++ [g] } :: rest)
  | _, started => pure started

/-- The assignments that rows hold. -/
def assignments? (rs : List Row) : Option (List RoleAssignment) :=
  (rs.foldlM addRow []).map List.reverse

/-! ## Store calls -/

/-- The transaction of a rotation. -/
def rotateOnce (r : Rotation) : Query RotationOutcome := transaction do
  let lost ← match r.replaces with
    | some id => Option.isNone <$> row? (Statements.lockActive id r.now)
    | none => pure false
  if lost then
    rollback
    pure .superseded
  else
    let changed ← rows (Statements.revokeScope r)
    let ids ← readable (changed.mapM (uuid? · "id"))
    let _ ← send (Statements.insertSession r.session)
    commit
    pure (.committed ids)

/-- The number of transactions that a rotation tries. -/
def rotationAttempts : Nat := 3

/-- Try a rotation, starting over when a rule of uniqueness was broken. -/
def rotateWithin (r : Rotation) : Nat → Call RotationOutcome
  | 0 => throw (.failed (.root
      ("failed to rotate session after " ++ toString rotationAttempts ++ " attempts")))
  | n + 1 => do
    match ← ExceptT.lift (rotateOnce r).run with
    | .ok outcome => pure outcome
    | .error (.fault f) =>
      if f.isUniqueViolation then rotateWithin r n
      else throw ((Break.fault f).trouble "failed to rotate session")
    | .error .unreadable => throw .unreadable

/-- The session of the first row, if there is one. -/
def sessionOfRow? (r : Option Row) : Call (Option Session) :=
  match r with
  | none => pure none
  | some r => some <$> liftExcept (session r)
where
  /-- A result as a program. -/
  liftExcept {α : Type} : Except Trouble α → Call α
    | .ok a => pure a
    | .error e => throw e

/-- What became of a revocation, from the counts of sessions found and changed. -/
def revokeOutcome (found changed : Int) : RevokeOutcome :=
  if found = 0 then .notFound else if changed = 0 then .alreadyRevoked else .revoked

/-- The program of a store call. -/
def call : (c : StoreCall) → Call c.Reply
  | .rotate r => rotateWithin r rotationAttempts
  | .findByTokenHash hash => do
    let found ← during "failed to lookup session by token" (row? (Statements.sessionByHash hash))
    sessionOfRow? found
  | .findSession id => do
    let found ← during "failed to lookup session" (row? (Statements.sessionById id))
    sessionOfRow? found
  | .revoke id reason now => do
    let r ← during "failed to revoke session" (row (Statements.revoke id reason now))
    let found ← fromRow (integer? r "found")
    let changed ← fromRow (integer? r "changed")
    pure (revokeOutcome found changed)
  | .revokeAll userId reason now => do
    let reply ← during "failed to revoke sessions" (send (Statements.revokeAll userId reason now))
    pure reply.affected
  | .listActive userId now => do
    let rs ← during "failed to list sessions" (rows (Statements.activeSessions userId now))
    sessionOfRow?.liftExcept (rs.mapM session)
  | .touch id now => do
    let _ ← during "failed to touch session" (send (Statements.touch id now))
    pure ()
  | .findByEmail email => do
    match ← during "failed to lookup user by email" (row? (Statements.identityByEmail email)) with
    | none => pure none
    | some r => some <$> fromRow (identity? r)
  | .findIdentity id => do
    match ← during "failed to lookup user" (row? (Statements.identityById id)) with
    | none => pure none
    | some r => some <$> fromRow (identity? r)
  | .roleAssignments userId => do
    let rs ← during "failed to load role assignments" (rows (Statements.roleAssignments userId))
    fromRow (assignments? rs)
  | .catalog => do
    let ms ← during "failed to load modules" (rows Statements.modules)
    let ms ← fromRow (ms.mapM module?)
    let ps ← during "failed to load permission types" (rows Statements.permissionTypes)
    let ps ← fromRow (ps.mapM permissionType?)
    pure ⟨ms, ps⟩

/-- A database as a storage. -/
def storage {σ : Type} (h : Handler Database σ) : Storage σ where
  answer c s := (call c).run.run h s
  health s :=
    match h .ping s with
    | (true, s) => (.reachable, s)
    | (false, s) => (.unreachable, s)

/-! ## The first records -/

/-- Create the tables. -/
def applySchema : Call Unit := do
  let _ ← during "failed to apply schema" (send Statements.schema)
  pure ()

/-- Why a value is no truth value. -/
def notTruth (v : Value) : String :=
  if v = .null then "unexpected null; try decoding as an `Option`"
  else
    "mismatched types; Rust type `bool` (as SQL type `BOOL`) is not compatible with SQL type " ++
      "`" ++ v.typeName ++ "`"

/-- The truth value that the only column of the only row holds. -/
def scalarBool (s : Statement) : Query Bool := do
  match ← row s with
  | [] => throw (.fault .noColumn)
  | (_, .bool b) :: _ => pure b
  | (_, v) :: _ => throw (.fault (.unfit (notTruth v)))

/-- Statements in a row, each with what it is done for. -/
def sendAll : List (String × Statement) → Call Unit
  | [] => pure ()
  | (context, s) :: rest => do
    let _ ← during context (send s)
    sendAll rest

/-- The statements that write the default catalog. -/
def catalogStatements (seed : Catalog.Seed) (admin : Identity) : List (String × Statement) :=
  (Catalog.permissionTypes seed).map
      (fun p => ("failed to seed permission types", Statements.addPermissionType p)) ++
    (Catalog.modules seed).map (fun m => ("failed to seed modules", Statements.addModule m)) ++
    (Catalog.roles seed).map (fun r => ("failed to seed roles", Statements.addRole r)) ++
    [("failed to seed administrator", Statements.addIdentity admin),
      ("failed to assign administrator role", Statements.assignRole admin.id Catalog.adminRole),
      ("failed to seed administrator grants",
        Statements.grantEverywhere Catalog.adminRole Catalog.adminPermissionType)]

/-- Write the default catalog into a database without identities, in one transaction; the answer is
whether anything was written. -/
def seedCatalog (hasher : PasswordHasher) (seed : Catalog.Seed) : Call Bool := do
  if ← during "failed to check for users" (scalarBool Statements.anyIdentity) then pure false
  else
    let admin ← match Catalog.admin hasher seed with
      | .ok admin => pure admin
      | .error cause => throw (.failed cause)
    during "failed to begin seed" beginTransaction
    tryCatch
      (do
        sendAll (catalogStatements seed admin)
        during "failed to commit seed" commit)
      fun trouble => do
        ExceptT.lift (Program.ask (I := Database) .abandon)
        throw trouble
    pure true

end Gatehouse.Relational
