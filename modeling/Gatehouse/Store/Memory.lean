import Gatehouse.Backend
import Gatehouse.Table
import Gatehouse.Validation

/-! # The store in memory

Sessions, identities and roles lie under their ids, modules and permission types under their names.
Addresses of identities and names of roles are taken once only, a grant is made once only, and a
module or permission type replaces another of its name. `rotate` is the one way to add a session: it
keeps at most one session that is not revoked on each device of an identity, and refuses rather than
break that. -/

namespace Gatehouse

/-- The contents of the store. -/
structure MemoryStore where
  identities : Table Uuid Identity
  roles : Table Uuid Role
  modules : Table String Module
  permissionTypes : Table String PermissionType
  /-- The roles that identities hold, in the order of their assignment. -/
  userRoles : Table Uuid (List Uuid)
  grants : List Grant
  sessions : Table Uuid Session

namespace MemoryStore

/-- The store without contents. -/
def empty : MemoryStore := ⟨.empty, .empty, .empty, .empty, .empty, [], .empty⟩

instance : Inhabited MemoryStore := ⟨empty⟩

/-! ## The graph -/

/-- Add an identity, its address in the normal form. -/
def insertIdentity (st : MemoryStore) (identity : Identity) : Except Failure MemoryStore :=
  let email := Email.normalize identity.email
  if st.identities.any (·.email = email) then .error (.alreadyExists "User")
  else .ok { st with identities := st.identities.insert identity.id { identity with email } }

/-- Add a role. -/
def insertRole (st : MemoryStore) (role : Role) : Except Failure MemoryStore :=
  if st.roles.any (·.name = role.name) then .error (.alreadyExists "Role")
  else .ok { st with roles := st.roles.insert role.id role }

/-- Add a module, or put it in the place of another of its name. -/
def insertModule (st : MemoryStore) (m : Module) : MemoryStore :=
  { st with modules := st.modules.insert m.name m }

/-- Add a permission type, or put it in the place of another of its name. -/
def insertPermissionType (st : MemoryStore) (p : PermissionType) : MemoryStore :=
  { st with permissionTypes := st.permissionTypes.insert p.name p }

/-- Nothing, or a failure where a condition does not hold. -/
def demand (failure : Failure) (condition : Bool) : Except Failure Unit :=
  if condition then .ok () else .error failure

/-- Assign a role to an identity; a role that it holds already stays where it is. -/
def assignRole (st : MemoryStore) (userId roleId : Uuid) : Except Failure MemoryStore := do
  demand (.notFound "User") (st.identities.has userId)
  demand (.notFound "Role") (st.roles.has roleId)
  let held := (st.userRoles.get? userId).getD []
  let held := if held.contains roleId then held else held ++ [roleId]
  pure { st with userRoles := st.userRoles.insert userId held }

/-- The grant is one of the role, the module and the permission type. -/
def Pairs (g : Grant) (roleId moduleId permissionTypeId : Uuid) : Prop :=
  g.roleId = roleId ∧ g.moduleId = moduleId ∧ g.permissionTypeId = permissionTypeId

instance (g : Grant) (r m p : Uuid) : Decidable (Pairs g r m p) :=
  inferInstanceAs (Decidable (_ ∧ _ ∧ _))

/-- Make a grant. -/
def grant (st : MemoryStore) (g : Grant) : Except Failure MemoryStore := do
  demand (.notFound "Role") (st.roles.has g.roleId)
  demand (.notFound "Module") (st.modules.any (·.id = g.moduleId))
  demand (.notFound "PermissionType") (st.permissionTypes.any (·.id = g.permissionTypeId))
  demand (.alreadyExists "Permission")
    (!st.grants.any fun h => decide (Pairs h g.roleId g.moduleId g.permissionTypeId))
  pure { st with grants := st.grants ++ [g] }

/-- Switch the module of a name on or off. -/
def setModuleEnabled (st : MemoryStore) (name : String) (enabled : Bool) :
    Except Failure MemoryStore := do
  demand (.notFound "Module") (st.modules.has name)
  pure { st with modules := st.modules.modify name fun m => { m with enabled } }

/-- The role of a name. -/
def roleByName (st : MemoryStore) (name : String) : Option Role := st.roles.find? (·.name = name)

/-- Switch the role of a name on or off. -/
def setRoleEnabled (st : MemoryStore) (name : String) (enabled : Bool) :
    Except Failure MemoryStore :=
  match st.roleByName name with
  | none => .error (.notFound "Role")
  | some role => .ok { st with roles := st.roles.modify role.id fun r => { r with enabled } }

/-- Switch an identity on or off. -/
def setIdentityEnabled (st : MemoryStore) (userId : Uuid) (enabled : Bool) :
    Except Failure MemoryStore := do
  demand (.notFound "User") (st.identities.has userId)
  pure { st with identities := st.identities.modify userId fun i => { i with enabled } }

/-- The module of a name. -/
def moduleByName (st : MemoryStore) (name : String) : Option Module := st.modules.get? name

/-- The permission type of a name. -/
def permissionTypeByName (st : MemoryStore) (name : String) : Option PermissionType :=
  st.permissionTypes.get? name

/-- The identity with an address in its normal form. -/
def findByEmail (st : MemoryStore) (email : String) : Option Identity :=
  st.identities.find? (·.email = email)

/-- The last value in the order of names that passes a test. -/
def lastByName {α : Type} (t : Table String α) (p : α → Bool) : Option α :=
  t.sortedValues.reverse.find? p

/-- A grant with its records, if they exist. Of several records under one id the last in the order
of names counts. -/
def resolveGrant (st : MemoryStore) (g : Grant) : Option ResolvedGrant := do
  let m ← lastByName st.modules (·.id = g.moduleId)
  let p ← lastByName st.permissionTypes (·.id = g.permissionTypeId)
  pure ⟨m, p⟩

/-- The roles of an identity with their grants. A role that is noted twice is listed once, where it
stands first. -/
def roleAssignments (st : MemoryStore) (userId : Uuid) : List RoleAssignment :=
  ((st.userRoles.get? userId).getD []).eraseDups.filterMap fun roleId =>
    (st.roles.get? roleId).map fun role =>
      ⟨role, (st.grants.filter (·.roleId = roleId)).filterMap st.resolveGrant⟩

/-- The declared modules and permission types, in the order of their names. -/
def catalog (st : MemoryStore) : Declarations :=
  ⟨st.modules.sortedValues, st.permissionTypes.sortedValues⟩

/-! ## Sessions -/

/-- The session with a token digest. -/
def findByTokenHash (st : MemoryStore) (hash : Bytes) : Option Session :=
  st.sessions.find? (·.tokenHash = hash)

/-- Every session of an identity, in the order of issue. -/
def sessionsFor (st : MemoryStore) (userId : Uuid) : List Session :=
  (st.sessions.values.filter (·.userId = userId)).mergeSort fun a b =>
    decide (a.issuedAt ≤ b.issuedAt)

/-- The rotation supersedes the session. -/
def supersedes (r : Rotation) (s : Session) : Bool :=
  s.userId = r.session.userId && !s.revoked && (r.scope.covers s || some s.id = r.replaces)

/-- The session would stand beside the new one on its device. -/
def collides (r : Rotation) (s : Session) : Bool :=
  s.userId = r.session.userId && !s.revoked && s.deviceId = r.session.deviceId

/-- The session that a rotation replaces, if it names one, is still active. -/
def replacedIsActive (st : MemoryStore) (r : Rotation) : Bool :=
  r.replaces.all fun id => (st.sessions.get? id).any (·.isActive r.now)

/-- Carry out a rotation. -/
def rotate (st : MemoryStore) (r : Rotation) : Except Cause (RotationOutcome × MemoryStore) :=
  if !st.replacedIsActive r then .ok (.superseded, st)
  else if st.sessions.any (·.tokenHash = r.session.tokenHash) then
    .error (.root "refresh token hash collision")
  else if st.sessions.any fun s => collides r s && !supersedes r s then
    .error (.root "an active session outside the rotation scope holds this device id")
  else
    let revoked := (st.sessions.values.filter (supersedes r)).map (·.id)
    let sessions := st.sessions.map fun _ s =>
      if supersedes r s then s.revoke r.reason r.now else s
    .ok (.committed revoked, { st with sessions := sessions.insert r.session.id r.session })

/-- Revoke a session. -/
def revoke (st : MemoryStore) (id : Uuid) (reason : String) (now : Instant) :
    RevokeOutcome × MemoryStore :=
  match st.sessions.get? id with
  | none => (.notFound, st)
  | some s =>
    (if s.revoked then .alreadyRevoked else .revoked,
      { st with sessions := st.sessions.modify id fun s => s.revoke reason now })

/-- Revoke every session of an identity. -/
def revokeAll (st : MemoryStore) (userId : Uuid) (reason : String) (now : Instant) :
    Nat × MemoryStore :=
  let concerned (s : Session) : Bool := s.userId = userId && !s.revoked
  ((st.sessions.values.filter concerned).length,
    { st with
      sessions := st.sessions.map fun _ s => if concerned s then s.revoke reason now else s })

/-- The active sessions of an identity, the last used first. -/
def listActive (st : MemoryStore) (userId : Uuid) (now : Instant) : List Session :=
  (st.sessions.values.filter fun s => s.userId = userId && s.isActive now).mergeSort fun a b =>
    decide (b.lastUsed ≤ a.lastUsed)

/-- Note the use of a session. -/
def touch (st : MemoryStore) (id : Uuid) (now : Instant) : MemoryStore :=
  { st with sessions := st.sessions.modify id fun s => s.touch now }

/-! ## Store calls -/

/-- The answer to a store call, and the store after it. A call that fails changes nothing. -/
def answer (st : MemoryStore) : (call : StoreCall) → Except Cause (call.Reply × MemoryStore)
  | .rotate r => st.rotate r
  | .findByTokenHash hash => .ok (st.findByTokenHash hash, st)
  | .findSession id => .ok (st.sessions.get? id, st)
  | .revoke id reason now => .ok (st.revoke id reason now)
  | .revokeAll userId reason now => .ok (st.revokeAll userId reason now)
  | .listActive userId now => .ok (st.listActive userId now, st)
  | .touch id now => .ok ((), st.touch id now)
  | .findByEmail email => .ok (st.findByEmail email, st)
  | .findIdentity id => .ok (st.identities.get? id, st)
  | .roleAssignments userId => .ok (st.roleAssignments userId, st)
  | .catalog => .ok (st.catalog, st)

end MemoryStore

end Gatehouse
