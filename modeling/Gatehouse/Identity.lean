import Gatehouse.Calendar.Instant
import Gatehouse.Uuid

/-! # Identities and what they may do

An identity holds roles, a role holds grants, and a grant pairs a module with a permission type.
Roles, modules and identities can be switched off without being removed. -/

namespace Gatehouse

/-- An account. -/
structure Identity where
  id : Uuid
  name : String
  email : String
  passwordHash : String
  enabled : Bool
  deriving DecidableEq, Repr

/-- A named bundle of grants. -/
structure Role where
  id : Uuid
  name : String
  description : String
  enabled : Bool
  deriving DecidableEq, Repr

/-- A part of the application that access is granted to. -/
structure Module where
  id : Uuid
  name : String
  description : String
  enabled : Bool
  deriving DecidableEq, Repr

/-- A kind of access. -/
structure PermissionType where
  id : Uuid
  name : String
  code : String
  description : String
  deriving DecidableEq, Repr

/-- A role's permission of one type on one module, by their ids. -/
structure Grant where
  roleId : Uuid
  moduleId : Uuid
  permissionTypeId : Uuid
  assignedAt : Instant
  deriving DecidableEq, Repr

/-- A grant with its records looked up. -/
structure ResolvedGrant where
  module : Module
  permissionType : PermissionType
  deriving DecidableEq, Repr

/-- A role that an identity holds, with its grants. -/
structure RoleAssignment where
  role : Role
  grants : List ResolvedGrant
  deriving DecidableEq, Repr

/-- What the policies are declared from: the modules and the permission types. -/
structure Declarations where
  modules : List Module
  permissionTypes : List PermissionType
  deriving DecidableEq, Repr

end Gatehouse
