import Gatehouse.Permission
import Gatehouse.Table
import Gatehouse.Text.Blank
import Gatehouse.Text.LowerCase

/-! # Policies

A *requirement* is a module and a permission type. Its *policy name* is the address under which it
can be asked for; the *registry* holds one policy for every declared pair, disabled modules
included, and of two pairs with one name the later stands. Permissions are read from live data or
from the claims of a token. -/

namespace Gatehouse

/-- A permission that is asked for. -/
structure Requirement where
  module : String
  permissionType : String
  deriving DecidableEq, Repr

namespace Requirement

/-- The name of the policy. -/
def policyName (r : Requirement) : String := "Permission." ++ r.module ++ "." ++ r.permissionType

/-- The text that a holder of the permission has among its own. -/
def permission (r : Requirement) : String := permissionText r.module r.permissionType

end Requirement

/-- The policies by name. -/
structure Registry where
  policies : Table String Requirement
  deriving DecidableEq, Repr

namespace Registry

/-- The requirements that declarations make, module by module. -/
def requirements (d : Declarations) : List Requirement :=
  d.modules.flatMap fun m => d.permissionTypes.map fun p => ⟨m.name, p.name⟩

/-- One policy for every declared pair. -/
def ofDeclarations (d : Declarations) : Registry :=
  ⟨(requirements d).foldl (fun t r => t.insert r.policyName r) .empty⟩

/-- The requirement behind a policy name. -/
def lookup (r : Registry) (name : String) : Option Requirement := r.policies.get? name

/-- The policy names in order. -/
def names (r : Registry) : List String := r.policies.sortedKeys

/-- The number of policies. -/
def size (r : Registry) : Nat := r.policies.size

end Registry

/-- Where a check reads permissions from. -/
inductive PermissionSource where
  /-- From storage, on every check. -/
  | live
  /-- From the claims of the token, as of its issue. -/
  | token
  deriving DecidableEq, Repr

namespace PermissionSource

/-- The label of a source. -/
def label : PermissionSource → String
  | live => "live"
  | token => "token"

/-- The source that a text names, blanks around it and case not counting; else what it says. -/
def ofText (s : String) : Except String PermissionSource :=
  let word := Text.lower (Text.trim s)
  if word = "live" then .ok live
  else if word = "token" then .ok token
  else .error ("unknown permission source: " ++ word)

end PermissionSource

/-- The answer to a requirement. -/
inductive Decision where
  | allow
  | deny
  deriving DecidableEq, Repr

/-- Allow if the condition holds. -/
def Decision.ofBool : Bool → Decision
  | true => allow
  | false => deny

end Gatehouse
