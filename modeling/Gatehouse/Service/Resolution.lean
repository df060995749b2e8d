import Gatehouse.Permission
import Gatehouse.Service.Basic

/-! # Resolving permissions

What an identity may do at this moment, as the store has it. -/

namespace Gatehouse.Resolution

/-- The access of an identity. -/
def resolve (userId : Uuid) : Service Access := do
  let assignments ← Service.store (.roleAssignments userId)
  pure (Access.flatten assignments)

/-- The identity has the permission. -/
def hasPermission (userId : Uuid) (permission : String) : Service Bool := do
  let access ← resolve userId
  pure (access.contains permission)

end Gatehouse.Resolution
