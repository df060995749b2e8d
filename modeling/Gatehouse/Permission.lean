import Gatehouse.Identity

/-! # Resolved permissions

What an identity may do, flattened from its role assignments: the names of its enabled roles, and
for every grant of such a role on an enabled module the text `module:type`. Both lists are strictly
ascending in the order of code points, so a permission is found by halving the list. -/

namespace Gatehouse

/-- The text of a permission. -/
def permissionText (module permissionType : String) : String := module ++ ":" ++ permissionType

/-- The names of an identity's roles and the texts of its permissions. -/
structure Access where
  roles : List String
  permissions : List String
  deriving DecidableEq, Repr

namespace Access

/-- A text put in its place in an ascending list, unless it is there. -/
def insertText (s : String) : List String → List String
  | [] => [s]
  | t :: rest =>
    if s < t then s :: t :: rest
    else if s = t then t :: rest
    else t :: insertText s rest

/-- The texts of a list in ascending order, each once. -/
def ascending (ss : List String) : List String := ss.foldl (fun acc s => insertText s acc) []

/-- The permissions that one assignment brings. -/
def grantTexts (a : RoleAssignment) : List String :=
  (a.grants.filter (·.module.enabled)).map fun g =>
    permissionText g.module.name g.permissionType.name

/-- The access that role assignments bring: disabled roles count for nothing, nor do grants on
disabled modules. -/
def flatten (assignments : List RoleAssignment) : Access :=
  let enabled := assignments.filter (·.role.enabled)
  ⟨ascending (enabled.map (·.role.name)), ascending (enabled.flatMap grantTexts)⟩

/-- The text stands between two positions of an ascending array. -/
def searchBetween (xs : Array String) (s : String) (lo hi : Nat) : Bool :=
  if lo < hi then
    let mid := (lo + hi) / 2
    let x := xs.getD mid ""
    if x = s then true
    else if x < s then searchBetween xs s (mid + 1) hi
    else searchBetween xs s lo mid
  else false
termination_by hi - lo

/-- The permission is among those of the access. -/
def contains (a : Access) (permission : String) : Bool :=
  let xs := a.permissions.toArray
  searchBetween xs permission 0 xs.size

end Access

end Gatehouse
