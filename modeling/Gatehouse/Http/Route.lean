import Gatehouse.Http.Target

/-! # Routes

The paths of the interface and the methods that each allows. The parts of a path are compared as
they are written; only the two parameters of an authorization are read as escaped text, and of these
the module may be empty. -/

namespace Gatehouse.Http

/-- A place of the interface. -/
inductive Route where
  | health
  | document
  | login
  | refresh
  | logout
  | sessions
  /-- The module and the permission type as they are written. -/
  | authorize (module permissionType : String)
  deriving DecidableEq, Repr

namespace Route

/-- The route of a path. -/
def ofPath? (path : String) : Option Route :=
  match path.splitOn "/" with
  | ["", "health"] => some health
  | ["", "openapi.json"] => some document
  | ["", "v1", "auth", "login"] => some login
  | ["", "v1", "auth", "refresh"] => some refresh
  | ["", "v1", "auth", "logout"] => some logout
  | ["", "v1", "auth", "sessions"] => some sessions
  | ["", "v1", "auth", "authorize", m, p] => if p.isEmpty then none else some (authorize m p)
  | _ => none

/-- The methods of a route. -/
def methods : Route → List String
  | health => ["GET", "HEAD", "OPTIONS"]
  | login | refresh | logout => ["POST"]
  | document | sessions | authorize .. => ["GET", "HEAD"]

end Route

/-- A parameter of a path that is not UTF-8. -/
structure BadParameter where
  name : String
  deriving DecidableEq, Repr

/-- What is said of such a parameter. -/
def BadParameter.message (b : BadParameter) : String :=
  "Invalid URL: Invalid UTF-8 in `" ++ b.name ++ "`"

/-- The text of a parameter. -/
def parameter (name written : String) : Except BadParameter String :=
  match Utf8.text? (Target.pathBytes written) with
  | some s => .ok s
  | none => .error ⟨name⟩

end Gatehouse.Http
