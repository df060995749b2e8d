/-! # Failures

Every operation fails for one of three kinds of reason. *Input* is refused field by field before
anything is looked up. A *rule* is broken: the caller may branch on its code. Or the
*infrastructure* failed: the chain of causes is for the log, and a client learns nothing of it. -/

namespace Gatehouse

/-- Why the infrastructure failed: what was being done, outermost first, down to the first cause. -/
structure Cause where
  layers : List String
  deriving DecidableEq, Repr

namespace Cause

/-- A first cause. -/
def root (message : String) : Cause := ⟨[message]⟩

/-- The cause seen from one layer further out. -/
def within (c : Cause) (context : String) : Cause := ⟨context :: c.layers⟩

/-- The outermost layer alone. -/
def outermost (c : Cause) : String := c.layers.headD ""

/-- All layers, outermost first. -/
def message (c : Cause) : String := ": ".intercalate c.layers

end Cause

/-- An input field that broke a rule. -/
structure FieldError where
  field : String
  message : String
  deriving DecidableEq, Repr

/-- Why an operation was refused. -/
inductive Failure where
  /-- Input fields break rules. -/
  | validation (errors : List FieldError)
  /-- The e-mail address is unknown or the password does not match: never told apart. -/
  | invalidCredentials
  /-- The account is disabled. -/
  | inactiveUser
  /-- A token or a session is not accepted, whatever the reason. -/
  | unauthenticated
  /-- A record does not exist. -/
  | notFound (entity : String)
  /-- A record with that identity exists already. -/
  | alreadyExists (entity : String)
  /-- Storage or another part below failed. -/
  | infrastructure (cause : Cause)
  deriving DecidableEq, Repr

namespace Failure

/-- The stable code that callers branch on. -/
def code : Failure → String
  | validation _ => "Validation.Failed"
  | invalidCredentials => "Users.InvalidCredentials"
  | inactiveUser => "Users.InactiveUser"
  | unauthenticated => "Auth.Unauthenticated"
  | notFound entity => entity ++ "s.NotFound"
  | alreadyExists entity => entity ++ "s.AlreadyExists"
  | infrastructure _ => "Internal.ServerError"

/-- What the log says. -/
def message : Failure → String
  | validation _ => "Validation errors occurred"
  | invalidCredentials => "Invalid email or password"
  | inactiveUser => "User account is inactive"
  | unauthenticated => "Authentication required"
  | notFound entity => entity ++ " not found"
  | alreadyExists entity => entity ++ " already exists"
  | infrastructure cause => "infrastructure failure: " ++ cause.message

/-- What a client is told: the message, but nothing about the infrastructure. -/
def publicMessage : Failure → String
  | infrastructure _ => "An unexpected error occurred"
  | f => f.message

/-- The failure lies below the rules. -/
def isInfrastructure : Failure → Bool
  | infrastructure _ => true
  | _ => false

/-- The fields at fault, for a failure of input. -/
def fields : Failure → List FieldError
  | validation errors => errors
  | _ => []

end Failure

end Gatehouse
