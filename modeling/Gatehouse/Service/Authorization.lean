import Gatehouse.Policy
import Gatehouse.Service.Resolution
import Gatehouse.Token.Codec

/-! # Authorization

A bearer is accepted if its token is valid and not refused; for every other reason it is told the
same. A requirement is then decided from the permissions in the token, or from the store: in that
case the identity must exist and be enabled at this moment. A principal without a user id is
denied. -/

namespace Gatehouse

/-- What authorization is configured with. -/
structure AuthorizationService where
  settings : TokenSettings
  source : PermissionSource
  deriving DecidableEq, Repr

namespace AuthorizationService

/-- The caller behind a bearer token. -/
def authenticate (s : AuthorizationService) (bearer : String) : Service Principal := do
  let now ← Service.now
  match Token.validate s.settings now bearer with
  | .error _ => Service.refuse .unauthenticated
  | .ok principal =>
    if s.settings.blacklist then
      let now ← Service.now
      if ← Service.ask (.isRefused principal.tokenId now) then Service.refuse .unauthenticated
      else pure principal
    else pure principal

/-- The identity exists, is enabled, and has the permission. -/
def liveCheck (userId : Uuid) (permission : String) : Service Bool := do
  let found ← Service.store (.findIdentity userId)
  if found.any (·.enabled) then Resolution.hasPermission userId permission else pure false

/-- Lookups of permissions run under this context. -/
def deadlineContext : String := "authorization lookup aborted"

/-- Decide a requirement for a caller. -/
def authorize (s : AuthorizationService) (principal : Principal) (r : Requirement) :
    Service Decision :=
  match principal.userId with
  | none => pure .deny
  | some userId =>
    match s.source with
    | .token => pure (.ofBool (principal.hasPermission r.permission))
    | .live => Decision.ofBool <$>
      Service.withDeadline deadlineContext (liveCheck userId r.permission)

/-- Decide a requirement for a bearer. -/
def check (s : AuthorizationService) (bearer : String) (r : Requirement) : Service Decision := do
  let principal ← s.authenticate bearer
  s.authorize principal r

/-- The registry of the policies that the store declares. -/
def loadRegistry : Service Registry := do
  let declarations ← Service.store .catalog
  pure (Registry.ofDeclarations declarations)

end AuthorizationService

end Gatehouse
