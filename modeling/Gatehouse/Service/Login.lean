import Gatehouse.Service.Credentials
import Gatehouse.Service.Resolution
import Gatehouse.Service.Sessions
import Gatehouse.Token.Codec

/-! # Login, refresh and logout

A login checks its input, then the credentials, classifies the client, builds a session, resolves
the permissions, signs an access token, and writes the session last, so that nothing is written by a
login that fails before. A refresh does the same from the session behind its token, which the new
session replaces in the same write. A logout revokes the session behind its token, whether or not
there is one, and refuses the access token that comes with it. All that follows the check of the
input runs under a deadline. -/

namespace Gatehouse

/-- A request to log in. -/
structure LoginRequest where
  email : String
  password : String
  hints : ClientHints
  deriving DecidableEq, Repr

/-- A value that may be missing, as a log shows it. -/
def optionText : Option String → String
  | some s => "Some(" ++ Text.quoted s ++ ")"
  | none => "None"

/-- A request as a log shows it: the password stays hidden. -/
def LoginRequest.logText (r : LoginRequest) : String :=
  "LoginRequest \x7b email: " ++ Text.quoted r.email ++ ", password: \"[REDACTED]\", device_id: " ++
    optionText r.hints.deviceId ++ ", platform: " ++ optionText r.hints.platform ++ ", .. \x7d"

/-- What the holder of a new session is told of its own account. -/
structure UserSummary where
  id : Uuid
  name : String
  email : String
  enabled : Bool
  access : Access
  deriving DecidableEq, Repr

/-- The tokens that a login or a refresh hands out. -/
structure TokenPair where
  accessToken : IssuedToken
  refreshToken : String
  refreshExpiry : Instant
  flavor : Flavor
  deriving DecidableEq, Repr

/-- The answer to a login. -/
structure LoginAnswer where
  tokens : TokenPair
  user : UserSummary
  activeSessions : List SessionSummary
  deriving DecidableEq, Repr

/-- The random values that a login or a refresh uses up. -/
structure Fresh where
  session : SessionSeed
  tokenId : Uuid
  deriving DecidableEq, Repr

/-- What the login services are configured with. -/
structure LoginService where
  settings : TokenSettings
  credentials : Credentials

namespace LoginService

/-- The lifetimes of sessions. -/
def lifetimes (s : LoginService) : Lifetimes := .ofWebDays s.settings.refreshDays

/-- Services on identities run under this context. -/
def deadlineContext : String := "identity operation aborted"

/-- A new access token. -/
def sign (s : LoginService) (tokenId : Uuid) (identity : Identity) (access : Access) :
    Service IssuedToken := do
  let now ← Service.now
  Service.inCalendar (Token.issue s.settings now tokenId identity access)

/-- What an identity is told of its account. -/
def summary (identity : Identity) (access : Access) : UserSummary :=
  ⟨identity.id, identity.name, identity.email, identity.enabled, access⟩

/-- Log in. -/
def login (s : LoginService) (fresh : Fresh) (request : LoginRequest) (transport : Transport) :
    Service LoginAnswer := do
  Service.accept (Validation.login request.email request.password)
  Service.withDeadline deadlineContext do
    let identity ← s.credentials.verify request.email request.password
    let client := Client.classify request.hints transport
    let pending ← Sessions.prepare s.lifetimes fresh.session identity.id client
    let access ← Resolution.resolve identity.id
    let issued ← s.sign fresh.tokenId identity access
    let session ← Sessions.commit pending
    let activeSessions ← Sessions.list identity.id client.deviceId
    pure
      { tokens := ⟨issued, pending.refreshToken, session.expiresAt, client.flavor⟩
        user := summary identity access, activeSessions }

/-- Exchange a refresh token for a new pair of tokens. -/
def refresh (s : LoginService) (fresh : Fresh) (token : String) : Service TokenPair := do
  Service.accept (Validation.refreshToken token)
  Service.withDeadline deadlineContext do
    let current ← Service.require .unauthenticated (← Sessions.findActiveByToken token)
    let identity ← Service.require .unauthenticated (← Service.store (.findIdentity current.userId))
    if !identity.enabled then Service.refuse .inactiveUser
    let pending ← Sessions.prepareRotation s.lifetimes fresh.session current
    let access ← Resolution.resolve identity.id
    let issued ← s.sign fresh.tokenId identity access
    let session ← Sessions.commit pending
    pure ⟨issued, pending.refreshToken, session.expiresAt, session.flavor⟩

/-- Revoke the session of a refresh token, if there is one. -/
def endSession (token : String) : Service Unit := do
  match ← Sessions.findByToken token with
  | some session => Sessions.revoke session.id reasonLogout
  | none => pure ()

/-- Refuse an access token that is valid now. -/
def refuseToken (s : LoginService) (accessToken : String) : Service Unit := do
  let now ← Service.now
  match Token.validate s.settings now accessToken with
  | .ok principal => do
    let now ← Service.now
    Service.ask (.refuse principal.tokenId principal.expiresAt now)
  | .error _ => pure ()

/-- Log out. -/
def logout (s : LoginService) (token : String) (accessToken : Option String) : Service Unit := do
  Service.accept (Validation.refreshToken token)
  Service.withDeadline deadlineContext (endSession token)
  if s.settings.blacklist then
    match accessToken with
    | some accessToken => s.refuseToken accessToken
    | none => pure ()

/-- Where an identity is logged in. To ask counts as use of the session on the asking device. -/
def activeSessions (userId : Uuid) (hints : ClientHints) (transport : Transport) :
    Service (List SessionSummary) :=
  let client := Client.classify hints transport
  Service.withDeadline deadlineContext do
    let _ ← Sessions.touchDevice userId client.deviceId
    Sessions.list userId client.deviceId

end LoginService

end Gatehouse
