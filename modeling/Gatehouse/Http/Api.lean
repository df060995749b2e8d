import Gatehouse.Http.Description
import Gatehouse.Http.Message
import Gatehouse.Http.Route
import Gatehouse.Http.Views
import Gatehouse.Service.Authorization

/-! # The HTTP interface

A request is matched to a route, its method to those of the route, and then answered by a service. A
failure is answered with its status and what a client may know of it. Every response carries the
request's id: the one that the request names, or else a fresh one. A request without a bearer that
is accepted learns nothing, not even which policies there are. -/

namespace Gatehouse.Http

/-- The services behind the interface. -/
structure Api where
  login : LoginService
  authorization : AuthorizationService
  policies : Registry
  release : Release

namespace Api

/-- The response to a failure. -/
def failed (f : Failure) : Response := .json f.status f.toJson

/-- The response of a service, a failure answered. -/
def answering (service : Service Response) : Service Response :=
  tryCatch service fun
    | .refused f => pure (failed f)
    | stop => throw stop

/-- The value of a request's body, or the failure of a request without one. -/
def body {α : Type} (a : Option α) : Service α := Service.require Validation.missingBody a

/-- Log in. -/
def postLogin (api : Api) (fresh : Fresh) (r : Request) : Service Response := do
  let request ← body (r.json?.bind LoginRequest.ofJson?)
  let answer ← api.login.login fresh request r.transport
  pure (.json 200 answer.toJson)

/-- Exchange a refresh token. -/
def postRefresh (api : Api) (fresh : Fresh) (r : Request) : Service Response := do
  let token ← body (r.json?.bind refreshTokenOfJson?)
  let answer ← api.login.refresh fresh token
  pure (.json 200 answer.toJson)

/-- Log out. -/
def postLogout (api : Api) (r : Request) : Service Response := do
  let token ← body (r.json?.bind refreshTokenOfJson?)
  api.login.logout token r.bearer?
  pure { status := 204 }

/-- The caller of a request. -/
def caller (api : Api) (r : Request) : Service Principal := do
  let bearer ← Service.require .unauthenticated r.bearer?
  api.authorization.authenticate bearer

/-- Where the caller is logged in. -/
def getSessions (api : Api) (r : Request) : Service Response := do
  let principal ← api.caller r
  let userId ← Service.require .unauthenticated principal.userId
  let hints := { ClientHints.none with deviceId := r.queryValue? "deviceId" }
  let sessions ← LoginService.activeSessions userId hints r.transport
  pure (.json 200 (.array (sessions.map (·.toJson))))

/-- The response for a policy that is not registered. -/
def unknownPolicy (name : String) : Response :=
  .json 404 (.obj [("code", .text "Policies.NotFound"),
    ("message", .text ("Policy " ++ name ++ " is not registered"))])

/-- Whether the caller may do something. -/
def getAuthorization (api : Api) (r : Request) (m p : String) : Service Response :=
  match (do pure (← parameter "module" m, ← parameter "permission" p) : Except BadParameter _) with
  | .error bad => pure (.text 400 bad.message)
  | .ok (m, p) => do
    let principal ← api.caller r
    let name := (Requirement.mk m p).policyName
    match api.policies.lookup name with
    | none => pure (unknownPolicy name)
    | some requirement => do
      match ← api.authorization.authorize principal requirement with
      | .allow => pure { status := 204 }
      | .deny => pure { status := 403 }

/-- How the service and its storage are. -/
def getHealth (api : Api) (r : Request) : Service Response := do
  let health ← Service.ask .health
  let release := api.release
  let status := if health = .unreachable then 503 else 200
  let response : Response :=
    if r.method = "GET" then
      .json status (.obj [("commit", .text release.commit), ("name", .text release.name),
        ("version", .text release.version), ("database", .text health.label)])
    else { status }
  pure (response.withHeader "x-app" (Bytes.ofText release.headerText))

/-- The response of a route whose method is allowed. -/
def respond (api : Api) (fresh : Fresh) (r : Request) : Route → Service Response
  | .health => api.getHealth r
  | .document => pure (.json 200 (Description.document api.release))
  | .login => api.postLogin fresh r
  | .refresh => api.postRefresh fresh r
  | .logout => api.postLogout r
  | .sessions => api.getSessions r
  | .authorize m p => api.getAuthorization r m p

/-- The response to a request, but for its id. -/
def dispatch (api : Api) (fresh : Fresh) (r : Request) : Service Response :=
  match Route.ofPath? r.target.path with
  | none => pure { status := 404 }
  | some route =>
    if route.methods.contains r.method then do
      let response ← answering (api.respond fresh r route)
      pure (if r.method = "HEAD" then response.withoutBody else response)
    else
      pure { status := 405, headers := [("allow", Bytes.ofText (",".intercalate route.methods))] }

/-- The header of request ids. -/
def requestIdHeader : String := "x-request-id"

/-- The response to a request. -/
def handle (api : Api) (fresh : Fresh) (freshId : String) (r : Request) : Service Response := do
  let response ← api.dispatch fresh r
  let id := (r.header? requestIdHeader).getD (Bytes.ofText freshId)
  pure (response.withHeader requestIdHeader id)

end Api

end Gatehouse.Http
