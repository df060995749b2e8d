import Gatehouse.Calendar.Text
import Gatehouse.Json.Record
import Gatehouse.Policy
import Gatehouse.Release
import Gatehouse.Service.Login

/-! # What the interface shows

The JSON of requests and answers. Names of members are in camel case, instants are texts in the
calendar, and a failure shows its code and its public message, with the fields at fault where there
are any. -/

namespace Gatehouse

/-- An instant as JSON. -/
def Instant.toJson (t : Instant) : Json := .text t.text

/-- A summary of a session. -/
def SessionSummary.toJson (s : SessionSummary) : Json :=
  .obj [("deviceId", .text s.deviceId), ("deviceName", .text s.deviceName),
    ("platform", .text s.platform), ("lastUsed", s.lastUsed.toJson),
    ("isCurrent", .bool s.isCurrent)]

/-- The summary of an account. -/
def UserSummary.toJson (u : UserSummary) : Json :=
  .obj [("id", .text u.id.text), ("name", .text u.name), ("email", .text u.email),
    ("enabled", .bool u.enabled), ("roles", .texts u.access.roles),
    ("permissions", .texts u.access.permissions)]

/-- The members that every answer with tokens has. -/
def TokenPair.members (t : TokenPair) : List (String × Json) :=
  [("accessToken", .text t.accessToken.token), ("refreshToken", .text t.refreshToken),
    ("accessTokenExpiry", t.accessToken.expiresAt.toJson),
    ("refreshTokenExpiry", t.refreshExpiry.toJson), ("sessionType", .text t.flavor.label)]

/-- The answer to a refresh. -/
def TokenPair.toJson (t : TokenPair) : Json := .obj t.members

/-- The answer to a login. -/
def LoginAnswer.toJson (a : LoginAnswer) : Json :=
  .obj (a.tokens.members ++
    [("user", a.user.toJson), ("activeSessions", .array (a.activeSessions.map (·.toJson)))])

/-- A requirement. -/
def Requirement.toJson (r : Requirement) : Json :=
  .obj [("module", .text r.module), ("permissionType", .text r.permissionType)]

/-- A field at fault. -/
def FieldError.toJson (e : FieldError) : Json :=
  .obj [("propertyName", .text e.field), ("errorMessage", .text e.message)]

/-- What a client is told of a failure. -/
def Failure.toJson (f : Failure) : Json :=
  .obj ([("code", .text f.code), ("message", .text f.publicMessage)] ++
    (if f.fields.isEmpty then [] else [("errors", .array (f.fields.map (·.toJson)))]))

/-- The status of the response to a failure. -/
def Failure.status : Failure → Nat
  | validation _ => 400
  | invalidCredentials | unauthenticated => 401
  | inactiveUser => 403
  | notFound _ => 404
  | alreadyExists _ => 409
  | infrastructure _ => 500

/-- The members of a login request in their order. -/
def LoginRequest.members : List Json.Member :=
  [⟨"email", false⟩, ⟨"password", false⟩, ⟨"deviceId", true⟩, ⟨"deviceName", true⟩,
    ⟨"platform", true⟩, ⟨"appVersion", true⟩]

/-- The login request of a value. -/
def LoginRequest.ofJson? (j : Json) : Option LoginRequest := do
  let ms ← Json.record? members j
  pure
    { email := ← ms.text? "email", password := ← ms.text? "password"
      hints :=
        { deviceId := ← ms.optionalText? "deviceId", deviceName := ← ms.optionalText? "deviceName"
          platform := ← ms.optionalText? "platform"
          appVersion := ← ms.optionalText? "appVersion" } }

/-- The refresh token of a request for a refresh or a logout. -/
def refreshTokenOfJson? (j : Json) : Option String := do
  let ms ← Json.record? [⟨"refreshToken", false⟩] j
  ms.text? "refreshToken"

/-- What a storage is called in an answer. -/
def StorageHealth.label : StorageHealth → String
  | memory => "memory"
  | reachable => "ok"
  | unreachable => "error"

end Gatehouse
