import Gatehouse.Json.Basic
import Gatehouse.Release

/-! # The description of the interface

The document that describes the HTTP interface: its paths with their parameters, bodies and
responses, and the forms of the values in them. -/

namespace Gatehouse.Http.Description

/-- The form of a value. -/
inductive Form where
  | text
  | nullableText
  | truth
  | identifier
  | instant
  /-- A form described under a name. -/
  | named (name : String)
  | list (items : Form)
  deriving Repr

/-- Where a named form is described. -/
def reference (name : String) : Json := .obj [("$ref", .text ("#/components/schemas/" ++ name))]

/-- The description of a form. -/
def Form.toJson : Form → Json
  | text => .obj [("type", .text "string")]
  | nullableText => .obj [("type", .texts ["string", "null"])]
  | truth => .obj [("type", .text "boolean")]
  | identifier => .obj [("type", .text "string"), ("format", .text "uuid")]
  | instant => .obj [("type", .text "string"), ("format", .text "date-time")]
  | named name => reference name
  | list items => .obj [("type", .text "array"), ("items", items.toJson)]

/-- A member of a record. -/
structure Field where
  name : String
  form : Form
  required : Bool := true

/-- Nothing, or a description. -/
def described (text : Option String) : List (String × Json) :=
  text.toList.map fun text => ("description", .text text)

/-- The description of a record. -/
def record (fields : List Field) (description : Option String := none) : Json :=
  .obj (described description ++
    [("type", .text "object"), ("required", .texts ((fields.filter (·.required)).map (·.name))),
      ("properties", .obj (fields.map fun f => (f.name, f.form.toJson)))])

/-- A response: its status, what it means, and the form of its body. -/
structure Reply where
  status : Nat
  description : String
  form : Option Form := none

/-- A body in JSON. -/
def content (form : Form) : String × Json :=
  ("content", .obj [("application/json", .obj [("schema", form.toJson)])])

/-- The description of responses. -/
def responses (replies : List Reply) : Json :=
  .obj (replies.map fun r =>
    (toString r.status, .obj (("description", .text r.description) :: r.form.toList.map content)))

/-- A parameter in a path or a query. -/
structure Parameter where
  name : String
  place : String
  description : String
  required : Bool

/-- The description of a parameter. -/
def Parameter.toJson (p : Parameter) : Json :=
  .obj [("name", .text p.name), ("in", .text p.place), ("description", .text p.description),
    ("required", .bool p.required), ("schema", Form.text.toJson)]

/-- An operation on a path. -/
structure Operation where
  method : String
  id : String
  tag : String
  parameters : List Parameter := []
  body : Option Form := none
  replies : List Reply
  needsBearer : Bool := false

/-- The description of an operation. -/
def Operation.toJson (o : Operation) : Json :=
  .obj ([("tags", .texts [o.tag]), ("operationId", .text o.id)] ++
    (if o.parameters.isEmpty then [] else
      [("parameters", .array (o.parameters.map (·.toJson)))]) ++
    (o.body.toList.map fun form =>
      ("requestBody", .obj [content form, ("required", .bool true)])) ++
    [("responses", responses o.replies)] ++
    (if o.needsBearer then [("security", .array [.obj [("bearer", .array [])]])] else []))

/-- A response that tells of a failure. -/
def failure (status : Nat) (description : String) : Reply :=
  ⟨status, description, some (.named "ErrorBody")⟩

/-- A response with a named body. -/
def success (name description : String) : Reply := ⟨200, description, some (.named name)⟩

/-- The paths with their operations. -/
def paths : List (String × Operation) :=
  [("/health",
      { method := "get", id := "health", tag := "health"
        replies :=
          [success "Health" "Service and storage are healthy",
            ⟨503, "Storage is unreachable", some (.named "Health")⟩] }),
    ("/v1/auth/login",
      { method := "post", id := "login", tag := "auth", body := some (.named "LoginRequest")
        replies :=
          [success "LoginResponse" "Login succeeded", failure 400 "Invalid input",
            failure 401 "Invalid email or password", failure 403 "User account is inactive"] }),
    ("/v1/auth/refresh",
      { method := "post", id := "refresh", tag := "auth", body := some (.named "RefreshRequest")
        replies :=
          [success "RefreshResponse" "Tokens rotated", failure 400 "Invalid input",
            failure 401 "Refresh token is unknown, revoked or expired",
            failure 403 "User account is inactive"] }),
    ("/v1/auth/logout",
      { method := "post", id := "logout", tag := "auth", body := some (.named "LogoutRequest")
        replies :=
          [{ status := 204, description := "Session revoked" }, failure 400 "Invalid input"] }),
    ("/v1/auth/sessions",
      { method := "get", id := "sessions", tag := "auth", needsBearer := true
        parameters :=
          [⟨"deviceId", "query", "Device id of the calling installation; web callers omit it.",
              false⟩]
        replies :=
          [⟨200, "Active sessions, most recently used first",
              some (.list (.named "SessionSummary"))⟩,
            failure 401 "Missing or invalid access token"] }),
    ("/v1/auth/authorize/\x7bmodule\x7d/\x7bpermission\x7d",
      { method := "get", id := "authorize", tag := "authorize", needsBearer := true
        parameters :=
          [⟨"module", "path", "Module name, e.g. Catalog", true⟩,
            ⟨"permission", "path", "Permission type name, e.g. Leer", true⟩]
        replies :=
          [{ status := 204, description := "Allowed" },
            failure 401 "Missing or invalid access token",
            { status := 403, description := "Denied" }, failure 404 "No such policy"] })]

/-- The members of an answer with tokens. -/
def tokenFields : List Field :=
  [⟨"accessToken", .text, true⟩, ⟨"refreshToken", .text, true⟩,
    ⟨"accessTokenExpiry", .instant, true⟩, ⟨"refreshTokenExpiry", .instant, true⟩]

/-- What the list of sessions says of its lines. -/
def summaryDescription : String :=
  "One row of the \"where am I logged in\" list.\n\n" ++
    "`is_current` compares device ids only. Two browsers that share a derived\n" ++
    "fingerprint (same user agent behind the same NAT) are both flagged, so the\n" ++
    "flag is informational and never a security boundary."

/-- The named forms. -/
def forms : List (String × Json) :=
  let texts (names : List String) : List Field := names.map fun name => ⟨name, .text, true⟩
  let hints : List Field :=
    ["deviceId", "deviceName", "platform", "appVersion"].map fun name =>
      ⟨name, .nullableText, false⟩
  [("Health", record (texts ["commit", "name", "version", "database"])),
    ("ErrorBody", record (texts ["code", "message"] ++
      [⟨"errors", .list (.named "FieldError"), false⟩])),
    ("FieldError",
      record (texts ["propertyName", "errorMessage"]) (some "A single failed input rule.")),
    ("LoginRequest", record (texts ["email", "password"] ++ hints)),
    ("LoginResponse", record (tokenFields ++
      [⟨"user", .named "UserSummary", true⟩,
        ⟨"activeSessions", .list (.named "SessionSummary"), true⟩,
        ⟨"sessionType", .named "SessionFlavor", true⟩])),
    ("RefreshRequest", record (texts ["refreshToken"])),
    ("RefreshResponse", record (tokenFields ++ [⟨"sessionType", .named "SessionFlavor", true⟩])),
    ("LogoutRequest", record (texts ["refreshToken"])),
    ("UserSummary", record
      [⟨"id", .identifier, true⟩, ⟨"name", .text, true⟩, ⟨"email", .text, true⟩,
        ⟨"enabled", .truth, true⟩, ⟨"roles", .list .text, true⟩,
        ⟨"permissions", .list .text, true⟩]),
    ("SessionSummary", record
      (texts ["deviceId", "deviceName", "platform"] ++
        [⟨"lastUsed", .instant, true⟩, ⟨"isCurrent", .truth, true⟩]) (some summaryDescription)),
    ("SessionFlavor", .obj [("type", .text "string"),
      ("description", .text "Session policy family, fixed at creation time."),
      ("enum", .texts ["mobile", "web"])])]

/-- What the operations are grouped by. -/
def tags : List (String × String) :=
  [("auth", "Login, refresh, logout and session listing"),
    ("authorize", "Permission policy checks"), ("health", "Service health")]

/-- The licence of the program. -/
def licence : String := "BSD-3-Clause"

/-- Whom to ask. -/
def contact : Json := .obj [("name", .text "Team Umbral"), ("email", .text "team@umbral.dev")]

/-- The document. -/
def document (release : Release) : Json :=
  .obj [("openapi", .text "3.1.0"),
    ("info", .obj [("title", .text release.name), ("description", .text Release.description),
      ("contact", contact),
      ("license", .obj [("name", .text licence), ("identifier", .text licence)]),
      ("version", .text release.version)]),
    ("paths", .obj (paths.map fun (path, o) => (path, .obj [(o.method, o.toJson)]))),
    ("components", .obj [("schemas", .obj forms),
      ("securitySchemes",
        .obj [("bearer", .obj [("type", .text "http"), ("scheme", .text "bearer")])])]),
    ("tags", .array (tags.map fun (name, description) =>
      .obj [("name", .text name), ("description", .text description)]))]

end Gatehouse.Http.Description
