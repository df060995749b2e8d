import Gatehouse.Calendar.Text
import Gatehouse.Http.Views
import Gatehouse.Json.Lenient

/-! # Records in JSON

How records are shown to an operator and how they are read from a file: every field under its name,
a missing one as null. What a record in a file leaves out is empty, and what can be switched off is
on. -/

namespace Gatehouse

/-- An identifier as JSON. -/
def Uuid.toJson (u : Uuid) : Json := .text u.text

/-- The record of an identity, its password hash left out. -/
def Identity.toRecord (i : Identity) : Json :=
  .obj [("id", i.id.toJson), ("name", .text i.name), ("email", .text i.email),
    ("enabled", .bool i.enabled)]

/-- The record of a role. -/
def Role.toRecord (r : Role) : Json :=
  .obj [("id", r.id.toJson), ("name", .text r.name), ("description", .text r.description),
    ("enabled", .bool r.enabled)]

/-- The role of a record. -/
def Role.ofRecord (j : Json) : Role :=
  ⟨j.uuidAt "id", j.textAt "name", j.textAt "description", j.flagAt "enabled" true⟩

/-- The record of a module. -/
def Module.toRecord (m : Module) : Json :=
  .obj [("id", m.id.toJson), ("name", .text m.name), ("description", .text m.description),
    ("enabled", .bool m.enabled)]

/-- The module of a record. -/
def Module.ofRecord (j : Json) : Module :=
  ⟨j.uuidAt "id", j.textAt "name", j.textAt "description", j.flagAt "enabled" true⟩

/-- The record of a permission type. -/
def PermissionType.toRecord (p : PermissionType) : Json :=
  .obj [("id", p.id.toJson), ("name", .text p.name), ("code", .text p.code),
    ("description", .text p.description)]

/-- The permission type of a record. -/
def PermissionType.ofRecord (j : Json) : PermissionType :=
  ⟨j.uuidAt "id", j.textAt "name", j.textAt "code", j.textAt "description"⟩

/-- The record of declarations. -/
def Declarations.toRecord (d : Declarations) : Json :=
  .obj [("modules", .array (d.modules.map (·.toRecord))),
    ("permission_types", .array (d.permissionTypes.map (·.toRecord)))]

/-- The declarations of a record. -/
def Declarations.ofRecord (j : Json) : Declarations :=
  ⟨(j.itemsAt "modules").map .ofRecord, (j.itemsAt "permission_types").map .ofRecord⟩

/-- The record of a grant, its records by name. -/
def ResolvedGrant.toRecord (g : ResolvedGrant) : Json :=
  .obj [("module", .text g.module.name), ("enabled", .bool g.module.enabled),
    ("type", .text g.permissionType.name)]

/-- The record of a role that is held. -/
def RoleAssignment.toRecord (a : RoleAssignment) : Json :=
  .obj [("role", a.role.toRecord), ("grants", .array (a.grants.map (·.toRecord)))]

/-- The role that a record says is held, its grants in full. -/
def RoleAssignment.ofRecord (j : Json) : RoleAssignment :=
  ⟨.ofRecord (j.memberAt "role"), (j.itemsAt "grants").map fun g =>
    ⟨.ofRecord (g.memberAt "module"), .ofRecord (g.memberAt "permission_type")⟩⟩

/-- The record of a grant by ids. -/
def Grant.toRecord (g : Grant) : Json :=
  .obj [("role", g.roleId.toJson), ("module", g.moduleId.toJson),
    ("type", g.permissionTypeId.toJson), ("assigned_at", g.assignedAt.toJson)]

/-- The members of an access. -/
def Access.members (a : Access) : List (String × Json) :=
  [("roles", .texts a.roles), ("permissions", .texts a.permissions)]

/-- The record of a session. -/
def Session.toRecord (s : Session) : Json :=
  .obj [("id", s.id.toJson), ("user_id", s.userId.toJson),
    ("token_hash", .text (Bytes.toHex s.tokenHash)), ("flavor", .text s.flavor.label),
    ("issued_at", s.issuedAt.toJson), ("expires_at", s.expiresAt.toJson),
    ("last_used", s.lastUsed.toJson), ("revoked", .bool s.revoked),
    ("revoked_reason", .optionalText s.revokedReason),
    ("revoked_at", .optional Instant.toJson s.revokedAt), ("device_id", .text s.deviceId),
    ("device_name", .text s.deviceName), ("platform", .text s.platform),
    ("app_version", .optionalText s.appVersion), ("user_agent", .optionalText s.userAgent),
    ("ip_address", .optionalText s.ipAddress)]

/-- The session of a record. One whose last use is not recorded was last used when it was issued. -/
def Session.ofRecord (j : Json) : Session :=
  { id := j.uuidAt "id", userId := j.uuidAt "user_id"
    tokenHash := (Bytes.ofHex? (j.textAt "token_hash")).getD []
    flavor := (Flavor.ofLabel? (j.textAt "flavor")).getD .web
    issuedAt := j.instantAt "issued_at", expiresAt := j.instantAt "expires_at"
    lastUsed := (j.instantAt? "last_used").getD (j.instantAt "issued_at")
    revoked := j.flagAt "revoked" false, revokedReason := j.textAt? "revoked_reason"
    revokedAt := j.instantAt? "revoked_at", deviceId := j.textAt "device_id"
    deviceName := j.textAt "device_name", platform := j.textAt "platform"
    appVersion := j.textAt? "app_version", userAgent := j.textAt? "user_agent"
    ipAddress := j.textAt? "ip_address" }

/-- The members of a classified caller. -/
def ClientInfo.members (c : ClientInfo) : List (String × Json) :=
  [("flavor", .text c.flavor.label), ("is_mobile", .bool (c.flavor == .mobile)),
    ("device_id", .text c.deviceId), ("device_name", .text c.deviceName),
    ("platform", .text c.platform), ("app_version", .optionalText c.appVersion),
    ("user_agent", .optionalText c.userAgent), ("ip_address", .optionalText c.ipAddress)]

/-- The members of hints. -/
def ClientHints.members (h : ClientHints) : List (String × Json) :=
  [("device_id", .optionalText h.deviceId), ("device_name", .optionalText h.deviceName),
    ("platform", .optionalText h.platform), ("app_version", .optionalText h.appVersion)]

/-- The hints of a record. -/
def ClientHints.ofRecord (j : Json) : ClientHints :=
  ⟨j.textAt? "device_id", j.textAt? "device_name", j.textAt? "platform", j.textAt? "app_version"⟩

/-- The record of a verified caller. -/
def Principal.toRecord (p : Principal) : Json :=
  .obj [("subject", .text p.subject), ("user_id", .optional Uuid.toJson p.userId),
    ("name", .text p.name), ("email", .text p.email), ("jti", .text p.tokenId),
    ("roles", .texts p.roles), ("permissions", .texts p.permissions),
    ("expires_at", p.expiresAt.toJson)]

/-- The record of what a token says of itself. -/
def TokenView.toRecord (v : TokenView) : Json :=
  .obj [("jti", .optionalText v.tokenId), ("user_id", .optional Uuid.toJson v.userId),
    ("user_name", .optionalText v.userName), ("issued_at", .optional Instant.toJson v.issuedAt),
    ("expires_at", .optional Instant.toJson v.expiresAt), ("is_expired", .bool v.isExpired)]

/-- The members of token settings, the key left out. -/
def TokenSettings.members (s : TokenSettings) : List (String × Json) :=
  [("issuer", .text s.issuer), ("audience", .text s.audience),
    ("expiry_hours", .natural s.expiryHours), ("refresh_days", .natural s.refreshDays),
    ("blacklist", .bool s.blacklist)]

/-- The members of a failure, with what only the log may show. -/
def Failure.members (f : Failure) : List (String × Json) :=
  [("error", .text f.code), ("message", .text f.message), ("public", .text f.publicMessage),
    ("infrastructure", .bool f.isInfrastructure)] ++
  match f with
  | .validation errors => [("fields", .array (errors.map (·.toJson)))]
  | _ => []

end Gatehouse
