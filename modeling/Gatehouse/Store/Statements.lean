import Gatehouse.Database.Basic
import Gatehouse.Identity
import Gatehouse.Session.Basic

/-! # The statements of the relational store

The tables, and one function for each statement that is sent: its text and the values bound to its
parameters. The columns of a session are listed once, for the statements that read them; the
statement that writes a session binds its values in the same order. -/

namespace Gatehouse.Statements

open Database

/-- The tables and indexes. -/
def schema : Statement := { sql := "-- Identity, permission graph and refresh sessions.

CREATE TABLE IF NOT EXISTS users (
    id            UUID PRIMARY KEY,
    name          TEXT NOT NULL,
    email         TEXT NOT NULL,
    password_hash TEXT NOT NULL,
    enabled       BOOLEAN NOT NULL DEFAULT TRUE,
    created_at    TIMESTAMPTZ NOT NULL DEFAULT NOW()
);

-- Emails are stored lower-cased; the index enforces case-insensitive uniqueness.
CREATE UNIQUE INDEX IF NOT EXISTS users_email_key ON users (LOWER(email));

CREATE TABLE IF NOT EXISTS roles (
    id          UUID PRIMARY KEY,
    name        TEXT NOT NULL UNIQUE,
    description TEXT NOT NULL DEFAULT '',
    enabled     BOOLEAN NOT NULL DEFAULT TRUE
);

CREATE TABLE IF NOT EXISTS user_roles (
    user_id UUID NOT NULL REFERENCES users (id) ON DELETE CASCADE,
    role_id UUID NOT NULL REFERENCES roles (id) ON DELETE CASCADE,
    PRIMARY KEY (user_id, role_id)
);

CREATE TABLE IF NOT EXISTS modules (
    id          UUID PRIMARY KEY,
    name        TEXT NOT NULL UNIQUE,
    description TEXT NOT NULL DEFAULT '',
    enabled     BOOLEAN NOT NULL DEFAULT TRUE
);

CREATE TABLE IF NOT EXISTS permission_types (
    id          UUID PRIMARY KEY,
    name        TEXT NOT NULL UNIQUE,
    code        TEXT NOT NULL UNIQUE,
    description TEXT NOT NULL DEFAULT ''
);

CREATE TABLE IF NOT EXISTS permissions (
    id                 UUID PRIMARY KEY,
    role_id            UUID NOT NULL REFERENCES roles (id) ON DELETE CASCADE,
    module_id          UUID NOT NULL REFERENCES modules (id) ON DELETE CASCADE,
    permission_type_id UUID NOT NULL REFERENCES permission_types (id) ON DELETE CASCADE,
    assigned_at        TIMESTAMPTZ NOT NULL DEFAULT NOW(),
    UNIQUE (role_id, module_id, permission_type_id)
);

CREATE TABLE IF NOT EXISTS refresh_tokens (
    id             UUID PRIMARY KEY,
    user_id        UUID NOT NULL REFERENCES users (id) ON DELETE CASCADE,
    token_hash     BYTEA NOT NULL UNIQUE,
    session_type   TEXT NOT NULL CHECK (session_type IN ('mobile', 'web')),
    issued_at      TIMESTAMPTZ NOT NULL,
    expires_at     TIMESTAMPTZ NOT NULL,
    last_used      TIMESTAMPTZ NOT NULL,
    is_revoked     BOOLEAN NOT NULL DEFAULT FALSE,
    revoked_reason TEXT,
    revoked_at     TIMESTAMPTZ,
    device_id      TEXT NOT NULL,
    device_name    TEXT NOT NULL,
    platform       TEXT NOT NULL,
    app_version    TEXT,
    user_agent     TEXT,
    ip_address     TEXT
);

-- At most one non-revoked session per (user, device).
CREATE UNIQUE INDEX IF NOT EXISTS refresh_tokens_active_device_key
    ON refresh_tokens (user_id, device_id)
    WHERE NOT is_revoked;

CREATE INDEX IF NOT EXISTS refresh_tokens_user_last_used_idx
    ON refresh_tokens (user_id, last_used DESC)
    WHERE NOT is_revoked;
" }

/-! ## Sessions -/

/-- The columns of a session. -/
def sessionColumns : List String :=
  ["id", "user_id", "token_hash", "session_type", "issued_at", "expires_at", "last_used", "is_revoked",
    "revoked_reason", "revoked_at", "device_id", "device_name", "platform", "app_version", "user_agent",
    "ip_address"]

/-- The columns as a statement lists them. -/
def sessionColumnText : String := ", ".intercalate sessionColumns

/-- The values of a session in the order of its columns. -/
def sessionValues (s : Session) : List Value :=
  [.uuid s.id, .uuid s.userId, .bytes s.tokenHash, .text s.flavor.label, .instant s.issuedAt,
    .instant s.expiresAt, .instant s.lastUsed, .bool s.revoked, .ofOption .text s.revokedReason,
    .ofOption .instant s.revokedAt, .text s.deviceId, .text s.deviceName, .text s.platform,
    .ofOption .text s.appVersion, .ofOption .text s.userAgent, .ofOption .text s.ipAddress]

/-- Lock the session that a rotation replaces, if it is still active. -/
def lockActive (id : Uuid) (now : Instant) : Statement :=
  ⟨"SELECT id FROM refresh_tokens WHERE id = $1 AND NOT is_revoked AND expires_at >= $2 FOR UPDATE",
    [.uuid id, .instant now]⟩

/-- Revoke what a rotation supersedes. -/
def revokeScope (r : Rotation) : Statement :=
  ⟨"UPDATE refresh_tokens SET is_revoked = TRUE, revoked_reason = $3, revoked_at = $4 " ++
    "WHERE user_id = $1 AND NOT is_revoked AND (device_id = $2 OR id = $5) RETURNING id",
    [.uuid r.session.userId, .text r.scope.deviceId, .text r.reason, .instant r.now,
      .ofOption .uuid r.replaces]⟩

/-- Store a session. -/
def insertSession (s : Session) : Statement :=
  ⟨"INSERT INTO refresh_tokens ( " ++ sessionColumnText ++ " ) " ++
    "VALUES ($1, $2, $3, $4, $5, $6, $7, $8, $9, $10, $11, $12, $13, $14, $15, $16)", sessionValues s⟩

/-- The session of a token digest. -/
def sessionByHash (hash : Bytes) : Statement :=
  ⟨"SELECT " ++ sessionColumnText ++ " FROM refresh_tokens WHERE token_hash = $1", [.bytes hash]⟩

/-- The session of an id. -/
def sessionById (id : Uuid) : Statement :=
  ⟨"SELECT " ++ sessionColumnText ++ " FROM refresh_tokens WHERE id = $1", [.uuid id]⟩

/-- Revoke a session, and count whether it was there and whether it changed. -/
def revoke (id : Uuid) (reason : String) (now : Instant) : Statement :=
  ⟨"WITH target AS ( SELECT id, is_revoked FROM refresh_tokens WHERE id = $1 FOR UPDATE ), " ++
    "updated AS ( UPDATE refresh_tokens SET is_revoked = TRUE, revoked_reason = $2, revoked_at = $3 " ++
    "WHERE id = $1 AND NOT is_revoked RETURNING id ) " ++
    "SELECT (SELECT COUNT(*) FROM target) AS found, (SELECT COUNT(*) FROM updated) AS changed",
    [.uuid id, .text reason, .instant now]⟩

/-- Revoke every session of an identity. -/
def revokeAll (userId : Uuid) (reason : String) (now : Instant) : Statement :=
  ⟨"UPDATE refresh_tokens SET is_revoked = TRUE, revoked_reason = $2, revoked_at = $3 " ++
    "WHERE user_id = $1 AND NOT is_revoked", [.uuid userId, .text reason, .instant now]⟩

/-- The active sessions of an identity, the last used first. -/
def activeSessions (userId : Uuid) (now : Instant) : Statement :=
  ⟨"SELECT " ++ sessionColumnText ++ " FROM refresh_tokens " ++
    "WHERE user_id = $1 AND NOT is_revoked AND expires_at >= $2 ORDER BY last_used DESC",
    [.uuid userId, .instant now]⟩

/-- Note the use of a session. -/
def touch (id : Uuid) (now : Instant) : Statement :=
  ⟨"UPDATE refresh_tokens SET last_used = $2 WHERE id = $1", [.uuid id, .instant now]⟩

/-! ## Identities and grants -/

/-- The identity of an address. -/
def identityByEmail (email : String) : Statement :=
  ⟨"SELECT id, name, email, password_hash, enabled FROM users WHERE LOWER(email) = LOWER($1) LIMIT 1",
    [.text email]⟩

/-- The identity of an id. -/
def identityById (id : Uuid) : Statement :=
  ⟨"SELECT id, name, email, password_hash, enabled FROM users WHERE id = $1", [.uuid id]⟩

/-- The roles of an identity, a row for each grant, and a row for each role without grants. -/
def roleAssignments (userId : Uuid) : Statement :=
  ⟨"SELECT r.id, r.name, r.description, r.enabled, m.id AS module_id, m.name AS module_name, " ++
    "m.description AS module_description, m.enabled AS module_enabled, pt.id AS permission_type_id, " ++
    "pt.name AS permission_type_name, pt.code AS permission_type_code, " ++
    "pt.description AS permission_type_description FROM user_roles ur " ++
    "JOIN roles r ON r.id = ur.role_id LEFT JOIN permissions p ON p.role_id = r.id " ++
    "LEFT JOIN modules m ON m.id = p.module_id " ++
    "LEFT JOIN permission_types pt ON pt.id = p.permission_type_id " ++
    "WHERE ur.user_id = $1 ORDER BY r.name, m.name, pt.name", [.uuid userId]⟩

/-- All modules. -/
def modules : Statement := { sql := "SELECT id, name, description, enabled FROM modules ORDER BY name" }

/-- All permission types. -/
def permissionTypes : Statement :=
  { sql := "SELECT id, name, code, description FROM permission_types ORDER BY name" }

/-! ## The first records -/

/-- Whether there is any identity. -/
def anyIdentity : Statement := { sql := "SELECT EXISTS (SELECT 1 FROM users)" }

/-- Add a permission type, unless its name is taken. -/
def addPermissionType (p : PermissionType) : Statement :=
  ⟨"INSERT INTO permission_types (id, name, code, description) VALUES ($1, $2, $3, $4) " ++
    "ON CONFLICT (name) DO NOTHING", [.uuid p.id, .text p.name, .text p.code, .text p.description]⟩

/-- Add a module, unless its name is taken. -/
def addModule (m : Module) : Statement :=
  ⟨"INSERT INTO modules (id, name, description, enabled) VALUES ($1, $2, $3, $4) " ++
    "ON CONFLICT (name) DO NOTHING", [.uuid m.id, .text m.name, .text m.description, .bool m.enabled]⟩

/-- Add a role, unless its name is taken. -/
def addRole (r : Role) : Statement :=
  ⟨"INSERT INTO roles (id, name, description, enabled) VALUES ($1, $2, $3, $4) " ++
    "ON CONFLICT (name) DO NOTHING", [.uuid r.id, .text r.name, .text r.description, .bool r.enabled]⟩

/-- Add an identity. -/
def addIdentity (i : Identity) : Statement :=
  ⟨"INSERT INTO users (id, name, email, password_hash, enabled) VALUES ($1, $2, $3, $4, $5)",
    [.uuid i.id, .text i.name, .text i.email, .text i.passwordHash, .bool i.enabled]⟩

/-- Assign the role of a name to an identity. -/
def assignRole (userId : Uuid) (role : String) : Statement :=
  ⟨"INSERT INTO user_roles (user_id, role_id) SELECT $1, id FROM roles WHERE name = $2 " ++
    "ON CONFLICT DO NOTHING", [.uuid userId, .text role]⟩

/-- Grant a role one permission type on every module. -/
def grantEverywhere (role permissionType : String) : Statement :=
  ⟨"INSERT INTO permissions (id, role_id, module_id, permission_type_id) " ++
    "SELECT gen_random_uuid(), r.id, m.id, pt.id " ++
    "FROM roles r CROSS JOIN modules m CROSS JOIN permission_types pt " ++
    "WHERE r.name = $1 AND pt.name = $2 " ++
    "ON CONFLICT (role_id, module_id, permission_type_id) DO NOTHING",
    [.text role, .text permissionType]⟩

end Gatehouse.Statements
