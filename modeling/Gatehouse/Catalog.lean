import Gatehouse.Service.Credentials
import Gatehouse.Store.Memory

/-! # The default catalog

What a new deployment begins with: five permission types, four modules, three roles, and an
administrator who holds the role of administrators, which has full access to every module. -/

namespace Gatehouse.Catalog

/-- The names and descriptions of the permission types. -/
def permissionTypeNames : List (String × String) :=
  [("Crear", "Create new records"), ("Leer", "View records"),
    ("Actualizar", "Modify existing records"), ("Eliminar", "Delete records"),
    ("Administrar", "Full access to the module")]

/-- The names and descriptions of the modules. -/
def moduleNames : List (String × String) :=
  [("Catalog", "Products and categories"), ("Basket", "Shopping baskets"), ("Ordering", "Orders"),
    ("Identity", "Users and permissions")]

/-- The names and descriptions of the roles. -/
def roleNames : List (String × String) :=
  [("Administrador", "Full system access"), ("Usuario", "Basic system access"),
    ("Operador", "Access for specific operations")]

/-- The role of administrators. -/
def adminRole : String := "Administrador"

/-- The permission type that their role has on every module. -/
def adminPermissionType : String := "Administrar"

/-- The name of the first administrator. -/
def adminName : String := "Administrador"

/-- The address of the first administrator. -/
def adminEmail : String := "admin@eshop.com"

/-- The password of the first administrator. -/
def adminPassword : String := "Admin123!"

/-- The number of the first module among the records. -/
def moduleOffset : Nat := permissionTypeNames.length

/-- The number of the first role. -/
def roleOffset : Nat := moduleOffset + moduleNames.length

/-- The number of the administrator, the last of the records. -/
def adminOffset : Nat := roleOffset + roleNames.length

/-- The random values of a catalog. -/
structure Seed where
  /-- The identifier of the record of a number. -/
  id (n : Nat) : Uuid
  /-- The salt of the administrator's password hash. -/
  salt : Bytes

/-- The permission types. -/
def permissionTypes (seed : Seed) : List PermissionType :=
  permissionTypeNames.zipIdx.map fun ((name, description), n) =>
    ⟨seed.id n, name, name.toUpper, description⟩

/-- The modules, all enabled. -/
def modules (seed : Seed) : List Module :=
  moduleNames.zipIdx.map fun ((name, description), n) =>
    ⟨seed.id (moduleOffset + n), name, description, true⟩

/-- The roles, all enabled. -/
def roles (seed : Seed) : List Role :=
  roleNames.zipIdx.map fun ((name, description), n) =>
    ⟨seed.id (roleOffset + n), name, description, true⟩

/-- The first administrator. -/
def admin (hasher : PasswordHasher) (seed : Seed) : Except Cause Identity := do
  let passwordHash ← hasher.hash seed.salt adminPassword
  pure ⟨seed.id adminOffset, adminName, adminEmail, passwordHash, true⟩

/-- Steps on a store in memory that may fail; what the steps before a failure did stays done. -/
abbrev Founding (α : Type) := ExceptT Failure (StateM MemoryStore) α

/-- A step that cannot fail. -/
def put (f : MemoryStore → MemoryStore) : Founding Unit := modifyThe MemoryStore f

/-- A step that may fail, and then changes nothing. -/
def attempt (f : MemoryStore → Except Failure MemoryStore) : Founding Unit := do
  match f (← getThe MemoryStore) with
  | .ok st => set st
  | .error failure => throw failure

/-- The first record of a name. -/
def named {α : Type} (name : String) (what : String) (nameOf : α → String) (records : List α) :
    Founding α :=
  match records.find? (nameOf · = name) with
  | some a => pure a
  | none => throw (.infrastructure (.root ("default " ++ what ++ " lack " ++ name)))

/-- Load the catalog into a store, and hand out the administrator. -/
def load (hasher : PasswordHasher) (seed : Seed) (now : Instant) : Founding Identity := do
  (permissionTypes seed).forM fun p => put (·.insertPermissionType p)
  (modules seed).forM fun m => put (·.insertModule m)
  (roles seed).forM fun r => attempt (·.insertRole r)
  let identity ← match admin hasher seed with
    | .ok identity => pure identity
    | .error cause => throw (Failure.infrastructure cause)
  attempt (·.insertIdentity identity)
  let role ← named adminRole "roles" Role.name (roles seed)
  attempt (·.assignRole identity.id role.id)
  let full ← named adminPermissionType "permission types" PermissionType.name (permissionTypes seed)
  (modules seed).forM fun m => attempt (·.grant ⟨role.id, m.id, full.id, now⟩)
  pure identity

/-- The outcome of loading the catalog, and the store after it. -/
def loadInto (st : MemoryStore) (hasher : PasswordHasher) (seed : Seed) (now : Instant) :
    Except Failure Identity × MemoryStore := (load hasher seed now).run st

end Gatehouse.Catalog
