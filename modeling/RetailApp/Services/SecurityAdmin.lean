import RetailApp.Session

/-! `assign_role` and `assign_permission`, and the two administration endpoints that call them once
for each id of a request. -/

namespace RetailApp

open Transaction

/-- A row of one of the two mapping tables: (user_id, role_id) or (role_id, permission_id). -/
structure Mapping where
  ownerId : Int
  grantedId : Int
  deriving DecidableEq

structure MappingAuditLog where
  actorUserId : Option Nat
  action : String
  entityType : String
  entityId : String
  deriving DecidableEq

structure RbacDb where
  userIds : List Int
  roleIds : List Int
  permissionIds : List Int
  userRoles : Table Mapping
  rolePermissions : Table Mapping
  auditLogs : Table MappingAuditLog
  deriving DecidableEq

abbrev RbacService (α : Type) := Session RbacDb Raised α

inductive MappingTable where
  | userRole
  | rolePermission

namespace MappingTable

def ownerIds (db : RbacDb) : MappingTable → List Int
  | .userRole => db.userIds
  | .rolePermission => db.roleIds

def grantedIds (db : RbacDb) : MappingTable → List Int
  | .userRole => db.roleIds
  | .rolePermission => db.permissionIds

def ownerMissing : MappingTable → String
  | .userRole => "User not found"
  | .rolePermission => "Role not found"

def grantedMissing : MappingTable → String
  | .userRole => "Role not found"
  | .rolePermission => "Permission not found"

def constraint : MappingTable → String
  | .userRole => "uq_user_roles_user_id_role_id"
  | .rolePermission => "uq_role_permissions_role_id_permission_id"

def action : MappingTable → String
  | .userRole => "auth.role.assign"
  | .rolePermission => "auth.permission.assign"

def entityType : MappingTable → String
  | .userRole => "user_role"
  | .rolePermission => "role_permission"

def assignedMessage : MappingTable → String
  | .userRole => "Roles assigned to user"
  | .rolePermission => "Permissions assigned to role"

def mappings (db : RbacDb) : MappingTable → Table Mapping
  | .userRole => db.userRoles
  | .rolePermission => db.rolePermissions

def insert (db : RbacDb) (row : Mapping) : MappingTable → RbacDb
  | .userRole => { db with userRoles := db.userRoles.insert row }
  | .rolePermission => { db with rolePermissions := db.rolePermissions.insert row }

end MappingTable

def insertMapping (table : MappingTable) (row : Mapping) : RbacService Unit := do
  let db ← get
  attempt (raiseIf (row ∈ (table.mappings db).rows) (.integrityError table.constraint))
  set (table.insert db row)

def mappingEntityId (row : Mapping) : String :=
  toString row.ownerId ++ ":" ++ toString row.grantedId

def assign (table : MappingTable) (actor : User) (row : Mapping) : RbacService Unit := do
  let db ← get
  attempt (raiseIf (row.ownerId ∉ table.ownerIds db) (.notFound table.ownerMissing))
  attempt (raiseIf (row.grantedId ∉ table.grantedIds db) (.notFound table.grantedMissing))
  if row ∈ (table.mappings db).rows then
    return ()
  else
    transactional do
      insertMapping table row
      modify fun db =>
        { db with
          auditLogs := db.auditLogs.insert
            ⟨some actor.id, table.action, table.entityType, mappingEntityId row⟩ }

def assignRole (actor : User) (userId roleId : Int) : RbacService Unit :=
  assign .userRole actor ⟨userId, roleId⟩

def assignPermission (actor : User) (roleId permissionId : Int) : RbacService Unit :=
  assign .rolePermission actor ⟨roleId, permissionId⟩

structure RolePermissionsRequest where
  permissionIds : List Int
  notEmpty : 1 ≤ permissionIds.length

structure UserRolesRequest where
  roleIds : List Int
  notEmpty : 1 ≤ roleIds.length

structure AssignedResponse where
  message : String
  assigned : Nat
  deriving DecidableEq

/-- The owner is looked up once more for every id. -/
def assignEach (table : MappingTable) (actor : User) (ownerId : Int) (grantedIds : List Int) :
    RbacService AssignedResponse := do
  let db ← get
  attempt (raiseIf (ownerId ∉ table.ownerIds db) (.notFound table.ownerMissing))
  let assigned ← grantedIds.foldlM (fun assigned grantedId => do
    assign table actor ⟨ownerId, grantedId⟩
    return assigned + 1) 0
  return { message := table.assignedMessage, assigned := assigned }

def assignPermissionsToRoleEndpoint (actor : User) (roleId : Int)
    (payload : RolePermissionsRequest) : RbacService AssignedResponse :=
  assignEach .rolePermission actor roleId payload.permissionIds

def assignRolesToUserEndpoint (actor : User) (userId : Int) (payload : UserRolesRequest) :
    RbacService AssignedResponse :=
  assignEach .userRole actor userId payload.roleIds

end RetailApp
