import RetailApp.Services.Dependencies
import RetailApp.Services.SecurityAdmin

/-! Roles, permissions and who has them: the administration endpoints behind their gates, and
what a request's user is loaded with. -/

namespace RetailApp

open Transaction

/-- What the gates look at of a row of the users table. -/
structure Account where
  isSuperuser : Bool
  isActive : Bool
  isDeleted : Bool
  deriving DecidableEq

structure RoleRow where
  name : Varchar 64
  description : Option String
  deriving DecidableEq

structure PermissionRow where
  code : Varchar 128
  description : Option String
  deriving DecidableEq

structure AccessDb where
  accounts : Table Account
  roles : Table RoleRow
  permissions : Table PermissionRow
  userRoles : Table Mapping
  rolePermissions : Table Mapping
  auditLogs : Table MappingAuditLog
  deriving DecidableEq

abbrev AccessService (α : Type) := Session AccessDb Raised α

structure PermissionCreateRequest where
  code : BoundedText 1 128
  description : Option String

structure RoleCreateRequest where
  name : BoundedText 1 64
  description : Option String

structure PermissionCreatedResponse where
  id : Nat
  code : String
  deriving DecidableEq

structure RoleCreatedResponse where
  id : Nat
  name : String
  deriving DecidableEq

structure RoleAssignmentRequest where
  userId : Int
  roleId : Int

structure PermissionAssignmentRequest where
  roleId : Int
  permissionId : Int

namespace AccessDb

def start (accounts : Table Account) : AccessDb :=
  ⟨accounts, Table.empty, Table.empty, Table.empty, Table.empty, Table.empty⟩

/-- The keys of a table as the path and the body of a request spell them. -/
def ids {ρ : Type} (table : Table ρ) : List Int := table.entries.map (fun entry => (entry.1 : Int))

def mapped (db : AccessDb) : RbacDb where
  userIds := ids db.accounts
  roleIds := ids db.roles
  permissionIds := ids db.permissions
  userRoles := db.userRoles
  rolePermissions := db.rolePermissions
  auditLogs := db.auditLogs

def withMapped (db : AccessDb) (written : RbacDb) : AccessDb :=
  { db with
    userRoles := written.userRoles, rolePermissions := written.rolePermissions,
    auditLogs := written.auditLogs }

/-- The rows that a join of the two tables on the ids of a mapping table finds. -/
def granted {ρ : Type} (mappings : Table Mapping) (ownerId : Nat) (table : Table ρ) :
    List (Nat × ρ) :=
  table.entries.filter (fun entry => decide (⟨ownerId, entry.1⟩ ∈ mappings.rows))

def permissionsOf (db : AccessDb) (roleId : Nat) : List Permission :=
  (granted db.rolePermissions roleId db.permissions).map (fun entry => ⟨entry.2.code.1⟩)

def rolesOf (db : AccessDb) (userId : Nat) : List Role :=
  (granted db.userRoles userId db.roles).map (fun entry => ⟨permissionsOf db entry.1⟩)

end AccessDb

/-- The user behind a valid token, with the roles and permissions that are loaded with it. -/
def loadCurrentUser (db : AccessDb) (userId : Nat) : Except Raised User := do
  let account ← orRaise (db.accounts.get? userId) (.authentication "User account not available")
  raiseIf (account.isActive = false ∨ account.isDeleted = true)
    (.authentication "User account not available")
  return ⟨userId, account.isSuperuser, db.rolesOf userId⟩

/-- Every administration endpoint asks for a superuser first and then for one permission. -/
def adminGate (permissionCode : String) (db : AccessDb) (actorUserId : Nat) :
    Except Raised User := do
  let user ← loadCurrentUser db actorUserId
  let user ← requireSuperuser user
  requirePermission permissionCode user

def onMappings {α : Type} (service : RbacService α) : AccessService α := fun db =>
  match service db.mapped with
  | .ok value written => .ok value (db.withMapped written)
  | .error raised written => .error raised (db.withMapped written)

def insertPermission (row : PermissionRow) : AccessService Nat := do
  let description ← attempt (nullableVarchar "description" 255 row.description)
  let db ← get
  attempt (raiseIf (db.permissions.rows.any (·.code == row.code) = true)
    (.integrityError "permissions_code_key"))
  set { db with permissions := db.permissions.insert { row with description := description } }
  return db.permissions.nextKey

def insertRole (row : RoleRow) : AccessService Nat := do
  let description ← attempt (nullableVarchar "description" 255 row.description)
  let db ← get
  attempt (raiseIf (db.roles.rows.any (·.name == row.name) = true)
    (.integrityError "roles_name_key"))
  set { db with roles := db.roles.insert { row with description := description } }
  return db.roles.nextKey

def conflictOnIntegrity {α : Type} (message : String) (body : AccessService α) :
    AccessService α := fun db =>
  match transactional body db with
  | .error (.integrityError _) written => .error (.conflict message) written
  | outcome => outcome

def createPermissionEndpoint (actorUserId : Nat) (payload : PermissionCreateRequest) :
    AccessService PermissionCreatedResponse := do
  let _ ← attempt (adminGate "auth:permission:assign" (← get) actorUserId)
  let permissionId ← conflictOnIntegrity "Permission code already exists"
    (insertPermission ⟨stripped payload.code, payload.description⟩)
  return ⟨permissionId, (stripped payload.code).1⟩

def createRoleEndpoint (actorUserId : Nat) (payload : RoleCreateRequest) :
    AccessService RoleCreatedResponse := do
  let _ ← attempt (adminGate "auth:role:assign" (← get) actorUserId)
  let roleId ← conflictOnIntegrity "Role name already exists"
    (insertRole ⟨stripped payload.name, payload.description⟩)
  return ⟨roleId, (stripped payload.name).1⟩

def gatedAssignPermissionsToRole (actorUserId : Nat) (roleId : Int)
    (payload : RolePermissionsRequest) : AccessService AssignedResponse := do
  let actor ← attempt (adminGate "auth:permission:assign" (← get) actorUserId)
  onMappings (assignPermissionsToRoleEndpoint actor roleId payload)

def gatedAssignRolesToUser (actorUserId : Nat) (userId : Int) (payload : UserRolesRequest) :
    AccessService AssignedResponse := do
  let actor ← attempt (adminGate "auth:role:assign" (← get) actorUserId)
  onMappings (assignRolesToUserEndpoint actor userId payload)

def assignRoleEndpoint (actorUserId : Nat) (payload : RoleAssignmentRequest) :
    AccessService Unit := do
  let actor ← attempt (adminGate "auth:role:assign" (← get) actorUserId)
  onMappings (assignRole actor payload.userId payload.roleId)

def assignPermissionEndpoint (actorUserId : Nat) (payload : PermissionAssignmentRequest) :
    AccessService Unit := do
  let actor ← attempt (adminGate "auth:permission:assign" (← get) actorUserId)
  onMappings (assignPermission actor payload.roleId payload.permissionId)

end RetailApp
