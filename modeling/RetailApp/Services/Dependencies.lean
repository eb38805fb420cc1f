import RetailApp.Models

/-! The dependencies an endpoint puts in front of its handler. -/

namespace RetailApp

def hasPermission (permissionCode : String) (user : User) : Bool :=
  user.roles.any (fun role => role.permissions.any (·.code == permissionCode))

def requirePermission (permissionCode : String) (user : User) : Except Raised User :=
  if user.isSuperuser then .ok user
  else if hasPermission permissionCode user = false then
    .error (.authorization "Permission denied")
  else .ok user

def requireAnyPermission (permissionCodes : List String) (user : User) : Except Raised User :=
  if user.isSuperuser then .ok user
  else if permissionCodes.any (fun code => hasPermission code user) = false then
    .error (.authorization "Permission denied")
  else .ok user

def requireSuperuser (user : User) : Except Raised User :=
  if user.isSuperuser = false then .error (.authorization "Admin permission required")
  else .ok user

theorem requirePermission_ok (permissionCode : String) (user passed : User) :
    requirePermission permissionCode user = .ok passed ↔
      (user.isSuperuser = true ∨ hasPermission permissionCode user = true) ∧ user = passed := by
  unfold requirePermission
  cases user.isSuperuser <;> cases hasPermission permissionCode user <;> simp

theorem requireSuperuser_ok (user passed : User) :
    requireSuperuser user = .ok passed ↔ user.isSuperuser = true ∧ user = passed := by
  unfold requireSuperuser
  cases user.isSuperuser <;> simp

end RetailApp
