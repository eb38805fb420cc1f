import RetailApp.Services.Dependencies
import RetailApp.Services.ProjectService

/-! The endpoints of projects, for the user a token belongs to: a gate that looks at permissions
alone, and behind it the service, which looks at the project. -/

namespace RetailApp

open Transaction

def gated {α : Type} (gate : User → Except Raised User) (user : User)
    (handler : User → ProjectService α) : ProjectService α := do
  let user ← attempt (gate user)
  handler user

def createProjectEndpoint (env : ProjectEnv) (payload : ProjectCreateRequest) (user : User) :
    ProjectService ProjectResponse :=
  gated (requirePermission "project:own") user (fun user => createProject env user payload)

def editProjectEndpoint (env : ProjectEnv) (projectId : Nat) (payload : ProjectEditRequest)
    (user : User) : ProjectService ProjectResponse :=
  gated (requirePermission "project:own") user
    (fun user => editProject env user projectId payload)

def submitProjectEndpoint (env : ProjectEnv) (projectId : Nat) (payload : ProjectSubmitRequest)
    (user : User) : ProjectService ProjectResponse :=
  gated (requirePermission "project:own") user
    (fun user => submitProjectForReview env user projectId payload)

def rejectProjectEndpoint (env : ProjectEnv) (projectId : Nat) (payload : ProjectRejectRequest)
    (user : User) : ProjectService ProjectResponse :=
  gated (requireAnyPermission ["project:review", "project:manage"]) user
    (fun user => rejectProject env user projectId payload)

def resubmitProjectEndpoint (env : ProjectEnv) (projectId : Nat)
    (payload : ProjectResubmitRequest) (user : User) : ProjectService ProjectResponse :=
  gated (requirePermission "project:own") user
    (fun user => resubmitProject env user projectId payload)

def deactivateProjectEndpoint (env : ProjectEnv) (projectId : Nat)
    (payload : ProjectDeactivateRequest) (user : User) : ProjectService ProjectResponse :=
  gated (requireAnyPermission ["project:deactivate", "project:manage"]) user
    (fun user => deactivateProject env user projectId payload)

def readingPermissions : List String :=
  ["project:read", "project:manage", "project:review", "project:own"]

def getProjectEndpoint (projectId : Nat) (user : User) : ProjectService ProjectResponse :=
  gated (requireAnyPermission readingPermissions) user (fun user => getProject user projectId)

def listProjectVersionsEndpoint (projectId : Nat) (user : User) :
    ProjectService (List ProjectVersionResponse) :=
  gated (requireAnyPermission readingPermissions) user
    (fun user => listProjectVersions user projectId)

end RetailApp
