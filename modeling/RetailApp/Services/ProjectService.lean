import RetailApp.Schemas
import RetailApp.Session

namespace RetailApp

open Transaction

/-- The tables of the project subsystem, with the ids of the users they refer to. -/
structure ProjectDb where
  userIds : List Nat
  projects : Table Project
  projectVersions : Table ProjectVersion
  auditLogs : Table ImmutableAuditLog
  deriving DecidableEq

def ProjectDb.start (userIds : List Nat) : ProjectDb :=
  ⟨userIds, Table.empty, Table.empty, Table.empty⟩

/-- What one call takes from outside the tables: the clock, and Fernet as it encrypts during
this call; two calls may encrypt one text differently. -/
structure ProjectEnv where
  now : Time
  encrypt : String → String

abbrev ProjectService (α : Type) := Session ProjectDb Raised α

structure ProjectScopeContext where
  actorUserId : Nat
  actorIsSuperuser : Bool
  actorPermissions : List String

def permissionCodes (user : User) : List String :=
  user.roles.flatMap (fun role => role.permissions.map (·.code))

def scopeContext (user : User) : ProjectScopeContext where
  actorUserId := user.id
  actorIsSuperuser := user.isSuperuser
  actorPermissions := permissionCodes user

def canManageOwnProject (context : ProjectScopeContext) (applicantUserId : Nat) : Bool :=
  if context.actorIsSuperuser then true else context.actorUserId == applicantUserId

def canReviewProject (context : ProjectScopeContext) (applicantUserId : Nat)
    (assignedReviewerUserId : Option Nat) : Bool :=
  if context.actorIsSuperuser then true
  else if context.actorPermissions.contains "project:manage" then true
  else if context.actorPermissions.contains "project:review" = false then false
  else if context.actorUserId = applicantUserId then false
  else match assignedReviewerUserId with
    | none => true
    | some reviewer => context.actorUserId == reviewer

def projectToResponse (entity : Nat × Project) : ProjectResponse where
  id := entity.1
  applicantUserId := entity.2.applicantUserId
  assignedReviewerUserId := entity.2.assignedReviewerUserId
  name := entity.2.name.1
  category := entity.2.category.1
  description := entity.2.description
  status := entity.2.status
  currentVersion := entity.2.currentVersion
  rejectionReason := entity.2.rejectionReason.map (·.1)
  reviewedByUserId := entity.2.reviewedByUserId
  reviewedAt := entity.2.reviewedAt
  createdAt := entity.2.createdAt
  updatedAt := entity.2.updatedAt

def versionToResponse (entity : Nat × ProjectVersion) : ProjectVersionResponse where
  id := entity.1
  projectId := entity.2.projectId
  versionNo := entity.2.versionNo
  snapshotJson := entity.2.snapshotJson
  diffSummary := entity.2.diffSummary
  submittedByUserId := entity.2.submittedByUserId
  createdAt := entity.2.createdAt

def loadProject (projectId : Nat) (db : ProjectDb) : Except Raised Project :=
  orRaise (db.projects.get? projectId) (.notFound "Project not found")

def assertApplicantScope (user : User) (project : Project) : Except Raised Unit :=
  if (permissionCodes user).contains "project:manage" then .ok ()
  else raiseIf (canManageOwnProject (scopeContext user) project.applicantUserId = false)
    (.authorization "Project access denied")

def assertReviewScope (user : User) (project : Project) : Except Raised Unit :=
  raiseIf (canReviewProject (scopeContext user) project.applicantUserId
      project.assignedReviewerUserId = false)
    (.authorization "Reviewer access denied for this project")

def snapshotPayload (project : Project) : Snapshot where
  name := project.name.1
  category := project.category.1
  description := project.description
  contactPhoneEncrypted := project.contactPhoneEncrypted
  status := project.status

/-- The keys of a snapshot, in the order in which `_build_diff_summary` compares them. -/
inductive SnapshotKey where
  | name
  | category
  | description
  | contactPhoneEncrypted
  | status
  deriving DecidableEq

def SnapshotKey.value : SnapshotKey → String
  | .name => "name"
  | .category => "category"
  | .description => "description"
  | .contactPhoneEncrypted => "contact_phone_encrypted"
  | .status => "status"

def comparedKeys : List SnapshotKey :=
  [.name, .category, .description, .contactPhoneEncrypted, .status]

def Snapshot.get (snapshot : Snapshot) : SnapshotKey → Option String
  | .name => some snapshot.name
  | .category => some snapshot.category
  | .description => some snapshot.description
  | .contactPhoneEncrypted => snapshot.contactPhoneEncrypted
  | .status => some snapshot.status.value

/-- An f-string shows `None` for a missing value. -/
def shown (value : Option String) : String := value.getD "None"

def changeEntry (key : SnapshotKey) (before after : Option String) : String :=
  if key = .contactPhoneEncrypted then "contact_phone: updated"
  else key.value ++ ": '" ++ shown before ++ "' -> '" ++ shown after ++ "'"

def changeEntries (keys : List SnapshotKey) (previous current : Snapshot) : List String :=
  (keys.filter (fun key => previous.get key != current.get key)).map
    (fun key => changeEntry key (previous.get key) (current.get key))

def summarize (changes : List String) : String :=
  if changes.isEmpty then "No field changes since previous version"
  else "; ".intercalate changes

def buildDiffSummary (previous : Option Snapshot) (current : Snapshot) : String :=
  match previous with
  | none => "Initial submission"
  | some previous => summarize (changeEntries comparedKeys previous current)

/-- The row that `ORDER BY version_no DESC` puts first. -/
def latestVersion (db : ProjectDb) (projectId : Nat) : Option ProjectVersion :=
  (db.projectVersions.rows.filter (fun row => row.projectId == projectId)).argmax
    (fun row => row.versionNo)

/-- The UPDATE of a project row: only the columns whose value the session changed, and with
any of them the time. -/
def Project.flush (now : Time) (loaded assigned current : Project) : Project where
  applicantUserId :=
    changed loaded.applicantUserId assigned.applicantUserId current.applicantUserId
  assignedReviewerUserId := changed loaded.assignedReviewerUserId
    assigned.assignedReviewerUserId current.assignedReviewerUserId
  name := changed loaded.name assigned.name current.name
  category := changed loaded.category assigned.category current.category
  description := changed loaded.description assigned.description current.description
  contactPhoneEncrypted := changed loaded.contactPhoneEncrypted assigned.contactPhoneEncrypted
    current.contactPhoneEncrypted
  status := changed loaded.status assigned.status current.status
  currentVersion := changed loaded.currentVersion assigned.currentVersion current.currentVersion
  rejectionReason :=
    changed loaded.rejectionReason assigned.rejectionReason current.rejectionReason
  reviewedByUserId :=
    changed loaded.reviewedByUserId assigned.reviewedByUserId current.reviewedByUserId
  reviewedAt := changed loaded.reviewedAt assigned.reviewedAt current.reviewedAt
  isActive := changed loaded.isActive assigned.isActive current.isActive
  createdAt := changed loaded.createdAt assigned.createdAt current.createdAt
  updatedAt := if assigned = loaded then current.updatedAt else now

/-- NULL refers to nobody; any other reviewer must be a user. -/
def unknownReviewer (db : ProjectDb) (assignedReviewerUserId : Option Nat) : Bool :=
  assignedReviewerUserId.any (fun userId => !db.userIds.contains userId)

def insertProject (row : Project) : ProjectService Nat := do
  let db ← get
  attempt (raiseIf (unknownReviewer db row.assignedReviewerUserId = true)
    (.integrityError "projects_assigned_reviewer_user_id_fkey"))
  set { db with projects := db.projects.insert row }
  return db.projects.nextKey

def versionTaken (db : ProjectDb) (projectId versionNo : Nat) : Bool :=
  db.projectVersions.rows.any (fun row => row.projectId == projectId && row.versionNo == versionNo)

def insertProjectVersion (row : ProjectVersion) : ProjectService Nat := do
  let db ← get
  attempt (raiseIf (versionTaken db row.projectId row.versionNo = true)
    (.integrityError "uq_project_versions_project_version"))
  set { db with projectVersions := db.projectVersions.insert row }
  return db.projectVersions.nextKey

def updateProject (now : Time) (projectId : Nat) (loaded assigned : Project) :
    ProjectService Unit :=
  modify fun db =>
    { db with projects := db.projects.modify projectId (Project.flush now loaded assigned) }

def writeProjectAudit (actor : User) (action : String) (projectId : Nat)
    (details : AuditDetails) : ProjectService Unit :=
  modify fun db =>
    { db with
      auditLogs := db.auditLogs.insert ⟨some actor.id, action, "project", projectId, details⟩ }

/-- The attributes of a committed row are read back before the response is built. -/
def refreshProject (projectId : Nat) : ProjectService ProjectResponse := do
  let db ← get
  let row ← attempt (orRaise (db.projects.get? projectId) .objectDeletedError)
  return projectToResponse (projectId, row)

def newProject (env : ProjectEnv) (actor : User) (payload : ProjectCreateRequest) : Project where
  applicantUserId := actor.id
  assignedReviewerUserId := payload.assignedReviewerUserId
  name := stripped payload.name
  category := stripped payload.category
  description := strip payload.description.1
  contactPhoneEncrypted := payload.contactPhone.map env.encrypt
  status := .draft
  currentVersion := 0
  rejectionReason := none
  reviewedByUserId := none
  reviewedAt := none
  isActive := true
  createdAt := env.now
  updatedAt := env.now

def createProject (env : ProjectEnv) (actor : User) (payload : ProjectCreateRequest) :
    ProjectService ProjectResponse := do
  let projectId ← transactional do
    let projectId ← insertProject (newProject env actor payload)
    writeProjectAudit actor "project.create" projectId (.projectCreate .draft)
    return projectId
  refreshProject projectId

def editChecks (actor : User) (projectId : Nat) (db : ProjectDb) : Except Raised Project := do
  let project ← loadProject projectId db
  assertApplicantScope actor project
  raiseIf (project.status ≠ .draft ∧ project.status ≠ .rejected)
    (.validation "Only draft/rejected projects can be edited")
  return project

def editedProject (env : ProjectEnv) (payload : ProjectEditRequest) (project : Project) : Project :=
  { project with
    name := payload.name.elim project.name stripped
    category := payload.category.elim project.category stripped
    description := payload.description.elim project.description (fun text => strip text.1)
    contactPhoneEncrypted :=
      payload.contactPhone.elim project.contactPhoneEncrypted (fun phone => some (env.encrypt phone)) }

def editCommit (env : ProjectEnv) (actor : User) (projectId : Nat) (payload : ProjectEditRequest)
    (project : Project) : ProjectService ProjectResponse := do
  transactional do
    updateProject env.now projectId project (editedProject env payload project)
    writeProjectAudit actor "project.edit" projectId (.projectEdit project.status)
  refreshProject projectId

def editProject (env : ProjectEnv) (actor : User) (projectId : Nat)
    (payload : ProjectEditRequest) : ProjectService ProjectResponse := do
  let db ← get
  let project ← attempt (editChecks actor projectId db)
  editCommit env actor projectId payload project

def newVersion (env : ProjectEnv) (actorUserId projectId : Nat) (project : Project)
    (previous : Option ProjectVersion) : ProjectVersion where
  projectId := projectId
  versionNo := project.currentVersion + 1
  snapshotJson := snapshotPayload project
  diffSummary := buildDiffSummary (previous.map (·.snapshotJson)) (snapshotPayload project)
  submittedByUserId := actorUserId
  createdAt := env.now

def createProjectVersion (env : ProjectEnv) (actorUserId projectId : Nat) (project : Project) :
    ProjectService ProjectVersion := do
  let db ← get
  let version := newVersion env actorUserId projectId project (latestVersion db projectId)
  let _ ← insertProjectVersion version
  return version

def submittedProject (project : Project) (versionNo : Nat) : Project :=
  { project with
    currentVersion := versionNo
    status := .submitted
    rejectionReason := none
    reviewedByUserId := none
    reviewedAt := none }

def submissionCommit (env : ProjectEnv) (actor : User) (projectId : Nat) (action : String)
    (submissionNote : Option (BoundedText 0 255)) (project : Project) :
    ProjectService ProjectResponse := do
  transactional do
    let version ← createProjectVersion env actor.id projectId project
    updateProject env.now projectId project (submittedProject project version.versionNo)
    writeProjectAudit actor action projectId
      (.projectSubmission version.versionNo (submissionNote.map (·.1)))
  refreshProject projectId

def submitChecks (actor : User) (projectId : Nat) (db : ProjectDb) : Except Raised Project := do
  let project ← loadProject projectId db
  assertApplicantScope actor project
  raiseIf (project.status ≠ .draft ∧ project.status ≠ .rejected)
    (.validation "Only draft/rejected projects can be submitted")
  return project

def submitProjectForReview (env : ProjectEnv) (actor : User) (projectId : Nat)
    (payload : ProjectSubmitRequest) : ProjectService ProjectResponse := do
  let db ← get
  let project ← attempt (submitChecks actor projectId db)
  submissionCommit env actor projectId "project.submit" payload.submissionNote project

def rejectChecks (actor : User) (projectId : Nat) (db : ProjectDb) : Except Raised Project := do
  let project ← loadProject projectId db
  assertReviewScope actor project
  raiseIf (project.status ≠ .submitted) (.validation "Only submitted projects can be rejected")
  return project

def rejectedProject (env : ProjectEnv) (actor : User) (payload : ProjectRejectRequest)
    (project : Project) : Project :=
  { project with
    status := .rejected
    rejectionReason := some (stripped payload.reason)
    reviewedByUserId := some actor.id
    reviewedAt := some env.now }

def rejectCommit (env : ProjectEnv) (actor : User) (projectId : Nat)
    (payload : ProjectRejectRequest) (project : Project) : ProjectService ProjectResponse := do
  transactional do
    updateProject env.now projectId project (rejectedProject env actor payload project)
    writeProjectAudit actor "project.reject" projectId (.projectReject (strip payload.reason.1))
  refreshProject projectId

def rejectProject (env : ProjectEnv) (actor : User) (projectId : Nat)
    (payload : ProjectRejectRequest) : ProjectService ProjectResponse := do
  let db ← get
  let project ← attempt (rejectChecks actor projectId db)
  rejectCommit env actor projectId payload project

def resubmitChecks (actor : User) (projectId : Nat) (db : ProjectDb) : Except Raised Project := do
  let project ← loadProject projectId db
  assertApplicantScope actor project
  raiseIf (project.status ≠ .rejected) (.validation "Only rejected projects can be resubmitted")
  return project

def resubmitProject (env : ProjectEnv) (actor : User) (projectId : Nat)
    (payload : ProjectResubmitRequest) : ProjectService ProjectResponse := do
  let db ← get
  let project ← attempt (resubmitChecks actor projectId db)
  submissionCommit env actor projectId "project.resubmit" payload.submissionNote project

/-- The second check for `project:manage` repeats the one inside the applicant scope. A
project that is deactivated already is answered as it stands. -/
def deactivateChecks (actor : User) (projectId : Nat) (db : ProjectDb) :
    Except Raised (ProjectResponse ⊕ Project) := do
  let project ← loadProject projectId db
  if (permissionCodes actor).contains "project:manage" = false then
    assertApplicantScope actor project
  return if project.status = .deactivated then .inl (projectToResponse (projectId, project))
    else .inr project

def deactivatedProject (project : Project) : Project :=
  { project with status := .deactivated, isActive := false }

def deactivateCommit (env : ProjectEnv) (actor : User) (projectId : Nat)
    (payload : ProjectDeactivateRequest) (project : Project) :
    ProjectService ProjectResponse := do
  transactional do
    updateProject env.now projectId project (deactivatedProject project)
    writeProjectAudit actor "project.deactivate" projectId
      (.projectDeactivate (strip payload.reason.1))
  refreshProject projectId

def deactivateProject (env : ProjectEnv) (actor : User) (projectId : Nat)
    (payload : ProjectDeactivateRequest) : ProjectService ProjectResponse := do
  let db ← get
  match ← attempt (deactivateChecks actor projectId db) with
  | .inl response => return response
  | .inr project => deactivateCommit env actor projectId payload project

def getProjectChecks (actor : User) (projectId : Nat) (db : ProjectDb) :
    Except Raised ProjectResponse := do
  let project ← loadProject projectId db
  if (permissionCodes actor).contains "project:manage" then
    return projectToResponse (projectId, project)
  else if canManageOwnProject (scopeContext actor) project.applicantUserId then
    return projectToResponse (projectId, project)
  else if canReviewProject (scopeContext actor) project.applicantUserId
      project.assignedReviewerUserId then
    return projectToResponse (projectId, project)
  else
    .error (.authorization "Project access denied")

def getProject (actor : User) (projectId : Nat) : ProjectService ProjectResponse := do
  attempt (getProjectChecks actor projectId (← get))

def versionsInOrder (db : ProjectDb) (projectId : Nat) : List (Nat × ProjectVersion) :=
  (db.projectVersions.entries.filter (fun entry => entry.2.projectId == projectId)).mergeSort
    (fun first second => first.2.versionNo ≤ second.2.versionNo)

def listProjectVersions (actor : User) (projectId : Nat) :
    ProjectService (List ProjectVersionResponse) := do
  let _ ← getProject actor projectId
  return (versionsInOrder (← get) projectId).map versionToResponse

end RetailApp
