import RetailApp.Library.Runs
import RetailApp.Services.ProjectService

/-! Runs of project calls. Every request on a project loads its row, checks scope and status,
and commits attributes assigned to that row; a submission also commits a version. What one
such commit writes is said once here, whatever the request. -/

namespace RetailApp.Projects

open Transaction

inductive Operation where
  | editProject (payload : ProjectEditRequest)
  | submitProjectForReview (payload : ProjectSubmitRequest)
  | rejectProject (payload : ProjectRejectRequest)
  | resubmitProject (payload : ProjectResubmitRequest)
  | deactivateProject (payload : ProjectDeactivateRequest)

structure Request where
  env : ProjectEnv
  actor : User
  projectId : Nat
  operation : Operation

def Request.session (request : Request) : ProjectService ProjectResponse :=
  match request.operation with
  | .editProject payload => editProject request.env request.actor request.projectId payload
  | .submitProjectForReview payload =>
      submitProjectForReview request.env request.actor request.projectId payload
  | .rejectProject payload => rejectProject request.env request.actor request.projectId payload
  | .resubmitProject payload => resubmitProject request.env request.actor request.projectId payload
  | .deactivateProject payload =>
      deactivateProject request.env request.actor request.projectId payload

inductive Call where
  | createProject (env : ProjectEnv) (actor : User) (payload : ProjectCreateRequest)
  | request (request : Request)

def step (db : ProjectDb) : Call → ProjectDb
  | .createProject env actor payload => after (RetailApp.createProject env actor payload) db
  | .request request => after request.session db

def run (db : ProjectDb) (calls : List Call) : ProjectDb := Runs.run step db calls

/-- What a request does before its transaction: the row it loads, or an early answer. -/
def Request.read (request : Request) (db : ProjectDb) : Except Raised (ProjectResponse ⊕ Project) :=
  match request.operation with
  | .editProject _ => (editChecks request.actor request.projectId db).map .inr
  | .submitProjectForReview _ => (submitChecks request.actor request.projectId db).map .inr
  | .rejectProject _ => (rejectChecks request.actor request.projectId db).map .inr
  | .resubmitProject _ => (resubmitChecks request.actor request.projectId db).map .inr
  | .deactivateProject _ => deactivateChecks request.actor request.projectId db

def Request.commit (request : Request) (loaded : Project) : ProjectService ProjectResponse :=
  match request.operation with
  | .editProject payload => editCommit request.env request.actor request.projectId payload loaded
  | .submitProjectForReview payload =>
      submissionCommit request.env request.actor request.projectId "project.submit"
        payload.submissionNote loaded
  | .rejectProject payload =>
      rejectCommit request.env request.actor request.projectId payload loaded
  | .resubmitProject payload =>
      submissionCommit request.env request.actor request.projectId "project.resubmit"
        payload.submissionNote loaded
  | .deactivateProject payload =>
      deactivateCommit request.env request.actor request.projectId payload loaded

def Request.assigned (request : Request) (loaded : Project) : Project :=
  match request.operation with
  | .editProject payload => editedProject request.env payload loaded
  | .submitProjectForReview _ => submittedProject loaded (loaded.currentVersion + 1)
  | .rejectProject payload => rejectedProject request.env request.actor payload loaded
  | .resubmitProject _ => submittedProject loaded (loaded.currentVersion + 1)
  | .deactivateProject _ => deactivatedProject loaded

def Operation.submits : Operation → Bool
  | .editProject _ => false
  | .submitProjectForReview _ => true
  | .rejectProject _ => false
  | .resubmitProject _ => true
  | .deactivateProject _ => false

def Operation.action : Operation → String
  | .editProject _ => "project.edit"
  | .submitProjectForReview _ => "project.submit"
  | .rejectProject _ => "project.reject"
  | .resubmitProject _ => "project.resubmit"
  | .deactivateProject _ => "project.deactivate"

def Operation.details (loaded : Project) : Operation → AuditDetails
  | .editProject _ => .projectEdit loaded.status
  | .submitProjectForReview payload =>
      .projectSubmission (loaded.currentVersion + 1) (payload.submissionNote.map (·.1))
  | .rejectProject payload => .projectReject (strip payload.reason.1)
  | .resubmitProject payload =>
      .projectSubmission (loaded.currentVersion + 1) (payload.submissionNote.map (·.1))
  | .deactivateProject payload => .projectDeactivate (strip payload.reason.1)

def Request.version (request : Request) (loaded : Project) (db : ProjectDb) : ProjectVersion :=
  newVersion request.env request.actor.id request.projectId loaded
    (latestVersion db request.projectId)

/-- The row a commit leaves behind where it finds `current`. -/
def Request.flushed (request : Request) (loaded current : Project) : Project :=
  Project.flush request.env.now loaded (request.assigned loaded) current

def Request.written (request : Request) (loaded : Project) (db : ProjectDb) : ProjectDb where
  userIds := db.userIds
  projects := db.projects.modify request.projectId (request.flushed loaded)
  projectVersions :=
    if request.operation.submits then db.projectVersions.insert (request.version loaded db)
    else db.projectVersions
  auditLogs := db.auditLogs.insert ⟨some request.actor.id, request.operation.action, "project",
    request.projectId, request.operation.details loaded⟩

def Operation.inScope (operation : Operation) (actor : User) (project : Project) :
    Except Raised Unit :=
  match operation with
  | .rejectProject _ => assertReviewScope actor project
  | _ => assertApplicantScope actor project

def Operation.Admits : Operation → ProjectStatus → Prop
  | .editProject _, status => status = .draft ∨ status = .rejected
  | .submitProjectForReview _, status => status = .draft ∨ status = .rejected
  | .rejectProject _, status => status = .submitted
  | .resubmitProject _, status => status = .rejected
  | .deactivateProject _, status => status ≠ .deactivated

structure Request.Passed (request : Request) (db : ProjectDb) (project : Project) : Prop where
  loaded : db.projects.get? request.projectId = some project
  scope : request.operation.inScope request.actor project = .ok ()
  admits : request.operation.Admits project.status

theorem loadProject_ok (projectId : Nat) (db : ProjectDb) (project : Project) :
    loadProject projectId db = .ok project ↔ db.projects.get? projectId = some project :=
  orRaise_ok _ _ _

/-- Load, check the scope, check the status: the shape of every check but one. -/
theorem scoped_ok (projectId : Nat) (db : ProjectDb) (scope : Project → Except Raised Unit)
    (bad : Project → Prop) [∀ project, Decidable (bad project)] (raised : Raised)
    (project : Project) :
    (do
      let project ← loadProject projectId db
      scope project
      raiseIf (bad project) raised
      return project : Except Raised Project) = .ok project ↔
      db.projects.get? projectId = some project ∧ scope project = .ok () ∧ ¬ bad project := by
  simp only [bind_except_ok, loadProject_ok, raiseIf_ok, pure_except_ok]
  constructor
  · rintro ⟨_, loaded, _, inside, _, good, rfl⟩
    exact ⟨loaded, inside, good⟩
  · rintro ⟨loaded, inside, good⟩
    exact ⟨project, loaded, (), inside, (), good, rfl⟩

theorem not_neither (status : ProjectStatus) :
    ¬ (status ≠ .draft ∧ status ≠ .rejected) ↔ status = .draft ∨ status = .rejected := by
  rw [not_and_or, not_not, not_not]

theorem deactivateChecks_ok (actor : User) (projectId : Nat) (db : ProjectDb)
    (answer : ProjectResponse ⊕ Project) :
    deactivateChecks actor projectId db = .ok answer ↔
      ∃ project, db.projects.get? projectId = some project ∧
        assertApplicantScope actor project = .ok () ∧
        answer = if project.status = .deactivated then .inl (projectToResponse (projectId, project))
          else .inr project := by
  cases manages : (permissionCodes actor).contains "project:manage" with
  | false =>
      simp only [deactivateChecks, manages, if_true, bind_except_ok, loadProject_ok, pure_except_ok]
      constructor
      · rintro ⟨project, loaded, _, inside, rfl⟩
        exact ⟨project, loaded, inside, rfl⟩
      · rintro ⟨project, loaded, inside, rfl⟩
        exact ⟨project, loaded, (), inside, rfl⟩
  | true =>
      simp only [deactivateChecks, manages, Bool.true_eq_false, if_false, bind_except_ok,
        loadProject_ok, pure_except_ok, assertApplicantScope, if_true, true_and]
      constructor
      · rintro ⟨project, loaded, rfl⟩
        exact ⟨project, loaded, rfl⟩
      · rintro ⟨project, loaded, rfl⟩
        exact ⟨project, loaded, rfl⟩

theorem read_planned (request : Request) (db : ProjectDb) (project : Project) :
    request.read db = .ok (.inr project) ↔ request.Passed db project := by
  have mapped (checks : Except Raised Project) :
      checks.map (Sum.inr (α := ProjectResponse)) = .ok (.inr project) ↔ checks = .ok project := by
    rw [map_except_ok]
    simp
  have parts : request.Passed db project ↔ db.projects.get? request.projectId = some project ∧
      request.operation.inScope request.actor project = .ok () ∧
      request.operation.Admits project.status :=
    ⟨fun passed => ⟨passed.loaded, passed.scope, passed.admits⟩,
      fun ⟨loaded, scope, admits⟩ => ⟨loaded, scope, admits⟩⟩
  obtain ⟨env, actor, projectId, operation⟩ := request
  rw [parts]
  cases operation with
  | editProject payload =>
      simp only [Request.read, mapped, editChecks, scoped_ok, not_neither]
      rfl
  | submitProjectForReview payload =>
      simp only [Request.read, mapped, submitChecks, scoped_ok, not_neither]
      rfl
  | rejectProject payload =>
      simp only [Request.read, mapped, rejectChecks, scoped_ok, not_not]
      rfl
  | resubmitProject payload =>
      simp only [Request.read, mapped, resubmitChecks, scoped_ok, not_not]
      rfl
  | deactivateProject payload =>
      simp only [Request.read, deactivateChecks_ok, Operation.inScope, Operation.Admits]
      constructor
      · rintro ⟨found, loaded, inside, same⟩
        split at same
        · cases same
        · obtain rfl := Sum.inr.inj same
          exact ⟨loaded, inside, ‹_›⟩
      · rintro ⟨loaded, inside, live⟩
        exact ⟨project, loaded, inside, (if_neg live).symm⟩

/-- Only a deactivation is answered without a transaction: of a project deactivated already. -/
theorem read_answered (request : Request) (db : ProjectDb) (response : ProjectResponse)
    (answered : request.read db = .ok (.inl response)) :
    ∃ project, db.projects.get? request.projectId = some project ∧
      project.status = .deactivated ∧ response = projectToResponse (request.projectId, project) := by
  have impossible (checks : Except Raised Project) :
      checks.map (Sum.inr (α := ProjectResponse)) ≠ .ok (.inl response) := by
    intro same
    obtain ⟨_, _, sides⟩ := (map_except_ok _ _ _).mp same
    cases sides
  obtain ⟨env, actor, projectId, operation⟩ := request
  cases operation with
  | editProject payload => exact (impossible _ answered).elim
  | submitProjectForReview payload => exact (impossible _ answered).elim
  | rejectProject payload => exact (impossible _ answered).elim
  | resubmitProject payload => exact (impossible _ answered).elim
  | deactivateProject payload =>
      obtain ⟨project, loaded, _, same⟩ := (deactivateChecks_ok _ _ _ _).mp answered
      split at same
      · exact ⟨project, loaded, ‹_›, Sum.inl.inj same⟩
      · cases same

theorem refreshProject_of_some (db : ProjectDb) (projectId : Nat) (row : Project)
    (present : db.projects.get? projectId = some row) :
    refreshProject projectId db = .ok (projectToResponse (projectId, row)) db := by
  simp [refreshProject, run_bind, run_map, present]

theorem insertProjectVersion_taken (row : ProjectVersion) (db : ProjectDb)
    (taken : versionTaken db row.projectId row.versionNo = true) :
    insertProjectVersion row db =
      .error (.integrityError "uq_project_versions_project_version") db := by
  simp [insertProjectVersion, run_bind, taken]

theorem insertProjectVersion_free (row : ProjectVersion) (db : ProjectDb)
    (free : versionTaken db row.projectId row.versionNo = false) :
    insertProjectVersion row db = .ok db.projectVersions.nextKey
      { db with projectVersions := db.projectVersions.insert row } := by
  simp [insertProjectVersion, run_bind, run_map, free]

/-- The unique constraint lets the version of a request in; other requests insert none. -/
def Request.Free (request : Request) (loaded : Project) (db : ProjectDb) : Prop :=
  request.operation.submits = true →
    versionTaken db request.projectId (loaded.currentVersion + 1) = false

theorem written_row (request : Request) (loaded current : Project) (db : ProjectDb)
    (present : db.projects.get? request.projectId = some current) (projectId : Nat) :
    (request.written loaded db).projects.get? projectId =
      if projectId = request.projectId then some (request.flushed loaded current)
      else db.projects.get? projectId :=
  Table.get?_modify_of_some _ _ _ current present projectId

def submissionWritten (env : ProjectEnv) (actor : User) (projectId : Nat) (action : String)
    (submissionNote : Option (BoundedText 0 255)) (project : Project) (db : ProjectDb) :
    ProjectDb where
  userIds := db.userIds
  projects := db.projects.modify projectId
    (Project.flush env.now project (submittedProject project (project.currentVersion + 1)))
  projectVersions := db.projectVersions.insert
    (newVersion env actor.id projectId project (latestVersion db projectId))
  auditLogs := db.auditLogs.insert ⟨some actor.id, action, "project", projectId,
    .projectSubmission (project.currentVersion + 1) (submissionNote.map (·.1))⟩

theorem submissionCommit_taken (env : ProjectEnv) (actor : User) (projectId : Nat)
    (action : String) (submissionNote : Option (BoundedText 0 255)) (project : Project)
    (db : ProjectDb) (taken : versionTaken db projectId (project.currentVersion + 1) = true) :
    submissionCommit env actor projectId action submissionNote project db =
      .error (.integrityError "uq_project_versions_project_version") db := by
  have inserted := insertProjectVersion_taken
    (newVersion env actor.id projectId project (latestVersion db projectId)) db taken
  rw [submissionCommit, bind_error]
  left
  simp [transactional, createProjectVersion, run_bind, run_map, inserted]

theorem submissionCommit_free (env : ProjectEnv) (actor : User) (projectId : Nat)
    (action : String) (submissionNote : Option (BoundedText 0 255)) (project current : Project)
    (db : ProjectDb) (present : db.projects.get? projectId = some current)
    (free : versionTaken db projectId (project.currentVersion + 1) = false) :
    submissionCommit env actor projectId action submissionNote project db =
      .ok (projectToResponse (projectId, Project.flush env.now project
          (submittedProject project (project.currentVersion + 1)) current))
        (submissionWritten env actor projectId action submissionNote project db) := by
  have row : (submissionWritten env actor projectId action submissionNote project
      db).projects.get? projectId = some (Project.flush env.now project
        (submittedProject project (project.currentVersion + 1)) current) := by
    rw [submissionWritten, Table.get?_modify_self, present, Option.map_some]
  have created : createProjectVersion env actor.id projectId project db =
      .ok (newVersion env actor.id projectId project (latestVersion db projectId))
        { db with
          projectVersions := db.projectVersions.insert
            (newVersion env actor.id projectId project (latestVersion db projectId)) } := by
    simp only [createProjectVersion, bind_ok]
    exact ⟨db, db, rfl, _, _, insertProjectVersion_free _ db free, rfl⟩
  rw [submissionCommit, bind_ok]
  refine ⟨(), submissionWritten env actor projectId action submissionNote project db, ?_,
    refreshProject_of_some _ _ _ row⟩
  rw [transactional_ok, bind_ok]
  exact ⟨_, _, created, rfl⟩

theorem commit_free (request : Request) (loaded current : Project) (db : ProjectDb)
    (present : db.projects.get? request.projectId = some current)
    (free : request.Free loaded db) :
    request.commit loaded db =
      .ok (projectToResponse (request.projectId, request.flushed loaded current))
        (request.written loaded db) := by
  have row := written_row request loaded current db present request.projectId
  rw [if_pos rfl] at row
  have refreshed := refreshProject_of_some _ _ _ row
  obtain ⟨env, actor, projectId, operation⟩ := request
  cases operation with
  | editProject payload =>
      simp only [Request.commit, editCommit, bind_ok]
      exact ⟨(), _, rfl, refreshed⟩
  | submitProjectForReview payload =>
      exact submissionCommit_free env actor projectId _ _ loaded current db present (free rfl)
  | rejectProject payload =>
      simp only [Request.commit, rejectCommit, bind_ok]
      exact ⟨(), _, rfl, refreshed⟩
  | resubmitProject payload =>
      exact submissionCommit_free env actor projectId _ _ loaded current db present (free rfl)
  | deactivateProject payload =>
      simp only [Request.commit, deactivateCommit, bind_ok]
      exact ⟨(), _, rfl, refreshed⟩

theorem commit_taken (request : Request) (loaded : Project) (db : ProjectDb)
    (taken : ¬ request.Free loaded db) :
    request.commit loaded db =
      .error (.integrityError "uq_project_versions_project_version") db := by
  rw [Request.Free, Classical.not_imp, Bool.not_eq_false] at taken
  obtain ⟨submits, taken⟩ := taken
  obtain ⟨env, actor, projectId, operation⟩ := request
  cases operation with
  | editProject payload => cases submits
  | submitProjectForReview payload =>
      exact submissionCommit_taken env actor projectId _ _ loaded db taken
  | rejectProject payload => cases submits
  | resubmitProject payload =>
      exact submissionCommit_taken env actor projectId _ _ loaded db taken
  | deactivateProject payload => cases submits

theorem session_eq (request : Request) (db : ProjectDb) :
    request.session db =
      match request.read db with
      | .error raised => .error raised db
      | .ok (.inl response) => .ok response db
      | .ok (.inr loaded) => request.commit loaded db := by
  obtain ⟨env, actor, projectId, operation⟩ := request
  have planned (checks : Except Raised Project) (commit : Project → ProjectService ProjectResponse) :
      (do commit (← attempt checks) : ProjectService ProjectResponse) db =
        match (checks.map Sum.inr : Except Raised (ProjectResponse ⊕ Project)) with
        | .error raised => .error raised db
        | .ok (.inl response) => .ok response db
        | .ok (.inr loaded) => commit loaded db := by
    cases checks <;> rfl
  cases operation with
  | editProject payload => exact planned _ _
  | submitProjectForReview payload => exact planned _ _
  | rejectProject payload => exact planned _ _
  | resubmitProject payload => exact planned _ _
  | deactivateProject payload =>
      simp only [Request.session, deactivateProject, Request.read, Request.commit, run_bind,
        run_get]
      cases deactivateChecks actor projectId db with
      | error raised => rfl
      | ok answer => cases answer <;> rfl

def created (env : ProjectEnv) (actor : User) (payload : ProjectCreateRequest) (db : ProjectDb) :
    ProjectDb where
  userIds := db.userIds
  projects := db.projects.insert (newProject env actor payload)
  projectVersions := db.projectVersions
  auditLogs := db.auditLogs.insert
    ⟨some actor.id, "project.create", "project", db.projects.nextKey, .projectCreate .draft⟩

/-- Everything one call can do to the tables. -/
inductive Change (db : ProjectDb) : Call → ProjectDb → Prop
  | unchanged (call : Call) : Change db call db
  | created (env : ProjectEnv) (actor : User) (payload : ProjectCreateRequest) :
      Change db (.createProject env actor payload) (created env actor payload db)
  | written (request : Request) (project : Project) (passed : request.Passed db project)
      (free : request.Free project db) :
      Change db (.request request) (request.written project db)

theorem step_unknown (env : ProjectEnv) (actor : User) (payload : ProjectCreateRequest)
    (db : ProjectDb) (unknown : unknownReviewer db payload.assignedReviewerUserId = true) :
    step db (.createProject env actor payload) = db := by
  have failed : RetailApp.createProject env actor payload db =
      .error (.integrityError "projects_assigned_reviewer_user_id_fkey") db := by
    have inserted : insertProject (newProject env actor payload) db =
        .error (.integrityError "projects_assigned_reviewer_user_id_fkey") db := by
      simp [insertProject, run_bind, newProject, unknown]
    rw [RetailApp.createProject, bind_error]
    left
    simp [transactional, run_bind, inserted]
  rw [step, after_error _ _ _ _ failed]

theorem step_known (env : ProjectEnv) (actor : User) (payload : ProjectCreateRequest)
    (db : ProjectDb) (known : unknownReviewer db payload.assignedReviewerUserId = false) :
    step db (.createProject env actor payload) = created env actor payload db := by
  have inserted : insertProject (newProject env actor payload) db =
      .ok db.projects.nextKey
        { db with projects := db.projects.insert (newProject env actor payload) } := by
    simp [insertProject, run_bind, run_map, newProject, known]
  have row : (created env actor payload db).projects.get? db.projects.nextKey =
      some (newProject env actor payload) := Table.get?_insert_self _ _
  have returned : RetailApp.createProject env actor payload db =
      .ok (projectToResponse (db.projects.nextKey, newProject env actor payload))
        (created env actor payload db) := by
    rw [RetailApp.createProject, bind_ok]
    refine ⟨db.projects.nextKey, created env actor payload db, ?_, refreshProject_of_some _ _ _ row⟩
    rw [transactional_ok, bind_ok]
    exact ⟨_, _, inserted, rfl⟩
  rw [step, after_ok _ _ _ _ returned]

theorem createProject_change (env : ProjectEnv) (actor : User) (payload : ProjectCreateRequest)
    (db : ProjectDb) :
    Change db (.createProject env actor payload) (step db (.createProject env actor payload)) := by
  cases unknown : unknownReviewer db payload.assignedReviewerUserId with
  | true =>
      rw [step_unknown env actor payload db unknown]
      exact .unchanged _
  | false =>
      rw [step_known env actor payload db unknown]
      exact .created env actor payload

theorem step_written (request : Request) (project : Project) (db : ProjectDb)
    (passed : request.Passed db project) (free : request.Free project db) :
    step db (.request request) = request.written project db := by
  have reading := (read_planned request db project).mpr passed
  have served : request.session db = request.commit project db := by
    rw [session_eq, reading]
  have returned := commit_free request project project db passed.loaded free
  rw [step, after_ok _ _ _ _ (served.trans returned)]

theorem step_unwritten (request : Request) (db : ProjectDb)
    (unwritten : ∀ project, request.Passed db project → ¬ request.Free project db) :
    step db (.request request) = db := by
  cases reading : request.read db with
  | error raised =>
      have refused : request.session db = .error raised db := by rw [session_eq, reading]
      rw [step, after_error _ _ _ _ refused]
  | ok answer =>
      cases answer with
      | inl response =>
          have answered : request.session db = .ok response db := by rw [session_eq, reading]
          rw [step, after_ok _ _ _ _ answered]
      | inr project =>
          have served : request.session db = request.commit project db := by
            rw [session_eq, reading]
          have taken := unwritten project ((read_planned request db project).mp reading)
          rw [step, after_error _ _ _ _ (served.trans (commit_taken request project db taken))]

theorem step_change (db : ProjectDb) (call : Call) : Change db call (step db call) := by
  cases call with
  | createProject env actor payload => exact createProject_change env actor payload db
  | request request =>
      by_cases writes : ∃ project, request.Passed db project ∧ request.Free project db
      · obtain ⟨project, passed, free⟩ := writes
        rw [step_written request project db passed free]
        exact .written request project passed free
      · rw [step_unwritten request db (fun project passed free => writes ⟨project, passed, free⟩)]
        exact .unchanged _

end RetailApp.Projects
