import RetailApp.Projects.Authors

/-! Who may read a project, and what the list of its versions looks like. -/

namespace RetailApp.Projects

open Transaction

/-- Gate and scope of the two endpoints that read. An applicant needs one of the permissions,
and `project:read` opens nothing but a project of one's own. -/
def MayRead (user : User) (project : Project) : Prop :=
  user.isSuperuser = true ∨ hasPermission "project:manage" user = true ∨
    (hasPermission "project:review" user = true ∧ user.id ≠ project.applicantUserId ∧
      ∀ reviewer, project.assignedReviewerUserId = some reviewer → user.id = reviewer) ∨
    user.id = project.applicantUserId ∧ (hasPermission "project:read" user = true ∨
      hasPermission "project:review" user = true ∨ hasPermission "project:own" user = true)

section Reading

variable (user : User) (projectId : Nat) (db : ProjectDb)

theorem reviews_iff (project : Project) :
    canReviewProject (scopeContext user) project.applicantUserId
        project.assignedReviewerUserId = true ↔
      user.isSuperuser = true ∨ hasPermission "project:manage" user = true ∨
        hasPermission "project:review" user = true ∧ user.id ≠ project.applicantUserId ∧
          ∀ reviewer, project.assignedReviewerUserId = some reviewer → user.id = reviewer := by
  rw [← reviewScope_ok, assertReviewScope, raiseIf_ok, Bool.not_eq_false]

theorem owns_iff (project : Project) :
    canManageOwnProject (scopeContext user) project.applicantUserId = true ↔
      user.isSuperuser = true ∨ user.id = project.applicantUserId := by
  cases super : user.isSuperuser <;> simp [canManageOwnProject, scopeContext, super]

theorem getProjectChecks_ok (response : ProjectResponse) :
    getProjectChecks user projectId db = .ok response ↔
      ∃ project, db.projects.get? projectId = some project ∧
        (hasPermission "project:manage" user = true ∨
          canManageOwnProject (scopeContext user) project.applicantUserId = true ∨
          canReviewProject (scopeContext user) project.applicantUserId
            project.assignedReviewerUserId = true) ∧
        response = projectToResponse (projectId, project) := by
  simp only [getProjectChecks, bind_except_ok, loadProject_ok, contains_permissionCodes]
  refine exists_congr (fun project => and_congr_right (fun _ => ?_))
  have answered : (pure (projectToResponse (projectId, project)) : Except Raised ProjectResponse) =
      .ok response ↔ response = projectToResponse (projectId, project) := by
    rw [pure_except_ok]
    exact eq_comm
  cases hasPermission "project:manage" user <;>
    cases canManageOwnProject (scopeContext user) project.applicantUserId <;>
    cases canReviewProject (scopeContext user) project.applicantUserId
      project.assignedReviewerUserId <;> simp [answered]

theorem getProject_run :
    getProject user projectId db = match getProjectChecks user projectId db with
      | .ok response => .ok response db
      | .error raised => .error raised db := by
  rw [getProject, run_bind, run_get]
  dsimp only
  cases getProjectChecks user projectId db <;> rfl

theorem reply_gated {α : Type} (gate : User → Except Raised User)
    (handler : User → ProjectService α) (answer : α)
    (same : ∀ passed, gate user = .ok passed → user = passed) :
    reply (gated gate user handler) db = .ok answer ↔
      (∃ passed, gate user = .ok passed) ∧ reply (handler user) db = .ok answer := by
  rw [reply, gated, run_bind]
  cases opened : gate user with
  | error raised => simp
  | ok passed =>
      obtain rfl := same passed opened
      rw [run_attempt_ok]
      simp [reply]

theorem reading_gate (passed : User)
    (opened : requireAnyPermission readingPermissions user = .ok passed) : user = passed :=
  ((requireAnyPermission_ok _ _ _).mp opened).2

theorem mayRead_iff (project : Project) :
    (∃ passed, requireAnyPermission readingPermissions user = .ok passed) ∧
        (hasPermission "project:manage" user = true ∨
          canManageOwnProject (scopeContext user) project.applicantUserId = true ∨
          canReviewProject (scopeContext user) project.applicantUserId
            project.assignedReviewerUserId = true) ↔
      MayRead user project := by
  have gate : (∃ passed, requireAnyPermission readingPermissions user = .ok passed) ↔
      user.isSuperuser = true ∨ hasPermission "project:read" user = true ∨
        hasPermission "project:manage" user = true ∨
        hasPermission "project:review" user = true ∨ hasPermission "project:own" user = true := by
    simp [requireAnyPermission_ok, readingPermissions]
  rw [gate, owns_iff, reviews_iff, MayRead]
  tauto

theorem getProjectEndpoint_ok (response : ProjectResponse) :
    reply (getProjectEndpoint projectId user) db = .ok response ↔
      ∃ project, db.projects.get? projectId = some project ∧ MayRead user project ∧
        response = projectToResponse (projectId, project) := by
  have service : reply (getProject user projectId) db = getProjectChecks user projectId db :=
    reply_attempt (getProjectChecks user projectId) db
  rw [getProjectEndpoint, reply_gated user db _ _ _ (reading_gate user), service,
    getProjectChecks_ok]
  simp only [← mayRead_iff, and_assoc, ← exists_and_left]
  refine exists_congr (fun project => ?_)
  tauto

theorem listProjectVersionsEndpoint_ok (responses : List ProjectVersionResponse) :
    reply (listProjectVersionsEndpoint projectId user) db = .ok responses ↔
      ∃ project, db.projects.get? projectId = some project ∧ MayRead user project ∧
        responses = (versionsInOrder db projectId).map versionToResponse := by
  have service : reply (listProjectVersions user projectId) db = .ok responses ↔
      ∃ response, getProjectChecks user projectId db = .ok response ∧
        responses = (versionsInOrder db projectId).map versionToResponse := by
    rw [reply, listProjectVersions, run_bind, getProject_run]
    cases getProjectChecks user projectId db with
    | error raised => simp
    | ok response => simp [run_map, eq_comm]
  rw [listProjectVersionsEndpoint, reply_gated user db _ _ _ (reading_gate user), service]
  simp only [getProjectChecks_ok]
  constructor
  · rintro ⟨opened, _, ⟨project, present, scope, rfl⟩, listed⟩
    exact ⟨project, present, (mayRead_iff user project).mp ⟨opened, scope⟩, listed⟩
  · rintro ⟨project, present, may, listed⟩
    obtain ⟨opened, scope⟩ := (mayRead_iff user project).mpr may
    exact ⟨opened, _, ⟨project, present, scope, rfl⟩, listed⟩

end Reading

theorem served_step (db : ProjectDb) (call : Call) :
    served db call = db ∨ served db call = step db call := by
  cases call with
  | createProject env actor payload =>
      exact (served_create env actor payload db).imp_right And.right
  | request request => exact (served_request request db).imp_right And.right

theorem servedAll_kept (userIds : List Nat) (calls : List Call) :
    Kept (servedAll userIds calls) := by
  refine Runs.run_preserves served Kept (fun db call kept => ?_) _ calls (start_kept userIds)
  rcases served_step db call with same | stepped
  · rw [same]
    exact kept
  · rw [stepped]
    exact step_kept db call kept

theorem versionsInOrder_numbered (db : ProjectDb) (projectId : Nat) (project : Project)
    (numbered : Numbered (versionsOf db projectId) project) :
    (versionsInOrder db projectId).map (·.2.versionNo) =
      List.range' 1 project.currentVersion := by
  have permuted : ((versionsInOrder db projectId).map (·.2.versionNo)).Perm
      (List.range' 1 project.currentVersion) := by
    rw [← numbered, versionsOf, ← Table.filter_entries_rows, List.map_map]
    exact (List.mergeSort_perm _ _).map _
  have ascending : ((versionsInOrder db projectId).map (·.2.versionNo)).Pairwise (· ≤ ·) :=
    List.pairwise_map.mpr
      (Table.ascending_orderBy (fun entry : Nat × ProjectVersion => entry.2.versionNo) _)
  exact List.Perm.eq_of_pairwise (fun _ _ _ _ => Nat.le_antisymm) ascending
    (List.pairwise_le_range' (s := 1)) permuted

/-- After any run of requests the two endpoints that read answer exactly the users who may, with
the project as it is and with all its versions, numbered from 1 to the current one. -/
theorem readers_see_all_versions (userIds : List Nat) (calls : List Call) (user : User)
    (projectId : Nat) :
    (∀ response,
      reply (getProjectEndpoint projectId user) (servedAll userIds calls) = .ok response ↔
        ∃ project, (servedAll userIds calls).projects.get? projectId = some project ∧
          MayRead user project ∧ response = projectToResponse (projectId, project)) ∧
    ∀ responses,
      reply (listProjectVersionsEndpoint projectId user) (servedAll userIds calls) =
          .ok responses ↔
        ∃ project, (servedAll userIds calls).projects.get? projectId = some project ∧
          MayRead user project ∧
          responses = (versionsInOrder (servedAll userIds calls) projectId).map versionToResponse ∧
          responses.map (·.versionNo) = List.range' 1 project.currentVersion := by
  refine ⟨getProjectEndpoint_ok user projectId _, fun responses => ?_⟩
  rw [listProjectVersionsEndpoint_ok]
  refine exists_congr (fun project => and_congr_right (fun present => and_congr_right (fun _ => ?_)))
  have numbered := ((servedAll_kept userIds calls).each projectId project present).numbered
  refine (and_iff_left_of_imp (fun listed => ?_)).symm
  rw [listed, List.map_map, ← versionsInOrder_numbered _ projectId project numbered]
  rfl

end RetailApp.Projects
