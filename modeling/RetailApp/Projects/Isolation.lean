import RetailApp.Projects.Lifecycle

/-! What an outsider to a project can do and learn: nothing. The scope checks come before any
look at status, content or versions, and read only columns that are fixed at creation. -/

namespace RetailApp.Projects

open Transaction

inductive Access where
  | getProject (actor : User) (projectId : Nat)
  | listProjectVersions (actor : User) (projectId : Nat)
  | write (request : Request)

inductive Answer where
  | project (response : ProjectResponse)
  | versions (responses : List ProjectVersionResponse)
  deriving DecidableEq

def Access.session : Access → ProjectService Answer
  | .getProject actor projectId => .project <$> RetailApp.getProject actor projectId
  | .listProjectVersions actor projectId =>
      .versions <$> RetailApp.listProjectVersions actor projectId
  | .write request => .project <$> request.session

def Access.actor : Access → User
  | .getProject actor _ => actor
  | .listProjectVersions actor _ => actor
  | .write request => request.actor

def Access.projectId : Access → Nat
  | .getProject _ projectId => projectId
  | .listProjectVersions _ projectId => projectId
  | .write request => request.projectId

structure Outsider (actor : User) (project : Project) : Prop where
  ordinary : actor.isSuperuser = false
  unmanaging : "project:manage" ∉ permissionCodes actor
  stranger : actor.id ≠ project.applicantUserId
  unassigned : "project:review" ∉ permissionCodes actor ∨
    ∃ reviewer, project.assignedReviewerUserId = some reviewer ∧ actor.id ≠ reviewer

def Operation.denial : Operation → Raised
  | .rejectProject _ => .authorization "Reviewer access denied for this project"
  | _ => .authorization "Project access denied"

def Access.denial : Access → Raised
  | .getProject _ _ => .authorization "Project access denied"
  | .listProjectVersions _ _ => .authorization "Project access denied"
  | .write request => request.operation.denial

/-- Two states that agree on whose a project is and who reviews it, whatever else they hold. -/
def SameScope (projectId : Nat) (db db' : ProjectDb) : Prop :=
  ∀ project, db.projects.get? projectId = some project →
    ∃ project', db'.projects.get? projectId = some project' ∧
      project'.applicantUserId = project.applicantUserId ∧
      project'.assignedReviewerUserId = project.assignedReviewerUserId

theorem outsider_sameScope (actor : User) (project project' : Project)
    (outside : Outsider actor project)
    (applicant : project'.applicantUserId = project.applicantUserId)
    (reviewer : project'.assignedReviewerUserId = project.assignedReviewerUserId) :
    Outsider actor project' :=
  ⟨outside.ordinary, outside.unmanaging, applicant ▸ outside.stranger,
    reviewer ▸ outside.unassigned⟩

theorem outsider_manages (actor : User) (project : Project) (outside : Outsider actor project) :
    (permissionCodes actor).contains "project:manage" = false := by
  rw [← Bool.not_eq_true, List.contains_iff_mem]
  exact outside.unmanaging

theorem outsider_owns (actor : User) (project : Project) (outside : Outsider actor project) :
    canManageOwnProject (scopeContext actor) project.applicantUserId = false := by
  simp [canManageOwnProject, scopeContext, outside.ordinary, outside.stranger]

theorem outsider_reviews (actor : User) (project : Project) (outside : Outsider actor project) :
    canReviewProject (scopeContext actor) project.applicantUserId
      project.assignedReviewerUserId = false := by
  have managing := outsider_manages actor project outside
  rcases outside.unassigned with unqualified | ⟨reviewer, assigned, other⟩
  · have reviewing : (permissionCodes actor).contains "project:review" = false := by
      rw [← Bool.not_eq_true, List.contains_iff_mem]
      exact unqualified
    simp only [canReviewProject, scopeContext, outside.ordinary, managing, reviewing,
      Bool.false_eq_true, if_false, if_true]
  · simp only [canReviewProject, scopeContext, outside.ordinary, managing, Bool.false_eq_true,
      if_false, if_neg outside.stranger, assigned, beq_false_of_ne other, ite_self]

theorem outsider_applicantScope (actor : User) (project : Project)
    (outside : Outsider actor project) :
    assertApplicantScope actor project = .error (.authorization "Project access denied") := by
  simp only [assertApplicantScope, outsider_manages actor project outside, Bool.false_eq_true,
    if_false, raiseIf, outsider_owns actor project outside, if_true]

theorem outsider_reviewScope (actor : User) (project : Project) (outside : Outsider actor project) :
    assertReviewScope actor project =
      .error (.authorization "Reviewer access denied for this project") := by
  simp only [assertReviewScope, raiseIf, outsider_reviews actor project outside, if_true]

theorem getProject_denied (actor : User) (projectId : Nat) (db : ProjectDb) (project : Project)
    (present : db.projects.get? projectId = some project) (outside : Outsider actor project) :
    RetailApp.getProject actor projectId db = .error (.authorization "Project access denied") db := by
  have checks : getProjectChecks actor projectId db =
      .error (.authorization "Project access denied") := by
    simp only [getProjectChecks, loadProject, present, orRaise, bind, Except.bind,
      outsider_manages actor project outside, outsider_owns actor project outside,
      outsider_reviews actor project outside, Bool.false_eq_true, if_false]
  simp [RetailApp.getProject, run_bind, checks]

theorem listProjectVersions_denied (actor : User) (projectId : Nat) (db : ProjectDb)
    (project : Project) (present : db.projects.get? projectId = some project)
    (outside : Outsider actor project) :
    RetailApp.listProjectVersions actor projectId db =
      .error (.authorization "Project access denied") db := by
  rw [RetailApp.listProjectVersions, bind_error]
  exact .inl (getProject_denied actor projectId db project present outside)

theorem read_denied (request : Request) (db : ProjectDb) (project : Project)
    (present : db.projects.get? request.projectId = some project)
    (outside : Outsider request.actor project) :
    request.read db = .error request.operation.denial := by
  obtain ⟨env, actor, projectId, operation⟩ := request
  have loaded : loadProject projectId db = .ok project :=
    (loadProject_ok projectId db project).mpr present
  have applicant := outsider_applicantScope actor project outside
  have reviewer := outsider_reviewScope actor project outside
  have managing := outsider_manages actor project outside
  cases operation with
  | editProject payload =>
      simp only [Request.read, editChecks, loaded, applicant, bind, Except.bind, Except.map,
        Operation.denial]
  | submitProjectForReview payload =>
      simp only [Request.read, submitChecks, loaded, applicant, bind, Except.bind, Except.map,
        Operation.denial]
  | rejectProject payload =>
      simp only [Request.read, rejectChecks, loaded, reviewer, bind, Except.bind, Except.map,
        Operation.denial]
  | resubmitProject payload =>
      simp only [Request.read, resubmitChecks, loaded, applicant, bind, Except.bind, Except.map,
        Operation.denial]
  | deactivateProject payload =>
      simp only [Request.read, deactivateChecks, loaded, applicant, managing, if_true, bind,
        Except.bind, Operation.denial]

theorem outsider_denied (access : Access) (db : ProjectDb) (project : Project)
    (present : db.projects.get? access.projectId = some project)
    (outside : Outsider access.actor project) : access.session db = .error access.denial db := by
  cases access with
  | getProject actor projectId =>
      exact (map_error _ _ _ _ _).mpr (getProject_denied actor projectId db project present outside)
  | listProjectVersions actor projectId =>
      exact (map_error _ _ _ _ _).mpr
        (listProjectVersions_denied actor projectId db project present outside)
  | write request =>
      apply (map_error _ _ _ _ _).mpr
      rw [session_eq, read_denied request db project present outside]
      rfl

theorem flushed_scope (request : Request) (loaded current : Project) :
    (request.flushed loaded current).applicantUserId = current.applicantUserId ∧
      (request.flushed loaded current).assignedReviewerUserId = current.assignedReviewerUserId := by
  obtain ⟨env, actor, projectId, operation⟩ := request
  cases operation <;> simp [Request.flushed, Request.assigned, Project.flush, editedProject,
    submittedProject, rejectedProject, deactivatedProject]

theorem step_sameScope (db : ProjectDb) (call : Call) (projectId : Nat) (project : Project)
    (present : db.projects.get? projectId = some project) :
    ∃ project', (step db call).projects.get? projectId = some project' ∧
      project'.applicantUserId = project.applicantUserId ∧
      project'.assignedReviewerUserId = project.assignedReviewerUserId := by
  have change := step_change db call
  generalize step db call = db' at change ⊢
  cases change with
  | unchanged => exact ⟨project, present, rfl, rfl⟩
  | created env actor payload =>
      exact ⟨project, Table.get?_insert_of_some _ _ _ _ present, rfl, rfl⟩
  | written request loaded passed free =>
      rw [written_row request loaded loaded db passed.loaded]
      by_cases here : projectId = request.projectId
      · rw [here] at present
        obtain rfl := Option.some.inj (present.symm.trans passed.loaded)
        exact ⟨_, if_pos here, flushed_scope request project project⟩
      · exact ⟨project, (if_neg here).trans present, rfl, rfl⟩

theorem run_sameScope (db : ProjectDb) (calls : List Call) (projectId : Nat) :
    SameScope projectId db (run db calls) := by
  intro project present
  refine Runs.run_preserves step (fun later => ∃ project',
    later.projects.get? projectId = some project' ∧
      project'.applicantUserId = project.applicantUserId ∧
      project'.assignedReviewerUserId = project.assignedReviewerUserId) ?_ db calls
    ⟨project, present, rfl, rfl⟩
  rintro later call ⟨project', present', applicant, reviewer⟩
  obtain ⟨project'', present'', applicant', reviewer'⟩ :=
    step_sameScope later call projectId project' present'
  exact ⟨project'', present'', applicant'.trans applicant, reviewer'.trans reviewer⟩

/-- At any point of any run, whatever an outsider calls leaves the tables alone, and the answer
is that of every state that agrees on the scope of the project; the states that later calls
lead to do. -/
theorem outsider_isolated (userIds : List Nat) (calls : List Call) (access : Access)
    (project : Project)
    (present : (run (ProjectDb.start userIds) calls).projects.get? access.projectId = some project)
    (outside : Outsider access.actor project) :
    after access.session (run (ProjectDb.start userIds) calls) =
        run (ProjectDb.start userIds) calls ∧
      (∀ db', SameScope access.projectId (run (ProjectDb.start userIds) calls) db' →
        after access.session db' = db' ∧
          reply access.session db' = reply access.session (run (ProjectDb.start userIds) calls)) ∧
      ∀ more, SameScope access.projectId (run (ProjectDb.start userIds) calls)
        (run (ProjectDb.start userIds) (calls ++ more)) := by
  have denied := outsider_denied access _ project present outside
  refine ⟨after_error _ _ _ _ denied, ?_, ?_⟩
  · intro db' same
    obtain ⟨project', present', applicant, reviewer⟩ := same project present
    have denied' := outsider_denied access db' project' present'
      (outsider_sameScope access.actor project project' outside applicant reviewer)
    exact ⟨after_error _ _ _ _ denied', by rw [reply, reply, denied, denied']⟩
  · intro more
    have split : run (ProjectDb.start userIds) (calls ++ more) =
        run (run (ProjectDb.start userIds) calls) more := Runs.run_append step _ calls more
    rw [split]
    exact run_sameScope (run (ProjectDb.start userIds) calls) more access.projectId

def passerBy : User := ⟨9, false, [⟨[⟨"project:own"⟩]⟩]⟩

theorem passerBy_outside : Outsider passerBy submittedSoap :=
  ⟨rfl, by decide, by decide, .inl (by decide)⟩

theorem passerBy_isolated :
    after (Access.listProjectVersions passerBy 1).session
        (run (ProjectDb.start []) soapSubmitted) = run (ProjectDb.start []) soapSubmitted :=
  (outsider_isolated [] soapSubmitted (.listProjectVersions passerBy 1) submittedSoap rfl
    passerBy_outside).1

end RetailApp.Projects
