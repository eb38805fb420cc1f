import RetailApp.Projects.Isolation
import RetailApp.Services.ProjectEndpoints

/-! Who the records of a project name. An endpoint asks for a permission and the service for a
place in the project; whoever is named by a review, a version or an audit row passed both. -/

namespace RetailApp.Projects

open Transaction

def Request.endpoint (request : Request) : ProjectService ProjectResponse :=
  match request.operation with
  | .editProject payload =>
      editProjectEndpoint request.env request.projectId payload request.actor
  | .submitProjectForReview payload =>
      submitProjectEndpoint request.env request.projectId payload request.actor
  | .rejectProject payload =>
      rejectProjectEndpoint request.env request.projectId payload request.actor
  | .resubmitProject payload =>
      resubmitProjectEndpoint request.env request.projectId payload request.actor
  | .deactivateProject payload =>
      deactivateProjectEndpoint request.env request.projectId payload request.actor

def served (db : ProjectDb) : Call → ProjectDb
  | .createProject env actor payload => after (createProjectEndpoint env payload actor) db
  | .request request => after request.endpoint db

def servedAll (userIds : List Nat) (calls : List Call) : ProjectDb :=
  Runs.run served (ProjectDb.start userIds) calls

def Operation.gate : Operation → User → Except Raised User
  | .rejectProject _ => requireAnyPermission ["project:review", "project:manage"]
  | .deactivateProject _ => requireAnyPermission ["project:deactivate", "project:manage"]
  | _ => requirePermission "project:own"

/-- Whose request of this kind is let through, by the gate and by the scope of the project. -/
def Operation.Entitles (actor : User) (project : Project) : Operation → Prop
  | .rejectProject _ =>
      actor.isSuperuser = true ∨ hasPermission "project:manage" actor = true ∨
        hasPermission "project:review" actor = true ∧ actor.id ≠ project.applicantUserId ∧
          ∀ reviewer, project.assignedReviewerUserId = some reviewer → actor.id = reviewer
  | .deactivateProject _ =>
      actor.isSuperuser = true ∨ hasPermission "project:manage" actor = true ∨
        hasPermission "project:deactivate" actor = true ∧ actor.id = project.applicantUserId
  | _ =>
      actor.isSuperuser = true ∨ hasPermission "project:own" actor = true ∧
        (hasPermission "project:manage" actor = true ∨ actor.id = project.applicantUserId)

section Gates

theorem contains_permissionCodes (permissionCode : String) (user : User) :
    (permissionCodes user).contains permissionCode = hasPermission permissionCode user := by
  rw [Bool.eq_iff_iff, List.contains_iff_mem, permissionCodes, hasPermission, List.mem_flatMap]
  simp only [List.any_eq_true, List.mem_map, beq_iff_eq]

theorem requireAnyPermission_ok (permissionCodes : List String) (user passed : User) :
    requireAnyPermission permissionCodes user = .ok passed ↔
      (user.isSuperuser = true ∨ ∃ code ∈ permissionCodes, hasPermission code user = true) ∧
        user = passed := by
  unfold requireAnyPermission
  cases user.isSuperuser with
  | true => simp
  | false =>
      rw [← List.any_eq_true]
      cases permissionCodes.any (fun code => hasPermission code user) <;> simp

theorem applicantScope_ok (actor : User) (project : Project) :
    assertApplicantScope actor project = .ok () ↔
      actor.isSuperuser = true ∨ hasPermission "project:manage" actor = true ∨
        actor.id = project.applicantUserId := by
  rw [assertApplicantScope, contains_permissionCodes]
  cases hasPermission "project:manage" actor with
  | true => simp
  | false =>
      cases super : actor.isSuperuser <;>
        simp [raiseIf_ok, canManageOwnProject, scopeContext, super]

theorem reviewScope_ok (actor : User) (project : Project) :
    assertReviewScope actor project = .ok () ↔
      actor.isSuperuser = true ∨ hasPermission "project:manage" actor = true ∨
        hasPermission "project:review" actor = true ∧ actor.id ≠ project.applicantUserId ∧
          ∀ reviewer, project.assignedReviewerUserId = some reviewer → actor.id = reviewer := by
  rw [assertReviewScope, raiseIf_ok]
  simp only [canReviewProject, scopeContext, contains_permissionCodes]
  by_cases applied : actor.id = project.applicantUserId
  · cases actor.isSuperuser <;> cases hasPermission "project:manage" actor <;>
      cases hasPermission "project:review" actor <;> simp [applied]
  · cases actor.isSuperuser <;> cases hasPermission "project:manage" actor <;>
      cases hasPermission "project:review" actor <;>
      cases project.assignedReviewerUserId <;> simp [applied]

theorem own_entitles (actor : User) (project : Project) :
    (∃ passed, requirePermission "project:own" actor = .ok passed) ∧
        assertApplicantScope actor project = .ok () ↔
      actor.isSuperuser = true ∨ hasPermission "project:own" actor = true ∧
        (hasPermission "project:manage" actor = true ∨ actor.id = project.applicantUserId) := by
  simp only [requirePermission_ok, exists_and_left, exists_eq', and_true, applicantScope_ok]
  tauto

theorem entitles_iff (operation : Operation) (actor : User) (project : Project) :
    (∃ passed, operation.gate actor = .ok passed) ∧ operation.inScope actor project = .ok () ↔
      operation.Entitles actor project := by
  have two (first second : String) :
      (∃ passed, requireAnyPermission [first, second] actor = .ok passed) ↔
        actor.isSuperuser = true ∨ hasPermission first actor = true ∨
          hasPermission second actor = true := by
    simp [requireAnyPermission_ok]
  cases operation with
  | editProject payload => exact own_entitles actor project
  | submitProjectForReview payload => exact own_entitles actor project
  | rejectProject payload =>
      refine (and_congr (two _ _) (reviewScope_ok actor project)).trans ?_
      rw [Operation.Entitles]
      tauto
  | resubmitProject payload => exact own_entitles actor project
  | deactivateProject payload =>
      refine (and_congr (two _ _) (applicantScope_ok actor project)).trans ?_
      show _ ↔ actor.isSuperuser = true ∨ hasPermission "project:manage" actor = true ∨
        hasPermission "project:deactivate" actor = true ∧ actor.id = project.applicantUserId
      tauto

theorem after_gated {α : Type} (gate : User → Except Raised User) (user : User)
    (handler : User → ProjectService α) (db : ProjectDb)
    (same : ∀ passed, gate user = .ok passed → user = passed) :
    after (gated gate user handler) db = db ∨
      (∃ passed, gate user = .ok passed) ∧
        after (gated gate user handler) db = after (handler user) db := by
  cases opened : gate user with
  | error raised =>
      left
      rw [after, gated, run_bind, opened]
      rfl
  | ok passed =>
      right
      obtain rfl := same passed opened
      refine ⟨⟨_, rfl⟩, ?_⟩
      rw [after, gated, run_bind, opened]
      rfl

theorem gate_same (operation : Operation) (actor passed : User)
    (opened : operation.gate actor = .ok passed) : actor = passed := by
  cases operation with
  | rejectProject payload => exact ((requireAnyPermission_ok _ _ _).mp opened).2
  | deactivateProject payload => exact ((requireAnyPermission_ok _ _ _).mp opened).2
  | _ => exact ((requirePermission_ok _ _ _).mp opened).2

theorem served_request (request : Request) (db : ProjectDb) :
    served db (.request request) = db ∨
      (∃ passed, request.operation.gate request.actor = .ok passed) ∧
        served db (.request request) = step db (.request request) := by
  obtain ⟨env, actor, projectId, operation⟩ := request
  have same := gate_same operation actor
  cases operation <;> exact after_gated _ actor _ db same

theorem served_create (env : ProjectEnv) (actor : User) (payload : ProjectCreateRequest)
    (db : ProjectDb) :
    served db (.createProject env actor payload) = db ∨
      (actor.isSuperuser = true ∨ hasPermission "project:own" actor = true) ∧
        served db (.createProject env actor payload) =
          step db (.createProject env actor payload) := by
  refine (after_gated (requirePermission "project:own") actor _ db
    (fun passed opened => ((requirePermission_ok _ _ _).mp opened).2)).imp_right ?_
  rintro ⟨⟨passed, opened⟩, handled⟩
  exact ⟨((requirePermission_ok _ _ _).mp opened).1, handled⟩

inductive ServedChange (db : ProjectDb) : Call → ProjectDb → Prop
  | unchanged (call : Call) : ServedChange db call db
  | created (env : ProjectEnv) (actor : User) (payload : ProjectCreateRequest)
      (owner : actor.isSuperuser = true ∨ hasPermission "project:own" actor = true) :
      ServedChange db (.createProject env actor payload) (created env actor payload db)
  | written (request : Request) (project : Project) (passed : request.Passed db project)
      (entitled : request.operation.Entitles request.actor project) :
      ServedChange db (.request request) (request.written project db)

theorem served_change (db : ProjectDb) (call : Call) : ServedChange db call (served db call) := by
  have change := step_change db call
  cases call with
  | createProject env actor payload =>
      rcases served_create env actor payload db with same | ⟨owner, handled⟩
      · rw [same]
        exact .unchanged _
      · rw [handled]
        generalize step db (.createProject env actor payload) = db' at change ⊢
        cases change with
        | unchanged => exact .unchanged _
        | created => exact .created env actor payload owner
  | request request =>
      rcases served_request request db with same | ⟨opened, handled⟩
      · rw [same]
        exact .unchanged _
      · rw [handled]
        generalize step db (.request request) = db' at change ⊢
        cases change with
        | unchanged => exact .unchanged _
        | written _ project passed free =>
            exact .written request project passed
              ((entitles_iff _ _ _).mp ⟨opened, passed.scope⟩)

end Gates

/-- Somebody entitled to it in this project made a request that fits. -/
def Made (calls : List Call) (projectId : Nat) (project : Project) (fits : Request → Prop) :
    Prop :=
  ∃ request, .request request ∈ calls ∧ request.projectId = projectId ∧
    request.operation.Entitles request.actor project ∧ fits request

def Applied (calls : List Call) (project : Project) : Prop :=
  ∃ env actor payload, .createProject env actor payload ∈ calls ∧
    (actor.isSuperuser = true ∨ hasPermission "project:own" actor = true) ∧
    actor.id = project.applicantUserId ∧
    payload.assignedReviewerUserId = project.assignedReviewerUserId

def Operation.Rejects : Operation → Prop
  | .rejectProject _ => True
  | _ => False

/-- Whoever the records of a project name had been let do what they say. -/
structure Signed (calls : List Call) (db : ProjectDb) (projectId : Nat) (project : Project) :
    Prop where
  applied : Applied calls project
  reviewed : ∀ reviewer, project.reviewedByUserId = some reviewer →
    Made calls projectId project
      (fun request => request.operation.Rejects ∧ request.actor.id = reviewer)
  submitted : ∀ version ∈ db.projectVersions.rows, version.projectId = projectId →
    Made calls projectId project (fun request => request.operation.submits = true ∧
      request.actor.id = version.submittedByUserId)
  audited : ∀ log ∈ db.auditLogs.rows, log.entityId = projectId →
    log.action = "project.create" ∧ log.actorUserId = some project.applicantUserId ∨
      Made calls projectId project (fun request =>
        request.operation.action = log.action ∧ log.actorUserId = some request.actor.id)

structure Authored (calls : List Call) (db : ProjectDb) : Prop where
  signed : ∀ projectId project, db.projects.get? projectId = some project →
    Signed calls db projectId project
  versions : ∀ version ∈ db.projectVersions.rows, version.projectId < db.projects.nextKey
  logs : ∀ log ∈ db.auditLogs.rows, log.entityId < db.projects.nextKey

section Signatures

variable (calls : List Call)

theorem entitles_congr (operation : Operation) (actor : User) (project project' : Project)
    (applicant : project'.applicantUserId = project.applicantUserId)
    (assigned : project'.assignedReviewerUserId = project.assignedReviewerUserId)
    (entitled : operation.Entitles actor project) : operation.Entitles actor project' := by
  cases operation <;> simpa only [Operation.Entitles, applicant, assigned] using entitled

theorem made_congr (projectId : Nat) (project project' : Project) (fits : Request → Prop)
    (applicant : project'.applicantUserId = project.applicantUserId)
    (assigned : project'.assignedReviewerUserId = project.assignedReviewerUserId)
    (made : Made calls projectId project fits) : Made calls projectId project' fits := by
  obtain ⟨request, member, here, entitled, fit⟩ := made
  exact ⟨request, member, here,
    entitles_congr _ _ project project' applicant assigned entitled, fit⟩

theorem authored_created (db : ProjectDb) (env : ProjectEnv) (actor : User)
    (payload : ProjectCreateRequest) (member : .createProject env actor payload ∈ calls)
    (owner : actor.isSuperuser = true ∨ hasPermission "project:own" actor = true)
    (authored : Authored calls db) : Authored calls (created env actor payload db) := by
  have grows : (created env actor payload db).projects.nextKey = db.projects.nextKey + 1 :=
    Table.nextKey_insert _ _
  have logged (holds : ImmutableAuditLog → Prop) :
      (∀ log ∈ (created env actor payload db).auditLogs.rows, holds log) ↔
        (∀ log ∈ db.auditLogs.rows, holds log) ∧ holds ⟨some actor.id, "project.create", "project",
          db.projects.nextKey, .projectCreate .draft⟩ := Table.forall_rows_insert _ _ holds
  constructor
  · intro projectId project present
    rw [created_row] at present
    split at present
    · rename_i fresh
      obtain rfl := Option.some.inj present
      constructor
      · exact ⟨env, actor, payload, member, owner, rfl, rfl⟩
      · intro reviewer named
        cases named
      · intro version inside here
        have bound := authored.versions version inside
        omega
      · rw [logged]
        refine ⟨fun log inside here => ?_, fun _ => .inl ⟨rfl, rfl⟩⟩
        have bound := authored.logs log inside
        omega
    · rename_i older
      have signed := authored.signed projectId project present
      refine ⟨signed.applied, signed.reviewed, signed.submitted, ?_⟩
      rw [logged]
      exact ⟨signed.audited, fun here => absurd here.symm older⟩
  · intro version inside
    have bound := authored.versions version inside
    omega
  · rw [logged]
    refine ⟨fun log inside => ?_, ?_⟩
    · have bound := authored.logs log inside
      omega
    · rw [grows]
      exact Nat.lt_succ_self _

theorem flushed_reviewer (request : Request) (loaded : Project) (reviewer : Nat)
    (named : (request.flushed loaded loaded).reviewedByUserId = some reviewer) :
    loaded.reviewedByUserId = some reviewer ∨
      request.operation.Rejects ∧ request.actor.id = reviewer := by
  obtain ⟨time, flushed⟩ := flushed_loaded request loaded
  rw [flushed] at named
  obtain ⟨env, actor, projectId, operation⟩ := request
  cases operation with
  | editProject payload => exact .inl named
  | submitProjectForReview payload => cases named
  | rejectProject payload => exact .inr ⟨trivial, Option.some.inj named⟩
  | resubmitProject payload => cases named
  | deactivateProject payload => exact .inl named

theorem written_versions (request : Request) (loaded : Project) (db : ProjectDb)
    (version : ProjectVersion) (member : version ∈ (request.written loaded db).projectVersions.rows) :
    version ∈ db.projectVersions.rows ∨ request.operation.submits = true ∧
      version.projectId = request.projectId ∧ version.submittedByUserId = request.actor.id := by
  rw [Request.written] at member
  cases submits : request.operation.submits with
  | false =>
      rw [submits] at member
      exact .inl member
  | true =>
      rw [submits] at member
      rcases List.mem_append.mp member with old | new
      · exact .inl old
      · rw [List.mem_singleton.mp new]
        exact .inr ⟨rfl, rfl, rfl⟩

theorem authored_written (db : ProjectDb) (request : Request) (loaded : Project)
    (member : .request request ∈ calls) (passed : request.Passed db loaded)
    (entitled : request.operation.Entitles request.actor loaded) (authored : Authored calls db) :
    Authored calls (request.written loaded db) := by
  have keys : (request.written loaded db).projects.nextKey = db.projects.nextKey :=
    Table.nextKey_modify _ _ _
  have bound := (Table.get?_key _ _ _ passed.loaded).2
  have logged (holds : ImmutableAuditLog → Prop) :
      (∀ log ∈ (request.written loaded db).auditLogs.rows, holds log) ↔
        (∀ log ∈ db.auditLogs.rows, holds log) ∧ holds ⟨some request.actor.id,
          request.operation.action, "project", request.projectId,
          request.operation.details loaded⟩ := Table.forall_rows_insert _ _ holds
  constructor
  · intro projectId project present
    rw [written_row request loaded loaded db passed.loaded] at present
    split at present
    · rename_i here
      obtain rfl := Option.some.inj present
      subst here
      obtain ⟨applicant, assigned⟩ := flushed_scope request loaded loaded
      have signed := authored.signed request.projectId loaded passed.loaded
      have kept (fits : Request → Prop) (made : Made calls request.projectId loaded fits) :
          Made calls request.projectId (request.flushed loaded loaded) fits :=
        made_congr calls _ loaded _ fits applicant assigned made
      have now (fits : Request → Prop) (fit : fits request) :
          Made calls request.projectId (request.flushed loaded loaded) fits :=
        kept fits ⟨request, member, rfl, entitled, fit⟩
      constructor
      · rw [Applied, applicant, assigned]
        exact signed.applied
      · intro reviewer named
        rcases flushed_reviewer request loaded reviewer named with old | rejects
        · exact kept _ (signed.reviewed reviewer old)
        · exact now _ rejects
      · intro version inside here
        rcases written_versions request loaded db version inside with old | ⟨submits, _, author⟩
        · exact kept _ (signed.submitted version old here)
        · exact now _ ⟨submits, author.symm⟩
      · rw [logged]
        refine ⟨fun log inside here => ?_, fun _ => .inr (now _ ⟨rfl, rfl⟩)⟩
        rw [applicant]
        exact (signed.audited log inside here).imp_right (kept _)
    · rename_i elsewhere
      have signed := authored.signed projectId project present
      refine ⟨signed.applied, signed.reviewed, fun version inside here => ?_, ?_⟩
      · rcases written_versions request loaded db version inside with old | ⟨_, target, _⟩
        · exact signed.submitted version old here
        · exact absurd (here.symm.trans target) elsewhere
      · rw [logged]
        exact ⟨signed.audited, fun here => absurd here.symm elsewhere⟩
  · intro version inside
    rw [keys]
    rcases written_versions request loaded db version inside with old | ⟨_, target, _⟩
    · exact authored.versions version old
    · rw [target]
      exact bound
  · rw [logged, keys]
    exact ⟨authored.logs, bound⟩

theorem served_authored (db : ProjectDb) (call : Call) (authored : Authored calls db)
    (member : call ∈ calls) : Authored calls (served db call) := by
  have change := served_change db call
  generalize served db call = db' at change ⊢
  cases change with
  | unchanged => exact authored
  | created env actor payload owner =>
      exact authored_created calls db env actor payload member owner authored
  | written request loaded passed entitled =>
      exact authored_written calls db request loaded member passed entitled authored

theorem servedAll_authored (userIds : List Nat) : Authored calls (servedAll userIds calls) := by
  refine Runs.run_preserves_along served (Authored calls) (fun _ call => call ∈ calls)
    (served_authored calls) (ProjectDb.start userIds) calls ?_ ⟨?_, ?_, ?_⟩
  · rw [Runs.along_calls]
    exact fun call member => member
  · intro projectId project present
    cases projectId <;> cases present
  · intro version member
    cases member
  · intro log member
    cases member

end Signatures

/-- After any run of requests, by anybody, every review, version and audit row of a project names
somebody whose request passed both the gate of its endpoint and the scope of that project: only
users with `project:own` apply and submit, and nobody but a superuser or a manager reviews a
project of their own, or one that was assigned to somebody else. A request of others changes
nothing. -/
theorem records_name_entitled (userIds : List Nat) (calls : List Call) :
    Authored calls (servedAll userIds calls) ∧
    ∀ (request : Request) (project : Project),
      (servedAll userIds calls).projects.get? request.projectId = some project →
      ¬ request.operation.Entitles request.actor project →
      served (servedAll userIds calls) (.request request) = servedAll userIds calls := by
  refine ⟨servedAll_authored calls userIds, fun request project present stranger => ?_⟩
  have change := served_change (servedAll userIds calls) (.request request)
  generalize served (servedAll userIds calls) (.request request) = db' at change ⊢
  cases change with
  | unchanged => rfl
  | written _ loaded passed entitled =>
      obtain rfl := Option.some.inj (present.symm.trans passed.loaded)
      exact absurd entitled stranger

end RetailApp.Projects
