import RetailApp.Projects.Calls

/-! What every run keeps of a project and its versions: the versions are numbered without a
gap, a submitted project is frozen at its last snapshot, and a deactivated one for good. -/

namespace RetailApp

/-- The columns an applicant fills in. -/
structure Content where
  name : String
  category : String
  description : String
  contactPhoneEncrypted : Option String
  deriving DecidableEq

def Snapshot.content (snapshot : Snapshot) : Content where
  name := snapshot.name
  category := snapshot.category
  description := snapshot.description
  contactPhoneEncrypted := snapshot.contactPhoneEncrypted

def Project.content (project : Project) : Content := (snapshotPayload project).content

namespace Projects

open Transaction

def versionsOf (db : ProjectDb) (projectId : Nat) : List ProjectVersion :=
  db.projectVersions.rows.filter (fun row => row.projectId == projectId)

def Numbered (versions : List ProjectVersion) (project : Project) : Prop :=
  versions.map (·.versionNo) = List.range' 1 project.currentVersion

def Unreviewed (project : Project) : Prop :=
  project.rejectionReason = none ∧ project.reviewedByUserId = none ∧ project.reviewedAt = none

def Reviewed (project : Project) : Prop :=
  project.rejectionReason ≠ none ∧ project.reviewedByUserId ≠ none ∧ project.reviewedAt ≠ none

structure Lifecycle (versions : List ProjectVersion) (project : Project) : Prop where
  numbered : Numbered versions project
  draft : project.status = .draft → project.currentVersion = 0
  submitted : project.status = .submitted → Unreviewed project ∧
    ∃ version ∈ versions, version.versionNo = project.currentVersion ∧
      version.snapshotJson.content = project.content
  rejected : project.status = .rejected → 1 ≤ project.currentVersion ∧ Reviewed project
  active : project.isActive = false ↔ project.status = .deactivated

def Owned (db : ProjectDb) : Prop :=
  ∀ version ∈ db.projectVersions.rows, version.projectId < db.projects.nextKey

structure Kept (db : ProjectDb) : Prop where
  owned : Owned db
  each : ∀ projectId project, db.projects.get? projectId = some project →
    Lifecycle (versionsOf db projectId) project

theorem versionsOf_fresh (db : ProjectDb) (owned : Owned db) :
    versionsOf db db.projects.nextKey = [] := by
  rw [versionsOf, List.filter_eq_nil_iff]
  intro version member
  have bound := owned version member
  simpa using bound.ne

theorem versionsOf_written (request : Request) (loaded : Project) (db : ProjectDb)
    (projectId : Nat) :
    versionsOf (request.written loaded db) projectId =
      if request.operation.submits = true ∧ projectId = request.projectId then
        versionsOf db projectId ++ [request.version loaded db]
      else versionsOf db projectId := by
  cases submits : request.operation.submits with
  | false => simp [versionsOf, Request.written, submits]
  | true =>
      have owner : (request.version loaded db).projectId = request.projectId := rfl
      by_cases here : projectId = request.projectId
      · simp [versionsOf, Request.written, submits, Table.insert, owner, here]
      · simp [versionsOf, Request.written, submits, Table.insert, owner, here, Ne.symm here]

theorem owned_written (request : Request) (loaded : Project) (db : ProjectDb) (owned : Owned db)
    (bound : request.projectId < db.projects.nextKey) : Owned (request.written loaded db) := by
  intro version member
  have same : (request.written loaded db).projects.nextKey = db.projects.nextKey :=
    Table.nextKey_modify _ _ _
  rw [same]
  cases submits : request.operation.submits with
  | false =>
      simp only [Request.written, submits, Bool.false_eq_true, if_false] at member
      exact owned version member
  | true =>
      simp only [Request.written, submits, if_true, Table.insert, List.mem_append,
        List.mem_singleton] at member
      rcases member with old | rfl
      · exact owned version old
      · exact bound

theorem flush_loaded (now : Time) (loaded assigned : Project) :
    Project.flush now loaded assigned loaded =
      { assigned with
        updatedAt := if assigned = loaded then loaded.updatedAt else now } := by
  simp [Project.flush]

theorem flushed_loaded (request : Request) (loaded : Project) :
    ∃ time, request.flushed loaded loaded = { request.assigned loaded with updatedAt := time } :=
  ⟨_, flush_loaded request.env.now loaded (request.assigned loaded)⟩

theorem flushed_currentVersion (request : Request) (loaded current : Project) :
    (request.flushed loaded current).currentVersion =
      if request.operation.submits then loaded.currentVersion + 1
      else current.currentVersion := by
  obtain ⟨env, actor, projectId, operation⟩ := request
  cases operation <;> simp [Request.flushed, Request.assigned, Operation.submits, Project.flush,
    editedProject, submittedProject, rejectedProject, deactivatedProject, changed]

theorem free_iff (request : Request) (loaded current : Project) (db : ProjectDb)
    (numbered : Numbered (versionsOf db request.projectId) current)
    (submits : request.operation.submits = true) :
    request.Free loaded db ↔ current.currentVersion ≤ loaded.currentVersion := by
  have taken : versionTaken db request.projectId (loaded.currentVersion + 1) = true ↔
      loaded.currentVersion + 1 ∈ List.range' 1 current.currentVersion := by
    rw [← numbered]
    simp [versionTaken, versionsOf, and_assoc]
  rw [List.mem_range'_1] at taken
  rw [Request.Free, ← Bool.not_eq_true, taken]
  constructor
  · intro free
    have outside := free submits
    omega
  · intro bound _
    omega

theorem numbered_bound (versions : List ProjectVersion) (project : Project)
    (numbered : Numbered versions project) (version : ProjectVersion) (member : version ∈ versions) :
    1 ≤ version.versionNo ∧ version.versionNo ≤ project.currentVersion := by
  have inside : version.versionNo ∈ List.range' 1 project.currentVersion := by
    rw [← numbered]
    exact List.mem_map_of_mem member
  have bounds := List.mem_range'_1.mp inside
  omega

theorem latestVersion_numbered (db : ProjectDb) (projectId : Nat) (project : Project)
    (numbered : Numbered (versionsOf db projectId) project) (version : ProjectVersion) :
    latestVersion db projectId = some version ↔
      version ∈ versionsOf db projectId ∧ version.versionNo = project.currentVersion := by
  have distinct : ((versionsOf db projectId).map (·.versionNo)).Nodup := by
    rw [numbered]
    exact List.nodup_range'
  have current (other : ProjectVersion) (member : other ∈ versionsOf db projectId) :
      ∃ last ∈ versionsOf db projectId, last.versionNo = project.currentVersion := by
    have bound := numbered_bound _ project numbered other member
    have inside : project.currentVersion ∈ (versionsOf db projectId).map (·.versionNo) := by
      rw [numbered, List.mem_range'_1]
      omega
    exact List.mem_map.mp inside
  constructor
  · intro latest
    have member := List.argmax_mem (Option.mem_def.mpr latest)
    obtain ⟨last, inside, number⟩ := current version member
    have most : last.versionNo ≤ version.versionNo :=
      List.le_of_mem_argmax inside (Option.mem_def.mpr latest)
    have bound := (numbered_bound _ project numbered version member).2
    exact ⟨member, bound.antisymm (number ▸ most)⟩
  · rintro ⟨member, number⟩
    cases latest : latestVersion db projectId with
    | none =>
        rw [latestVersion, List.argmax_eq_none] at latest
        rw [versionsOf, latest] at member
        cases member
    | some found =>
        have inside := List.argmax_mem (Option.mem_def.mpr latest)
        have most : version.versionNo ≤ found.versionNo :=
          List.le_of_mem_argmax member (Option.mem_def.mpr latest)
        have bound := (numbered_bound _ project numbered found inside).2
        have same : found.versionNo = version.versionNo := by omega
        exact congrArg some (List.inj_on_of_nodup_map distinct inside member same)

theorem numbered_append (versions : List ProjectVersion) (version : ProjectVersion)
    (project : Project) (numbered : Numbered versions project)
    (next : version.versionNo = project.currentVersion + 1) :
    (versions ++ [version]).map (·.versionNo) = List.range' 1 (project.currentVersion + 1) := by
  rw [List.map_append, numbered, List.range'_1_concat, List.map_cons, List.map_nil, next,
    Nat.add_comm]

theorem numbered_written (request : Request) (loaded current : Project) (db : ProjectDb)
    (numbered : Numbered (versionsOf db request.projectId) current)
    (stale : loaded.currentVersion ≤ current.currentVersion) (free : request.Free loaded db) :
    Numbered (versionsOf (request.written loaded db) request.projectId)
      (request.flushed loaded current) := by
  rw [Numbered, versionsOf_written, flushed_currentVersion]
  cases submits : request.operation.submits with
  | false => simpa [Numbered] using numbered
  | true =>
      have bound := (free_iff request loaded current db numbered submits).mp free
      have same : loaded.currentVersion = current.currentVersion := stale.antisymm bound
      rw [if_pos ⟨rfl, rfl⟩, if_pos rfl, same]
      apply numbered_append _ _ current numbered
      rw [← same]
      rfl

theorem lifecycle_stamped (versions : List ProjectVersion) (project : Project) (time : Time)
    (kept : Lifecycle versions project) :
    Lifecycle versions { project with updatedAt := time } :=
  ⟨kept.numbered, kept.draft, kept.submitted, kept.rejected, kept.active⟩

theorem lifecycle_new (env : ProjectEnv) (actor : User) (payload : ProjectCreateRequest) :
    Lifecycle [] (newProject env actor payload) := by
  constructor
  · rfl
  · exact fun _ => rfl
  · exact fun submitted => ProjectStatus.noConfusion submitted
  · exact fun rejected => ProjectStatus.noConfusion rejected
  · exact iff_of_false Bool.noConfusion ProjectStatus.noConfusion

theorem lifecycle_edited (env : ProjectEnv) (payload : ProjectEditRequest)
    (versions : List ProjectVersion) (project : Project) (kept : Lifecycle versions project)
    (admits : project.status = .draft ∨ project.status = .rejected) :
    Lifecycle versions (editedProject env payload project) := by
  refine ⟨kept.numbered, kept.draft, ?_, kept.rejected, kept.active⟩
  intro submitted
  have still : project.status = .submitted := submitted
  rcases admits with draft | rejected
  · cases draft.symm.trans still
  · cases rejected.symm.trans still

theorem lifecycle_submitted (versions : List ProjectVersion) (version : ProjectVersion)
    (project : Project) (kept : Lifecycle versions project) (live : project.status ≠ .deactivated)
    (next : version.versionNo = project.currentVersion + 1)
    (frozen : version.snapshotJson = snapshotPayload project) :
    Lifecycle (versions ++ [version]) (submittedProject project (project.currentVersion + 1)) := by
  constructor
  · exact numbered_append versions version project kept.numbered next
  · exact fun draft => ProjectStatus.noConfusion draft
  · intro _
    have same : version.snapshotJson.content = project.content := by rw [frozen, Project.content]
    exact ⟨⟨rfl, rfl, rfl⟩, version, List.mem_append_right _ (List.mem_singleton.mpr rfl), next, same⟩
  · exact fun rejected => ProjectStatus.noConfusion rejected
  · exact iff_of_false (fun inactive => live (kept.active.mp inactive)) ProjectStatus.noConfusion

theorem lifecycle_rejected (env : ProjectEnv) (actor : User) (payload : ProjectRejectRequest)
    (versions : List ProjectVersion) (project : Project) (kept : Lifecycle versions project)
    (admits : project.status = .submitted) :
    Lifecycle versions (rejectedProject env actor payload project) := by
  obtain ⟨_, version, member, number, _⟩ := kept.submitted admits
  have bound := numbered_bound versions project kept.numbered version member
  have live : project.isActive ≠ false := by
    intro inactive
    cases admits.symm.trans (kept.active.mp inactive)
  constructor
  · exact kept.numbered
  · exact fun draft => ProjectStatus.noConfusion draft
  · exact fun submitted => ProjectStatus.noConfusion submitted
  · intro _
    exact ⟨number ▸ bound.1, Option.some_ne_none _, Option.some_ne_none _, Option.some_ne_none _⟩
  · exact iff_of_false live ProjectStatus.noConfusion

theorem lifecycle_deactivated (versions : List ProjectVersion) (project : Project)
    (kept : Lifecycle versions project) : Lifecycle versions (deactivatedProject project) := by
  constructor
  · exact kept.numbered
  · exact fun draft => ProjectStatus.noConfusion draft
  · exact fun submitted => ProjectStatus.noConfusion submitted
  · exact fun rejected => ProjectStatus.noConfusion rejected
  · exact iff_of_true rfl rfl

theorem admits_live (operation : Operation) (status : ProjectStatus)
    (admits : operation.Admits status) : status ≠ .deactivated := by
  rintro rfl
  cases operation <;> simp [Operation.Admits] at admits

theorem lifecycle_written (request : Request) (db : ProjectDb) (project : Project)
    (passed : request.Passed db project)
    (kept : Lifecycle (versionsOf db request.projectId) project) :
    Lifecycle (versionsOf (request.written project db) request.projectId)
      (request.flushed project project) := by
  obtain ⟨time, row⟩ := flushed_loaded request project
  have admits := passed.admits
  have live := admits_live request.operation project.status admits
  rw [versionsOf_written, row]
  apply lifecycle_stamped
  obtain ⟨env, actor, projectId, operation⟩ := request
  cases operation with
  | editProject payload => exact lifecycle_edited env payload _ project kept admits
  | submitProjectForReview payload =>
      rw [if_pos ⟨rfl, rfl⟩]
      exact lifecycle_submitted _ _ project kept live rfl rfl
  | rejectProject payload => exact lifecycle_rejected env actor payload _ project kept admits
  | resubmitProject payload =>
      rw [if_pos ⟨rfl, rfl⟩]
      exact lifecycle_submitted _ _ project kept live rfl rfl
  | deactivateProject payload => exact lifecycle_deactivated _ project kept

theorem created_row (env : ProjectEnv) (actor : User) (payload : ProjectCreateRequest)
    (db : ProjectDb) (projectId : Nat) :
    (created env actor payload db).projects.get? projectId =
      if projectId = db.projects.nextKey then some (newProject env actor payload)
      else db.projects.get? projectId := Table.get?_insert _ _ _

theorem step_kept (db : ProjectDb) (call : Call) (kept : Kept db) : Kept (step db call) := by
  have change := step_change db call
  generalize step db call = db' at change ⊢
  cases change with
  | unchanged => exact kept
  | created env actor payload =>
      constructor
      · intro version member
        have grows : (created env actor payload db).projects.nextKey = db.projects.nextKey + 1 :=
          Table.nextKey_insert _ _
        have bound := kept.owned version member
        omega
      · intro projectId project present
        rw [created_row] at present
        split at present
        · rename_i fresh
          have none : versionsOf (created env actor payload db) projectId = [] := by
            rw [fresh]
            exact versionsOf_fresh db kept.owned
          rw [none, ← Option.some.inj present]
          exact lifecycle_new env actor payload
        · exact kept.each projectId project present
  | written request loaded passed free =>
      have bound := (Table.get?_key _ _ _ passed.loaded).2
      constructor
      · exact owned_written request loaded db kept.owned bound
      · intro projectId project present
        rw [written_row request loaded loaded db passed.loaded] at present
        split at present
        · rename_i here
          rw [here, ← Option.some.inj present]
          exact lifecycle_written request db loaded passed (kept.each _ loaded passed.loaded)
        · rename_i elsewhere
          rw [versionsOf_written, if_neg (fun both => elsewhere both.2)]
          exact kept.each projectId project present

theorem step_passed (request : Request) (db : ProjectDb) (project : Project) (kept : Kept db)
    (passed : request.Passed db project) :
    step db (.request request) = request.written project db := by
  have free : request.Free project db := by
    intro submits
    have numbered := (kept.each _ project passed.loaded).numbered
    exact (free_iff request project project db numbered submits).mpr le_rfl submits
  have returned := commit_free request project project db passed.loaded free
  apply after_ok _ _ _ _ (Eq.trans _ returned)
  rw [session_eq, (read_planned request db project).mpr passed]

theorem start_kept (userIds : List Nat) : Kept (ProjectDb.start userIds) := by
  constructor
  · intro version member
    cases member
  · intro projectId project present
    have absent : (ProjectDb.start userIds).projects.get? projectId = none := Table.get?_empty _
    cases absent.symm.trans present

theorem run_kept (userIds : List Nat) (calls : List Call) :
    Kept (run (ProjectDb.start userIds) calls) :=
  Runs.run_preserves step Kept step_kept _ calls (start_kept userIds)

theorem step_version (db : ProjectDb) (call : Call) (versionId : Nat) (version : ProjectVersion)
    (present : db.projectVersions.get? versionId = some version) :
    (step db call).projectVersions.get? versionId = some version := by
  have change := step_change db call
  generalize step db call = db' at change ⊢
  cases change with
  | unchanged => exact present
  | created env actor payload => exact present
  | written request loaded passed free =>
      rw [Request.written]
      split
      · exact Table.get?_insert_of_some _ _ _ _ present
      · exact present

theorem step_deactivated (db : ProjectDb) (call : Call) (projectId : Nat) (project : Project)
    (present : db.projects.get? projectId = some project)
    (deactivated : project.status = .deactivated) :
    (step db call).projects.get? projectId = some project ∧
      versionsOf (step db call) projectId = versionsOf db projectId := by
  have change := step_change db call
  generalize step db call = db' at change ⊢
  cases change with
  | unchanged => exact ⟨present, rfl⟩
  | created env actor payload => exact ⟨Table.get?_insert_of_some _ _ _ _ present, rfl⟩
  | written request loaded passed free =>
      have elsewhere : projectId ≠ request.projectId := by
        rintro rfl
        obtain rfl := Option.some.inj (present.symm.trans passed.loaded)
        exact admits_live request.operation _ passed.admits deactivated
      rw [written_row request loaded loaded db passed.loaded, if_neg elsewhere, versionsOf_written,
        if_neg (fun both => elsewhere both.2)]
      exact ⟨present, rfl⟩

/-- Every project of every run keeps its lifecycle; versions stay as they are, and so does a
project once it is deactivated. -/
theorem lifecycle_of_run (userIds : List Nat) (calls more : List Call) (projectId : Nat)
    (project : Project)
    (present : (run (ProjectDb.start userIds) calls).projects.get? projectId = some project) :
    Lifecycle (versionsOf (run (ProjectDb.start userIds) calls) projectId) project ∧
      (∀ versionId version,
        (run (ProjectDb.start userIds) calls).projectVersions.get? versionId = some version →
        (run (ProjectDb.start userIds) (calls ++ more)).projectVersions.get? versionId =
          some version) ∧
      (project.status = .deactivated →
        (run (ProjectDb.start userIds) (calls ++ more)).projects.get? projectId = some project ∧
          versionsOf (run (ProjectDb.start userIds) (calls ++ more)) projectId =
            versionsOf (run (ProjectDb.start userIds) calls) projectId) := by
  rw [run, run, Runs.run_append]
  refine ⟨(run_kept userIds calls).each projectId project present, ?_, ?_⟩
  · intro versionId version found
    exact Runs.run_preserves step (fun db => db.projectVersions.get? versionId = some version)
      (fun db call => step_version db call versionId version) _ more found
  · intro deactivated
    refine Runs.run_preserves step (fun db => db.projects.get? projectId = some project ∧
      versionsOf db projectId = versionsOf (run (ProjectDb.start userIds) calls) projectId) ?_ _
      more ⟨present, rfl⟩
    rintro db call ⟨still, versions⟩
    obtain ⟨next, same⟩ := step_deactivated db call projectId project still deactivated
    exact ⟨next, same.trans versions⟩

def soapMaker : User := ⟨1, false, []⟩

def soapReviewer : User := ⟨2, false, [⟨[⟨"project:review"⟩]⟩]⟩

/-- A run at one time, with an encryption that shows what it hides. -/
def labelled (now : Time) : ProjectEnv := ⟨now, fun text => "encrypted " ++ text⟩

def soap : ProjectCreateRequest where
  name := ⟨"Soap", by decide⟩
  category := ⟨"craft", by decide⟩
  description := ⟨"Soap from local oil", by decide⟩
  contactPhone := some "555"
  assignedReviewerUserId := none

def soapSubmitted : List Call :=
  [.createProject (labelled 0) soapMaker soap,
    .request ⟨labelled 1, soapMaker, 1, .submitProjectForReview ⟨none⟩⟩]

def soapDeactivated : List Call :=
  soapSubmitted ++
    [.request ⟨labelled 2, soapMaker, 1, .deactivateProject ⟨⟨"out of oil", by decide⟩⟩⟩]

def submittedSoap : Project :=
  { newProject (labelled 0) soapMaker soap with
    status := .submitted
    currentVersion := 1
    updatedAt := 1 }

def closedSoap : Project :=
  { submittedSoap with
    status := .deactivated
    isActive := false
    updatedAt := 2 }

theorem closedSoap_lifecycle :
    Lifecycle (versionsOf (run (ProjectDb.start []) soapDeactivated) 1) closedSoap ∧
      (run (ProjectDb.start []) (soapDeactivated ++ soapSubmitted)).projects.get? 1 =
        some closedSoap := by
  have kept := lifecycle_of_run [] soapDeactivated soapSubmitted 1 closedSoap rfl
  exact ⟨kept.1, (kept.2.2 rfl).1⟩

end Projects

end RetailApp
