import RetailApp.Library.TwoStep
import RetailApp.Projects.Lifecycle

/-! Requests on projects that race: each checks a row it loaded earlier and then writes only the
columns it changed. The unique version numbers stop one submission behind another, and nothing
else; when do the guards of the lifecycle hold all the same? -/

namespace RetailApp.Projects

open Protocol Transaction

structure Plan where
  request : Request
  loaded : Project

def backend : Protocol Request ProjectDb Raised ProjectResponse Plan where
  read := fun request db => (request.read db).map (Sum.map id (Plan.mk request))
  commit := fun plan => plan.request.commit plan.loaded

abbrev Requests := World Request ProjectDb ProjectResponse Plan

def Deactivated (projectId : Nat) (world : Requests) : Prop :=
  ∃ project, world.tables.projects.get? projectId = some project ∧ project.status = .deactivated

/-- Submitted content is that of the latest version. -/
def FrozenAt (db : ProjectDb) (projectId : Nat) (project : Project) : Prop :=
  project.status = .submitted → ∃ version, latestVersion db projectId = some version ∧
    version.snapshotJson.content = project.content

def Frozen (world : Requests) : Prop :=
  ∀ projectId project, world.tables.projects.get? projectId = some project →
    FrozenAt world.tables projectId project

/-- A column the request has changed already holds the value it is going to write. -/
def Harmless {α : Type} (loaded assigned current : α) : Prop :=
  assigned = loaded ∨ assigned = current

/-- What a commit has to find for the guards to hold after it: an edit that finds the project
submitted writes nothing new; a submission finds it not deactivated, with the content it
loaded; a rejection finds it not deactivated. -/
def Steady (plan : Plan) (current : Project) : Prop :=
  match plan.request.operation with
  | .editProject payload => current.status = .submitted →
      let assigned := editedProject plan.request.env payload plan.loaded
      Harmless plan.loaded.name assigned.name current.name ∧
        Harmless plan.loaded.category assigned.category current.category ∧
        Harmless plan.loaded.description assigned.description current.description ∧
        Harmless plan.loaded.contactPhoneEncrypted assigned.contactPhoneEncrypted
          current.contactPhoneEncrypted
  | .submitProjectForReview _ =>
      current.status ≠ .deactivated ∧ current.content = plan.loaded.content
  | .rejectProject _ => current.status ≠ .deactivated
  | .resubmitProject _ => current.status ≠ .deactivated ∧ current.content = plan.loaded.content
  | .deactivateProject _ => True

def SteadyEvent (world : Requests) : Event Request → Prop
  | .start _ => True
  | .finish position => ∀ request plan, world.inFlight[position]? = some (request, plan) →
      plan.request.Free plan.loaded world.tables →
      ∀ current, world.tables.projects.get? plan.request.projectId = some current →
        Steady plan current

/-- What every interleaving keeps: gapless versions, and plans that passed their checks on a
row which is still there, with at least as many versions. -/
structure Ground (world : Requests) : Prop where
  owned : Owned world.tables
  numbered : ∀ projectId project, world.tables.projects.get? projectId = some project →
    Numbered (versionsOf world.tables projectId) project
  plans : ∀ entry ∈ world.inFlight,
    entry.2.request.operation.Admits entry.2.loaded.status ∧
      ∃ current, world.tables.projects.get? entry.2.request.projectId = some current ∧
        entry.2.loaded.currentVersion ≤ current.currentVersion

theorem backend_planned (request : Request) (db : ProjectDb) (plan : Plan) :
    backend.read request db = .ok (.inr plan) ↔
      plan.request = request ∧ request.Passed db plan.loaded := by
  rw [← read_planned]
  have mapped : backend.read request db = (request.read db).map (Sum.map id (Plan.mk request)) := rfl
  rw [mapped, map_except_ok]
  constructor
  · rintro ⟨answer, read, same⟩
    cases answer with
    | inl response => cases same
    | inr loaded =>
        obtain rfl := Sum.inr.inj same
        exact ⟨rfl, read⟩
  · rintro ⟨rfl, read⟩
    exact ⟨.inr plan.loaded, read, rfl⟩

def Operation.lands (current : ProjectStatus) : Operation → ProjectStatus
  | .editProject _ => current
  | .submitProjectForReview _ => .submitted
  | .rejectProject _ => .rejected
  | .resubmitProject _ => .submitted
  | .deactivateProject _ => .deactivated

theorem flushed_status (request : Request) (loaded current : Project)
    (admits : request.operation.Admits loaded.status) :
    (request.flushed loaded current).status = request.operation.lands current.status := by
  obtain ⟨env, actor, projectId, operation⟩ := request
  cases operation with
  | editProject payload => exact changed_same _ _
  | submitProjectForReview payload =>
      apply if_neg
      rcases admits with draft | rejected
      · exact fun same => ProjectStatus.noConfusion (same.trans draft)
      · exact fun same => ProjectStatus.noConfusion (same.trans rejected)
  | rejectProject payload =>
      apply if_neg
      exact fun same => ProjectStatus.noConfusion (same.trans admits)
  | resubmitProject payload =>
      apply if_neg
      exact fun same => ProjectStatus.noConfusion (same.trans admits)
  | deactivateProject payload =>
      apply if_neg
      exact fun same => admits same.symm

theorem changed_eq_current {α : Type} [DecidableEq α] (loaded assigned current : α) :
    changed loaded assigned current = current ↔ Harmless loaded assigned current := by
  unfold changed Harmless
  by_cases same : assigned = loaded <;> simp [same]

theorem flushed_content (request : Request) (loaded current : Project)
    (reads : ∀ payload, request.operation ≠ .editProject payload) :
    (request.flushed loaded current).content = current.content := by
  obtain ⟨env, actor, projectId, operation⟩ := request
  cases operation with
  | editProject payload => exact (reads payload rfl).elim
  | submitProjectForReview payload =>
      simp [Request.flushed, Request.assigned, Project.flush, Project.content, snapshotPayload,
        Snapshot.content, submittedProject]
  | rejectProject payload =>
      simp [Request.flushed, Request.assigned, Project.flush, Project.content, snapshotPayload,
        Snapshot.content, rejectedProject]
  | resubmitProject payload =>
      simp [Request.flushed, Request.assigned, Project.flush, Project.content, snapshotPayload,
        Snapshot.content, submittedProject]
  | deactivateProject payload =>
      simp [Request.flushed, Request.assigned, Project.flush, Project.content, snapshotPayload,
        Snapshot.content, deactivatedProject]

theorem edited_content (now : Time) (loaded assigned current : Project) :
    (Project.flush now loaded assigned current).content = current.content ↔
      Harmless loaded.name assigned.name current.name ∧
        Harmless loaded.category assigned.category current.category ∧
        Harmless loaded.description assigned.description current.description ∧
        Harmless loaded.contactPhoneEncrypted assigned.contactPhoneEncrypted
          current.contactPhoneEncrypted := by
  simp only [Project.content, snapshotPayload, Snapshot.content, Project.flush, Content.mk.injEq,
    Subtype.val_inj, changed_eq_current]

theorem latestVersion_written (request : Request) (loaded : Project) (db : ProjectDb)
    (projectId : Nat)
    (apart : ¬ (request.operation.submits = true ∧ projectId = request.projectId)) :
    latestVersion (request.written loaded db) projectId = latestVersion db projectId := by
  have versions := versionsOf_written request loaded db projectId
  rw [if_neg apart] at versions
  exact congrArg (List.argmax (fun row : ProjectVersion => row.versionNo)) versions

theorem latestVersion_submitted (request : Request) (loaded current : Project) (db : ProjectDb)
    (submits : request.operation.submits = true)
    (numbered : Numbered (versionsOf db request.projectId) current)
    (stale : loaded.currentVersion ≤ current.currentVersion) (free : request.Free loaded db) :
    latestVersion (request.written loaded db) request.projectId =
      some (request.version loaded db) := by
  have next := numbered_written request loaded current db numbered stale free
  apply (latestVersion_numbered _ _ _ next _).mpr
  rw [versionsOf_written, if_pos ⟨submits, rfl⟩, flushed_currentVersion, submits, if_pos rfl]
  exact ⟨List.mem_append_right _ (List.mem_singleton.mpr rfl), rfl⟩

structure GuardedRow (written : ProjectDb) (projectId : Nat) (current row : Project) : Prop where
  stays : current.status = .deactivated → row.status = .deactivated
  frozen : FrozenAt written projectId row

theorem submission_steady (request : Request) (loaded current : Project) (db : ProjectDb)
    (submits : request.operation.submits = true)
    (numbered : Numbered (versionsOf db request.projectId) current)
    (stale : loaded.currentVersion ≤ current.currentVersion) (free : request.Free loaded db)
    (status : (request.flushed loaded current).status = .submitted)
    (content : (request.flushed loaded current).content = current.content) :
    GuardedRow (request.written loaded db) request.projectId current
        (request.flushed loaded current) ↔
      current.status ≠ .deactivated ∧ current.content = loaded.content := by
  have latest := latestVersion_submitted request loaded current db submits numbered stale free
  have snapshot : (request.version loaded db).snapshotJson.content = loaded.content := rfl
  constructor
  · rintro ⟨stays, frozen⟩
    obtain ⟨version, found, same⟩ := frozen status
    obtain rfl := Option.some.inj (found.symm.trans latest)
    refine ⟨?_, content.symm.trans (same.symm.trans snapshot)⟩
    intro gone
    cases (stays gone).symm.trans status
  · rintro ⟨live, same⟩
    refine ⟨fun gone => (live gone).elim, fun _ => ⟨_, latest, ?_⟩⟩
    rw [snapshot, content, same]

theorem edit_steady (env : ProjectEnv) (actor : User) (projectId : Nat)
    (payload : ProjectEditRequest) (loaded current : Project) (db : ProjectDb)
    (admits : loaded.status = .draft ∨ loaded.status = .rejected)
    (frozen : FrozenAt db projectId current) :
    GuardedRow (Request.written ⟨env, actor, projectId, .editProject payload⟩ loaded db) projectId
        current (Request.flushed ⟨env, actor, projectId, .editProject payload⟩ loaded current) ↔
      Steady ⟨⟨env, actor, projectId, .editProject payload⟩, loaded⟩ current := by
  have status := flushed_status ⟨env, actor, projectId, .editProject payload⟩ loaded current admits
  have latest := latestVersion_written ⟨env, actor, projectId, .editProject payload⟩ loaded db
    projectId (by simp [Operation.submits])
  have content := edited_content env.now loaded (editedProject env payload loaded) current
  have steady : Steady ⟨⟨env, actor, projectId, .editProject payload⟩, loaded⟩ current ↔
      (current.status = .submitted →
        (Request.flushed ⟨env, actor, projectId, .editProject payload⟩ loaded current).content =
          current.content) := imp_congr_right (fun _ => content.symm)
  rw [steady]
  constructor
  · rintro ⟨_, frozen'⟩ submitted
    obtain ⟨version, found, same⟩ := frozen submitted
    obtain ⟨version', found', same'⟩ := frozen' (status.trans submitted)
    rw [latest] at found'
    obtain rfl := Option.some.inj (found.symm.trans found')
    exact same'.symm.trans same
  · intro kept
    refine ⟨fun gone => status.trans gone, ?_⟩
    intro submitted
    have still : current.status = .submitted := status.symm.trans submitted
    obtain ⟨version, found, same⟩ := frozen still
    exact ⟨version, latest.trans found, same.trans (kept still).symm⟩

theorem commit_steady (plan : Plan) (current : Project) (db : ProjectDb)
    (numbered : Numbered (versionsOf db plan.request.projectId) current)
    (admits : plan.request.operation.Admits plan.loaded.status)
    (stale : plan.loaded.currentVersion ≤ current.currentVersion)
    (free : plan.request.Free plan.loaded db)
    (frozen : FrozenAt db plan.request.projectId current) :
    GuardedRow (plan.request.written plan.loaded db) plan.request.projectId current
        (plan.request.flushed plan.loaded current) ↔ Steady plan current := by
  have status := flushed_status plan.request plan.loaded current admits
  obtain ⟨⟨env, actor, projectId, operation⟩, loaded⟩ := plan
  cases operation with
  | editProject payload => exact edit_steady env actor projectId payload loaded current db admits frozen
  | submitProjectForReview payload =>
      exact submission_steady _ loaded current db rfl numbered stale free status
        (flushed_content _ loaded current (fun _ => Operation.noConfusion))
  | rejectProject payload =>
      constructor
      · rintro ⟨stays, _⟩ gone
        cases (stays gone).symm.trans status
      · intro live
        refine ⟨fun gone => (live gone).elim, ?_⟩
        intro submitted
        cases submitted.symm.trans status
  | resubmitProject payload =>
      exact submission_steady _ loaded current db rfl numbered stale free status
        (flushed_content _ loaded current (fun _ => Operation.noConfusion))
  | deactivateProject payload =>
      refine iff_of_true ⟨fun _ => status, ?_⟩ trivial
      intro submitted
      cases submitted.symm.trans status

theorem commit_ok (plan : Plan) (current : Project) (db db' : ProjectDb)
    (response : ProjectResponse)
    (present : db.projects.get? plan.request.projectId = some current)
    (outcome : backend.commit plan db = .ok response db') :
    plan.request.Free plan.loaded db ∧ db' = plan.request.written plan.loaded db := by
  have committed : plan.request.commit plan.loaded db = .ok response db' := outcome
  by_cases free : plan.request.Free plan.loaded db
  · have returned := commit_free plan.request plan.loaded current db present free
    obtain ⟨_, rfl⟩ := EStateM.Result.ok.inj (committed.symm.trans returned)
    exact ⟨free, rfl⟩
  · cases committed.symm.trans (commit_taken plan.request plan.loaded db free)

theorem commit_error (plan : Plan) (current : Project) (db db' : ProjectDb) (raised : Raised)
    (present : db.projects.get? plan.request.projectId = some current)
    (outcome : backend.commit plan db = .error raised db') :
    ¬ plan.request.Free plan.loaded db ∧ db' = db := by
  have committed : plan.request.commit plan.loaded db = .error raised db' := outcome
  by_cases free : plan.request.Free plan.loaded db
  · cases committed.symm.trans (commit_free plan.request plan.loaded current db present free)
  · have refused := commit_taken plan.request plan.loaded db free
    obtain ⟨_, rfl⟩ := EStateM.Result.error.inj (committed.symm.trans refused)
    exact ⟨free, rfl⟩

theorem written_ground (world : Requests) (ground : Ground world) (position : Nat) (plan : Plan)
    (answered : List (Request × ProjectResponse)) (current : Project)
    (present : world.tables.projects.get? plan.request.projectId = some current)
    (stale : plan.loaded.currentVersion ≤ current.currentVersion)
    (free : plan.request.Free plan.loaded world.tables) :
    Ground ⟨plan.request.written plan.loaded world.tables, world.inFlight.eraseIdx position,
      answered⟩ := by
  have rows := written_row plan.request plan.loaded current world.tables present
  have grown : current.currentVersion ≤
      (plan.request.flushed plan.loaded current).currentVersion := by
    rw [flushed_currentVersion]
    cases submits : plan.request.operation.submits with
    | false => exact le_rfl
    | true =>
        have bound := (free_iff plan.request plan.loaded current world.tables
          (ground.numbered _ current present) submits).mp free
        rw [if_pos rfl]
        omega
  constructor
  · exact owned_written plan.request plan.loaded world.tables ground.owned
      (Table.get?_key _ _ _ present).2
  · intro projectId project found
    rw [rows] at found
    split at found
    · rename_i here
      rw [here, ← Option.some.inj found]
      exact numbered_written plan.request plan.loaded current world.tables
        (ground.numbered _ current present) stale free
    · rename_i elsewhere
      rw [versionsOf_written, if_neg (fun both => elsewhere both.2)]
      exact ground.numbered projectId project found
  · intro entry member
    obtain ⟨admits, row, found, bound⟩ := ground.plans entry (List.mem_of_mem_eraseIdx member)
    refine ⟨admits, ?_⟩
    rw [rows]
    by_cases here : entry.2.request.projectId = plan.request.projectId
    · rw [here] at found
      obtain rfl := Option.some.inj (found.symm.trans present)
      exact ⟨_, if_pos here, bound.trans grown⟩
    · exact ⟨row, (if_neg here).trans found, bound⟩

theorem step_ground (world : Requests) (event : Event Request) (ground : Ground world) :
    Ground (backend.step world event) := by
  have stepped := backend.step_stepped world event
  generalize backend.committing world event = commits, backend.step world event = world'
    at stepped ⊢
  cases stepped with
  | refused request raised outcome => exact ground
  | answered request answer outcome => exact ⟨ground.owned, ground.numbered, ground.plans⟩
  | planned request plan outcome =>
      refine ⟨ground.owned, ground.numbered, ?_⟩
      intro entry member
      rcases List.mem_append.mp member with old | new
      · exact ground.plans entry old
      · obtain rfl := List.mem_singleton.mp new
        obtain ⟨rfl, passed⟩ := (backend_planned request world.tables plan).mp outcome
        exact ⟨passed.admits, plan.loaded, passed.loaded, le_rfl⟩
  | missing position entry => exact ground
  | raised position request plan raised tables entry outcome =>
      obtain ⟨_, current, present, _⟩ := ground.plans (request, plan) (List.mem_of_getElem? entry)
      obtain ⟨_, rfl⟩ := commit_error plan current world.tables tables raised present outcome
      exact ⟨ground.owned, ground.numbered,
        fun entry member => ground.plans entry (List.mem_of_mem_eraseIdx member)⟩
  | committed position request plan answer tables entry outcome =>
      obtain ⟨_, current, present, stale⟩ :=
        ground.plans (request, plan) (List.mem_of_getElem? entry)
      obtain ⟨free, rfl⟩ := commit_ok plan current world.tables tables answer present outcome
      exact written_ground world ground position plan _ current present stale free

theorem written_guarded (world : Requests) (frozen : Frozen world) (plan : Plan)
    (inFlight : List (Request × Plan)) (answered : List (Request × ProjectResponse))
    (current : Project)
    (present : world.tables.projects.get? plan.request.projectId = some current) :
    ((∀ projectId, Deactivated projectId world → Deactivated projectId
          ⟨plan.request.written plan.loaded world.tables, inFlight, answered⟩) ∧
        Frozen ⟨plan.request.written plan.loaded world.tables, inFlight, answered⟩) ↔
      GuardedRow (plan.request.written plan.loaded world.tables) plan.request.projectId current
        (plan.request.flushed plan.loaded current) := by
  have rows := written_row plan.request plan.loaded current world.tables present
  have own := rows plan.request.projectId
  rw [if_pos rfl] at own
  constructor
  · rintro ⟨stays, frozen'⟩
    refine ⟨?_, frozen' plan.request.projectId _ own⟩
    intro gone
    obtain ⟨row, found, still⟩ := stays plan.request.projectId ⟨current, present, gone⟩
    obtain rfl := Option.some.inj (own.symm.trans found)
    exact still
  · rintro ⟨stays, frozen'⟩
    constructor
    · rintro projectId ⟨project, found, gone⟩
      by_cases here : projectId = plan.request.projectId
      · rw [here] at found ⊢
        obtain rfl := Option.some.inj (found.symm.trans present)
        exact ⟨_, own, stays gone⟩
      · exact ⟨project, ((rows projectId).trans (if_neg here)).trans found, gone⟩
    · intro projectId project found
      have same := rows projectId
      by_cases here : projectId = plan.request.projectId
      · rw [here] at found ⊢
        obtain rfl := Option.some.inj (own.symm.trans found)
        exact frozen'
      · rw [if_neg here] at same
        intro submitted
        rw [latestVersion_written _ _ _ _ (fun both => here both.2)]
        exact frozen projectId project (same.symm.trans found) submitted

theorem event_steady (world : Requests) (event : Event Request) (ground : Ground world)
    (frozen : Frozen world) :
    ((∀ projectId, Deactivated projectId world →
          Deactivated projectId (backend.step world event)) ∧
        Frozen (backend.step world event)) ↔ SteadyEvent world event := by
  have stepped := backend.step_stepped world event
  generalize backend.committing world event = commits, backend.step world event = world'
    at stepped ⊢
  cases stepped with
  | refused request raised outcome => exact iff_of_true ⟨fun _ gone => gone, frozen⟩ trivial
  | answered request answer outcome => exact iff_of_true ⟨fun _ gone => gone, frozen⟩ trivial
  | planned request plan outcome => exact iff_of_true ⟨fun _ gone => gone, frozen⟩ trivial
  | missing position entry =>
      refine iff_of_true ⟨fun _ gone => gone, frozen⟩ ?_
      intro request plan other
      cases entry.symm.trans other
  | raised position request plan raised tables entry outcome =>
      obtain ⟨_, current, present, _⟩ := ground.plans (request, plan) (List.mem_of_getElem? entry)
      obtain ⟨taken, rfl⟩ := commit_error plan current world.tables tables raised present outcome
      refine iff_of_true ⟨fun _ gone => gone, frozen⟩ ?_
      intro request' plan' other free
      obtain ⟨_, rfl⟩ := Prod.mk.inj (Option.some.inj (entry.symm.trans other))
      exact (taken free).elim
  | committed position request plan answer tables entry outcome =>
      obtain ⟨admits, current, present, stale⟩ :=
        ground.plans (request, plan) (List.mem_of_getElem? entry)
      obtain ⟨free, rfl⟩ := commit_ok plan current world.tables tables answer present outcome
      have numbered := ground.numbered _ current present
      rw [written_guarded world frozen plan _ _ current present,
        commit_steady plan current world.tables numbered admits stale free
          (frozen _ current present)]
      constructor
      · intro steady request' plan' other _ current' found
        obtain ⟨_, rfl⟩ := Prod.mk.inj (Option.some.inj (entry.symm.trans other))
        obtain rfl := Option.some.inj (present.symm.trans found)
        exact steady
      · exact fun steady => steady request plan entry free current present

theorem idle_ground (userIds : List Nat) (calls : List Call) :
    Ground (World.idle (run (ProjectDb.start userIds) calls)) := by
  have kept := run_kept userIds calls
  refine ⟨kept.owned, fun projectId project found => (kept.each projectId project found).numbered, ?_⟩
  intro entry member
  cases member

theorem idle_frozen (userIds : List Nat) (calls : List Call) :
    Frozen (World.idle (run (ProjectDb.start userIds) calls)) := by
  intro projectId project found submitted
  have lifecycle := (run_kept userIds calls).each projectId project found
  obtain ⟨_, version, member, number, content⟩ := lifecycle.submitted submitted
  have latest := latestVersion_numbered _ projectId project lifecycle.numbered version
  exact ⟨version, latest.mpr ⟨member, number⟩, content⟩

/-- From any reachable state and along any interleaving, deactivated projects stay so and
submitted ones keep the content of their latest version exactly as long as every commit that
goes through finds its row steady. -/
theorem guards_hold_iff (userIds : List Nat) (calls : List Call) (schedule : List (Event Request)) :
    ((∀ projectId, Runs.Stays backend.step (Deactivated projectId)
          (World.idle (run (ProjectDb.start userIds) calls)) schedule) ∧
        Runs.Throughout backend.step Frozen (World.idle (run (ProjectDb.start userIds) calls))
          schedule) ↔
      Runs.Along backend.step SteadyEvent (World.idle (run (ProjectDb.start userIds) calls))
        schedule := by
  simp only [Runs.stays_iff_along, Runs.along_forall]
  exact Runs.guarded_iff_along backend.step Ground Frozen _ SteadyEvent step_ground event_steady _
    schedule (idle_ground userIds calls) (idle_frozen userIds calls)

def soapDrafted : Requests :=
  World.idle (run (ProjectDb.start []) [.createProject (labelled 0) soapMaker soap])

def soapEdit : Request where
  env := labelled 1
  actor := soapMaker
  projectId := 1
  operation := .editProject ⟨some ⟨"Candles", by decide⟩, none, none, none⟩

def soapSubmission : Request where
  env := labelled 2
  actor := soapMaker
  projectId := 1
  operation := .submitProjectForReview ⟨none⟩

def soapDeactivation : Request where
  env := labelled 3
  actor := soapMaker
  projectId := 1
  operation := .deactivateProject ⟨⟨"out of wax", by decide⟩⟩

def lateEdit : List (Event Request) := [.start soapEdit, .start soapSubmission, .finish 1, .finish 0]

def lateSubmission : List (Event Request) :=
  [.start soapSubmission, .start soapDeactivation, .finish 1, .finish 0]

theorem late_requests_break_guards :
    ¬ Runs.Throughout backend.step Frozen soapDrafted lateEdit ∧
      ¬ Runs.Stays backend.step (Deactivated 1) soapDrafted lateSubmission := by
  constructor
  · intro throughout
    have last : Frozen (backend.run soapDrafted lateEdit) := throughout.2.2.2.2
    obtain ⟨version, latest, same⟩ := last 1 _ rfl rfl
    have snapshot := congrArg (Option.map (·.snapshotJson.name)) latest
    rw [Option.map_some, show version.snapshotJson.name = "Candles" from congrArg (·.name) same]
      at snapshot
    revert snapshot
    decide
  · intro stays
    obtain ⟨project, found, gone⟩ := stays [.start soapSubmission, .start soapDeactivation, .finish 1]
      [.finish 0] [] rfl ⟨_, rfl, rfl⟩
    have status : ((backend.run soapDrafted lateSubmission).tables.projects.get? 1).map (·.status) =
        some .submitted := by decide
    have other := congrArg (Option.map (·.status)) found
    rw [Option.map_some, gone] at other
    cases status.symm.trans other

end RetailApp.Projects
