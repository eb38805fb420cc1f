import RetailApp.Projects.Lifecycle

/-! What a diff summary says of two submissions, against what it should say: which of the
applicant's fields changed, with the contact phone compared as plain text. -/

namespace RetailApp

def Snapshot.plain (decrypt : String → String) (snapshot : Snapshot) : Snapshot :=
  { snapshot with contactPhoneEncrypted := snapshot.contactPhoneEncrypted.map decrypt }

namespace Projects

open Transaction

def applicantKeys : List SnapshotKey := [.name, .category, .description, .contactPhoneEncrypted]

/-- The summary of exactly the applicant's fields whose plain values differ. -/
def promisedSummary (decrypt : String → String) (previous current : Snapshot) : String :=
  summarize (changeEntries applicantKeys (previous.plain decrypt) (current.plain decrypt))

/-- The phone was not entered anew with the text it already had. -/
def SamePhone (decrypt : String → String) (previous current : Option String) : Prop :=
  previous.map decrypt = current.map decrypt → previous = current

theorem summarize_append (changes extra : List String) (some : changes ≠ []) (more : extra ≠ []) :
    summarize (changes ++ extra) ≠ summarize changes := by
  have nonempty (entries : List String) (full : entries ≠ []) :
      summarize entries = "; ".intercalate entries := by
    rw [summarize, if_neg (by simpa using full)]
  rw [nonempty _ (List.append_ne_nil_of_left_ne_nil some extra), nonempty _ some,
    String.intercalate_append_of_ne_nil some more]
  intro same
  have lengths := congrArg String.length same
  have separator : ("; " : String).length = 2 := by decide
  simp only [String.length_append, separator] at lengths
  omega

/-- The entries the code lists beside the promised ones. -/
def extraEntries (decrypt : String → String) (previous current : Snapshot) : List String :=
  (if previous.contactPhoneEncrypted.map decrypt = current.contactPhoneEncrypted.map decrypt ∧
      previous.contactPhoneEncrypted ≠ current.contactPhoneEncrypted then
    ["contact_phone: updated"] else []) ++
  (if previous.status = current.status then []
    else [changeEntry .status (some previous.status.value) (some current.status.value)])

theorem changeEntries_append (keys others : List SnapshotKey) (previous current : Snapshot) :
    changeEntries (keys ++ others) previous current =
      changeEntries keys previous current ++ changeEntries others previous current := by
  simp [changeEntries]

theorem changeEntries_one (key : SnapshotKey) (previous current : Snapshot) :
    changeEntries [key] previous current =
      if previous.get key = current.get key then []
      else [changeEntry key (previous.get key) (current.get key)] := by
  by_cases same : previous.get key = current.get key <;> simp [changeEntries, same]

theorem changeEntries_text (decrypt : String → String) (previous current : Snapshot) :
    changeEntries [.name, .category, .description] (previous.plain decrypt)
        (current.plain decrypt) =
      changeEntries [.name, .category, .description] previous current := by
  have each : ([.name, .category, .description] : List SnapshotKey) =
      [.name] ++ ([.category] ++ [.description]) := rfl
  simp only [each, changeEntries_append, changeEntries_one]
  rfl

theorem changeEntries_phone (decrypt : String → String) (previous current : Snapshot) :
    changeEntries [.contactPhoneEncrypted] previous current =
      changeEntries [.contactPhoneEncrypted] (previous.plain decrypt) (current.plain decrypt) ++
        if previous.contactPhoneEncrypted.map decrypt = current.contactPhoneEncrypted.map decrypt ∧
          previous.contactPhoneEncrypted ≠ current.contactPhoneEncrypted then
        ["contact_phone: updated"] else [] := by
  rw [changeEntries_one, changeEntries_one]
  by_cases same : previous.contactPhoneEncrypted = current.contactPhoneEncrypted
  · simp [Snapshot.get, Snapshot.plain, same]
  · by_cases plain : previous.contactPhoneEncrypted.map decrypt =
        current.contactPhoneEncrypted.map decrypt
    · simp [Snapshot.get, Snapshot.plain, same, plain, changeEntry]
    · simp [Snapshot.get, Snapshot.plain, same, plain, changeEntry]

theorem changeEntries_status (previous current : Snapshot) :
    changeEntries [.status] previous current =
      if previous.status = current.status then []
      else [changeEntry .status (some previous.status.value) (some current.status.value)] := by
  have values : previous.status.value = current.status.value ↔
      previous.status = current.status := by
    cases previous.status <;> cases current.status <;> decide
  rw [changeEntries_one]
  simp only [Snapshot.get, Option.some.injEq, values]

theorem changeEntries_compared (decrypt : String → String) (previous current : Snapshot) :
    changeEntries comparedKeys previous current =
      changeEntries applicantKeys (previous.plain decrypt) (current.plain decrypt) ++
        extraEntries decrypt previous current := by
  have compared : comparedKeys =
      [.name, .category, .description] ++ ([.contactPhoneEncrypted] ++ [.status]) := rfl
  have applicant : applicantKeys =
      [.name, .category, .description] ++ [.contactPhoneEncrypted] := rfl
  rw [compared, applicant, changeEntries_append, changeEntries_append, changeEntries_append,
    changeEntries_text, changeEntries_phone decrypt, changeEntries_status, extraEntries,
    List.append_assoc, List.append_assoc]

theorem extraEntries_nil (decrypt : String → String) (previous current : Snapshot) :
    extraEntries decrypt previous current = [] ↔ previous.status = current.status ∧
      SamePhone decrypt previous.contactPhoneEncrypted current.contactPhoneEncrypted := by
  rw [extraEntries, List.append_eq_nil_iff, and_comm, SamePhone]
  apply and_congr
  · split <;> simp_all
  · split <;> simp_all

theorem summarize_extra (decrypt : String → String) (previous current : Snapshot)
    (extra : extraEntries decrypt previous current ≠ []) :
    summarize (extraEntries decrypt previous current) ≠ summarize [] := by
  revert extra
  unfold extraEntries
  generalize previous.status = before, current.status = after
  split
  · cases before <;> cases after <;> decide
  · cases before <;> cases after <;> decide

theorem buildDiffSummary_promised (decrypt : String → String) (previous current : Snapshot) :
    buildDiffSummary (some previous) current = promisedSummary decrypt previous current ↔
      previous.status = current.status ∧
        SamePhone decrypt previous.contactPhoneEncrypted current.contactPhoneEncrypted := by
  rw [← extraEntries_nil, buildDiffSummary, promisedSummary, changeEntries_compared decrypt]
  constructor
  · intro same
    by_contra extra
    by_cases none : changeEntries applicantKeys (previous.plain decrypt) (current.plain decrypt) = []
    · rw [none, List.nil_append] at same
      exact summarize_extra decrypt previous current extra same
    · exact summarize_append _ _ none extra same
  · intro none
    rw [none, List.append_nil]

def SummariesRight (decrypt : String → String) (db : ProjectDb) : Prop :=
  ∀ projectId, ∀ earlier ∈ versionsOf db projectId, ∀ later ∈ versionsOf db projectId,
    later.versionNo = earlier.versionNo + 1 →
    later.diffSummary = promisedSummary decrypt earlier.snapshotJson later.snapshotJson

def SnapshotsEarly (db : ProjectDb) : Prop :=
  ∀ version ∈ db.projectVersions.rows, 0 < version.versionNo ∧
    version.snapshotJson.status = if version.versionNo = 1 then .draft else .rejected

theorem submits_admits (operation : Operation) (status : ProjectStatus)
    (submits : operation.submits = true) (admits : operation.Admits status) :
    status = .draft ∨ status = .rejected := by
  cases operation with
  | submitProjectForReview payload => exact admits
  | resubmitProject payload => exact .inr admits
  | editProject payload => cases submits
  | rejectProject payload => cases submits
  | deactivateProject payload => cases submits

theorem written_snapshotsEarly (request : Request) (db : ProjectDb) (project : Project)
    (kept : Kept db) (passed : request.Passed db project) (early : SnapshotsEarly db) :
    SnapshotsEarly (request.written project db) := by
  intro version member
  cases submits : request.operation.submits with
  | false =>
      simp only [Request.written, submits, Bool.false_eq_true, if_false] at member
      exact early version member
  | true =>
      simp only [Request.written, submits, if_true, Table.insert, List.mem_append,
        List.mem_singleton] at member
      rcases member with old | rfl
      · exact early version old
      · have lifecycle := kept.each _ project passed.loaded
        refine ⟨Nat.succ_pos project.currentVersion, ?_⟩
        change project.status = if project.currentVersion + 1 = 1 then .draft else .rejected
        rcases submits_admits _ _ submits passed.admits with draft | rejected
        · rw [draft, lifecycle.draft draft, if_pos rfl]
        · have some := (lifecycle.rejected rejected).1
          rw [rejected, if_neg (by omega)]

theorem step_snapshotsEarly (db : ProjectDb) (call : Call) (kept : Kept db)
    (early : SnapshotsEarly db) : SnapshotsEarly (step db call) := by
  have change := step_change db call
  generalize step db call = db' at change ⊢
  cases change with
  | unchanged => exact early
  | created env actor payload => exact early
  | written request loaded passed free =>
      exact written_snapshotsEarly request db loaded kept passed early

/-- Every version but the first was compared with the one before it. -/
def Compared (db : ProjectDb) : Prop :=
  ∀ projectId, ∀ earlier ∈ versionsOf db projectId, ∀ later ∈ versionsOf db projectId,
    later.versionNo = earlier.versionNo + 1 →
    later.diffSummary = buildDiffSummary (some earlier.snapshotJson) later.snapshotJson

theorem written_compared (request : Request) (db : ProjectDb) (project : Project)
    (kept : Kept db) (passed : request.Passed db project) (compared : Compared db) :
    Compared (request.written project db) := by
  have lifecycle := kept.each _ project passed.loaded
  have latest := latestVersion_numbered db request.projectId project lifecycle.numbered
  have bound := numbered_bound _ project lifecycle.numbered
  have number : (request.version project db).versionNo = project.currentVersion + 1 := rfl
  intro projectId earlier first later second next
  by_cases here : request.operation.submits = true ∧ projectId = request.projectId
  · obtain ⟨submits, rfl⟩ := here
    rw [versionsOf_written, if_pos ⟨submits, rfl⟩, List.mem_append, List.mem_singleton]
      at first second
    rcases first with first | rfl
    · rcases second with second | rfl
      · exact compared request.projectId earlier first later second next
      · -- the new version was compared with the latest one, the one before it
        have found := (latest earlier).mpr ⟨first, by omega⟩
        rw [Request.version, newVersion, found]
        rfl
    · rcases second with second | rfl
      · have most := (bound later second).2
        omega
      · omega
  · rw [versionsOf_written, if_neg here] at first second
    exact compared projectId earlier first later second next

theorem step_compared (db : ProjectDb) (call : Call) (kept : Kept db) (compared : Compared db) :
    Compared (step db call) := by
  have change := step_change db call
  generalize step db call = db' at change ⊢
  cases change with
  | unchanged => exact compared
  | created env actor payload => exact compared
  | written request loaded passed free =>
      exact written_compared request db loaded kept passed compared

theorem run_compared (userIds : List Nat) (calls : List Call) :
    SnapshotsEarly (run (ProjectDb.start userIds) calls) ∧
      Compared (run (ProjectDb.start userIds) calls) := by
  have all := Runs.run_preserves step (fun db => Kept db ∧ SnapshotsEarly db ∧ Compared db)
    (fun db call ground => ⟨step_kept db call ground.1,
      step_snapshotsEarly db call ground.1 ground.2.1, step_compared db call ground.1 ground.2.2⟩)
    (ProjectDb.start userIds) calls ⟨start_kept userIds, ?_, ?_⟩
  · exact all.2
  · intro version member
    cases member
  · intro projectId earlier member
    cases member

/-- In every state that a run reaches, the summary of version n + 1 tells what the applicant changed
exactly when n is not 1 and the phone was not entered anew with the text it had. -/
theorem summaries_right_iff (decrypt : String → String) (userIds : List Nat) (calls : List Call)
    (projectId : Nat) (earlier later : ProjectVersion)
    (first : earlier ∈ versionsOf (run (ProjectDb.start userIds) calls) projectId)
    (second : later ∈ versionsOf (run (ProjectDb.start userIds) calls) projectId)
    (next : later.versionNo = earlier.versionNo + 1) :
    later.diffSummary = promisedSummary decrypt earlier.snapshotJson later.snapshotJson ↔
      earlier.versionNo ≠ 1 ∧ SamePhone decrypt earlier.snapshotJson.contactPhoneEncrypted
        later.snapshotJson.contactPhoneEncrypted := by
  obtain ⟨early, compared⟩ := run_compared userIds calls
  obtain ⟨positive, before⟩ := early earlier (List.mem_filter.mp first).1
  obtain ⟨_, after⟩ := early later (List.mem_filter.mp second).1
  have status : earlier.snapshotJson.status = later.snapshotJson.status ↔
      earlier.versionNo ≠ 1 := by
    rw [before, after, if_neg (show later.versionNo ≠ 1 by omega)]
    by_cases one : earlier.versionNo = 1 <;> simp [one]
  rw [compared projectId earlier first later second next, buildDiffSummary_promised, status]

/-- An encryption of its own for each salt, and what decrypts them all. -/
def salted (salt : Char) (now : Time) : ProjectEnv :=
  ⟨now, fun text => String.ofList (salt :: text.toList)⟩

def unsalted (text : String) : String := String.ofList text.toList.tail

theorem unsalted_salted (salt : Char) (now : Time) (text : String) :
    unsalted ((salted salt now).encrypt text) = text := by
  simp [salted, unsalted]

def sendBack (now : Time) : Call :=
  .request ⟨labelled now, soapReviewer, 1, .rejectProject ⟨⟨"more detail", by decide⟩⟩⟩

def resubmit (now : Time) : Call :=
  .request ⟨labelled now, soapMaker, 1, .resubmitProject ⟨none⟩⟩

/-- Sent back and submitted again as it is, then with the phone entered once more. -/
def soapSentBack : List Call :=
  [.createProject (salted 'a' 0) soapMaker soap,
    .request ⟨labelled 1, soapMaker, 1, .submitProjectForReview ⟨none⟩⟩,
    sendBack 2, resubmit 3, sendBack 4,
    .request ⟨salted 'b' 5, soapMaker, 1, .editProject ⟨none, none, none, some "555"⟩⟩,
    resubmit 6]

def soapVersions : List ProjectVersion := versionsOf (run (ProjectDb.start []) soapSentBack) 1

theorem soapSentBack_told :
    soapVersions[2].diffSummary =
        promisedSummary unsalted soapVersions[1].snapshotJson soapVersions[2].snapshotJson ↔
      soapVersions[1].versionNo ≠ 1 ∧
        SamePhone unsalted soapVersions[1].snapshotJson.contactPhoneEncrypted
          soapVersions[2].snapshotJson.contactPhoneEncrypted :=
  summaries_right_iff unsalted [] soapSentBack 1 soapVersions[1] soapVersions[2]
    (List.getElem_mem _) (List.getElem_mem _) (by decide +kernel)

theorem soapSentBack_summaries :
    (∀ salt now text, unsalted ((salted salt now).encrypt text) = text) ∧
      (salted 'a' 0).encrypt "555" ≠ (salted 'b' 5).encrypt "555" ∧
      (versionsOf (run (ProjectDb.start []) soapSentBack) 1).map (·.diffSummary) =
        ["Initial submission", "status: 'draft' -> 'rejected'", "contact_phone: updated"] ∧
      (versionsOf (run (ProjectDb.start []) soapSentBack) 1).map
          (fun version => (version.snapshotJson.plain unsalted).content) =
        [⟨"Soap", "craft", "Soap from local oil", some "555"⟩,
          ⟨"Soap", "craft", "Soap from local oil", some "555"⟩,
          ⟨"Soap", "craft", "Soap from local oil", some "555"⟩] ∧
      ¬ SummariesRight unsalted (run (ProjectDb.start []) soapSentBack) := by
  refine ⟨unsalted_salted, by decide, by decide +kernel, by decide +kernel, ?_⟩
  intro right
  have second := right 1 (versionsOf (run (ProjectDb.start []) soapSentBack) 1)[0]
    (List.getElem_mem (by decide)) (versionsOf (run (ProjectDb.start []) soapSentBack) 1)[1]
    (List.getElem_mem (by decide)) (by decide +kernel)
  revert second
  decide +kernel

end Projects

end RetailApp
