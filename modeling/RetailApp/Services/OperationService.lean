import RetailApp.Schemas
import RetailApp.Session

namespace RetailApp

open Transaction

/-- The tables of the configuration subsystem, which shares none but the audit log. -/
structure ConfigDb where
  operationConfigurations : Table OperationConfiguration
  auditLogs : Table ImmutableAuditLog
  deriving DecidableEq

def ConfigDb.start : ConfigDb := ⟨Table.empty, Table.empty⟩

abbrev ConfigService (α : Type) := Session ConfigDb Raised α

def permCodes (actor : User) : List String :=
  actor.roles.flatMap (fun role => role.permissions.map (·.code))

def isOpsAdmin (actor : User) : Bool :=
  actor.isSuperuser || (permCodes actor).contains "operations:admin"

def assertOpsAdmin (actor : User) : Except Raised Unit :=
  raiseIf (isOpsAdmin actor = false)
    (.authorization "Operation administrator permission required")

def configToResponse (entry : Nat × OperationConfiguration) : OperationConfigResponse where
  id := entry.1
  configKey := entry.2.configKey
  configValue := entry.2.configValue
  rolloutPercent := entry.2.rolloutPercent
  version := entry.2.version
  previousConfigId := entry.2.previousConfigId
  isActive := entry.2.isActive
  isRolledBack := entry.2.isRolledBack
  changedByUserId := entry.2.changedByUserId
  createdAt := entry.2.createdAt

/-- The row that `ORDER BY version DESC` puts first. -/
def highestVersion (db : ConfigDb) (selects : OperationConfiguration → Bool) :
    Option (Nat × OperationConfiguration) :=
  (db.operationConfigurations.entries.filter (fun entry => selects entry.2)).argmax
    (fun entry => entry.2.version)

def hasKey (configKey : String) (row : OperationConfiguration) : Bool := row.configKey == configKey

def activeWithKey (configKey : String) (row : OperationConfiguration) : Bool :=
  row.configKey == configKey && row.isActive

/-- The UPDATE of a configuration row: only the columns whose value the session changed. -/
def OperationConfiguration.flush (loaded assigned current : OperationConfiguration) :
    OperationConfiguration where
  configKey := changed loaded.configKey assigned.configKey current.configKey
  configValue := changed loaded.configValue assigned.configValue current.configValue
  rolloutPercent := changed loaded.rolloutPercent assigned.rolloutPercent current.rolloutPercent
  version := changed loaded.version assigned.version current.version
  previousConfigId :=
    changed loaded.previousConfigId assigned.previousConfigId current.previousConfigId
  isActive := changed loaded.isActive assigned.isActive current.isActive
  isRolledBack := changed loaded.isRolledBack assigned.isRolledBack current.isRolledBack
  changedByUserId := changed loaded.changedByUserId assigned.changedByUserId current.changedByUserId
  createdAt := changed loaded.createdAt assigned.createdAt current.createdAt

@[simp] theorem OperationConfiguration.flush_loaded (loaded assigned : OperationConfiguration) :
    OperationConfiguration.flush loaded assigned loaded = assigned := by
  simp [OperationConfiguration.flush]

def insertConfig (row : OperationConfiguration) : ConfigService Nat := do
  let db ← get
  set { db with operationConfigurations := db.operationConfigurations.insert row }
  return db.operationConfigurations.nextKey

def updateConfig (loaded : Nat × OperationConfiguration) (assigned : OperationConfiguration) :
    ConfigService Unit :=
  modify fun db =>
    { db with
      operationConfigurations := db.operationConfigurations.modify loaded.1
        (OperationConfiguration.flush loaded.2 assigned) }

def writeConfigAudit (actor : User) (action : String) (configId : Nat) (details : AuditDetails) :
    ConfigService Unit :=
  modify fun db =>
    { db with
      auditLogs := db.auditLogs.insert
        ⟨some actor.id, action, "operation_configuration", configId, details⟩ }

/-- The attributes of a committed row are read back before the response is built. -/
def refreshConfig (configId : Nat) : ConfigService OperationConfigResponse := do
  let db ← get
  let row ← attempt (orRaise (db.operationConfigurations.get? configId) .objectDeletedError)
  return configToResponse (configId, row)

def createConfigChecks (actor : User) (payload : OperationConfigCreateRequest) (db : ConfigDb) :
    Except Raised (Option (Nat × OperationConfiguration)) := do
  assertOpsAdmin actor
  return highestVersion db (hasKey payload.configKey)

def deactivate (latest : Option (Nat × OperationConfiguration)) : ConfigService Unit :=
  match latest with
  | none => return ()
  | some loaded => updateConfig loaded { loaded.2 with isActive := false }

def newConfig (env : Env) (actor : User) (payload : OperationConfigCreateRequest)
    (latest : Option (Nat × OperationConfiguration)) : OperationConfiguration where
  configKey := payload.configKey
  configValue := payload.configValue
  rolloutPercent := payload.rolloutPercent
  version := latest.elim 1 (fun loaded => loaded.2.version + 1)
  previousConfigId := latest.map (·.1)
  isActive := true
  isRolledBack := false
  changedByUserId := some actor.id
  createdAt := env.now

def createConfigCommit (env : Env) (actor : User) (payload : OperationConfigCreateRequest)
    (latest : Option (Nat × OperationConfiguration)) : ConfigService OperationConfigResponse := do
  let configId ← transactional do
    deactivate latest
    let entity := newConfig env actor payload latest
    let configId ← insertConfig entity
    writeConfigAudit actor "operation_config.create" configId
      (.operationConfigCreate entity.configKey entity.rolloutPercent entity.version)
    return configId
  refreshConfig configId

def createOperationConfig (env : Env) (actor : User) (payload : OperationConfigCreateRequest) :
    ConfigService OperationConfigResponse := do
  let db ← get
  let latest ← attempt (createConfigChecks actor payload db)
  createConfigCommit env actor payload latest

def rolloutChecks (actor : User) (configId : Nat) (rolloutPercent : Int) (db : ConfigDb) :
    Except Raised OperationConfiguration := do
  assertOpsAdmin actor
  raiseIf (rolloutPercent < 0 ∨ 100 < rolloutPercent)
    (.validation "rollout_percent must be between 0 and 100")
  orRaise (db.operationConfigurations.get? configId)
    (.notFound "Operation configuration not found")

def rolloutCommit (actor : User) (configId : Nat) (rolloutPercent : Int)
    (entity : OperationConfiguration) : ConfigService OperationConfigResponse := do
  transactional do
    updateConfig (configId, entity) { entity with rolloutPercent := rolloutPercent }
    writeConfigAudit actor "operation_config.rollout" configId
      (.operationConfigRollout rolloutPercent)
  refreshConfig configId

def gradualRollout (actor : User) (configId : Nat) (rolloutPercent : Int) :
    ConfigService OperationConfigResponse := do
  let db ← get
  let entity ← attempt (rolloutChecks actor configId rolloutPercent db)
  rolloutCommit actor configId rolloutPercent entity

structure RollbackPlan where
  current : Nat × OperationConfiguration
  previous : Nat × OperationConfiguration

def rollbackChecks (actor : User) (configKey : String) (db : ConfigDb) :
    Except Raised RollbackPlan := do
  assertOpsAdmin actor
  let current ← orRaise (highestVersion db (activeWithKey configKey))
    (.notFound "Active operation configuration not found")
  let previousId ← orRaise current.2.previousConfigId
    (.validation "No previous configuration available for rollback")
  let previous ← orRaise (db.operationConfigurations.get? previousId)
    (.notFound "Previous configuration not found")
  return ⟨current, (previousId, previous)⟩

def rollbackCommit (actor : User) (configKey : String) (plan : RollbackPlan) :
    ConfigService OperationConfigResponse := do
  transactional do
    updateConfig plan.current { plan.current.2 with isActive := false, isRolledBack := true }
    updateConfig plan.previous { plan.previous.2 with isActive := true }
    writeConfigAudit actor "operation_config.rollback" plan.current.1
      (.operationConfigRollback plan.previous.1 configKey)
  refreshConfig plan.previous.1

def rollbackOperationConfig (actor : User) (configKey : String) :
    ConfigService OperationConfigResponse := do
  let db ← get
  let plan ← attempt (rollbackChecks actor configKey db)
  rollbackCommit actor configKey plan

theorem assertOpsAdmin_ok (actor : User) (value : Unit) :
    assertOpsAdmin actor = .ok value ↔ isOpsAdmin actor = true := by
  rw [assertOpsAdmin, raiseIf_ok, Bool.not_eq_false]

theorem highestVersion_some (db : ConfigDb) (selects : OperationConfiguration → Bool)
    (entry : Nat × OperationConfiguration) (highest : highestVersion db selects = some entry) :
    db.operationConfigurations.get? entry.1 = some entry.2 ∧ selects entry.2 = true ∧
      ∀ configId row, db.operationConfigurations.get? configId = some row → selects row = true →
        row.version ≤ entry.2.version := by
  have member := List.argmax_mem (Option.mem_def.mpr highest)
  obtain ⟨present, selected⟩ := List.mem_filter.mp member
  refine ⟨(Table.mem_entries _ _ _).mp present, selected, ?_⟩
  intro configId row found chosen
  have inside : (configId, row) ∈ db.operationConfigurations.entries.filter
      (fun entry => selects entry.2) :=
    List.mem_filter.mpr ⟨(Table.mem_entries _ _ _).mpr found, chosen⟩
  have most := List.le_of_mem_argmax inside (Option.mem_def.mpr highest)
  exact most

theorem highestVersion_none (db : ConfigDb) (selects : OperationConfiguration → Bool) :
    highestVersion db selects = none ↔
      ∀ configId row, db.operationConfigurations.get? configId = some row →
        selects row = false := by
  rw [highestVersion, List.argmax_eq_none, List.filter_eq_nil_iff]
  constructor
  · intro none configId row found
    exact Bool.eq_false_iff.mpr (none (configId, row) ((Table.mem_entries _ _ _).mpr found))
  · intro none entry member
    exact Bool.eq_false_iff.mp (none entry.1 entry.2 ((Table.mem_entries _ _ _).mp member))

theorem highestVersion_exists (db : ConfigDb) (selects : OperationConfiguration → Bool)
    (configId : Nat) (row : OperationConfiguration)
    (present : db.operationConfigurations.get? configId = some row)
    (selected : selects row = true) : ∃ highest, highestVersion db selects = some highest := by
  rw [← Option.ne_none_iff_exists']
  intro none
  have rejected := (highestVersion_none db selects).mp none configId row present
  rw [selected] at rejected
  cases rejected

theorem highestVersion_of_ahead (db : ConfigDb) (selects : OperationConfiguration → Bool)
    (configId : Nat) (row : OperationConfiguration)
    (present : db.operationConfigurations.get? configId = some row) (selected : selects row = true)
    (ahead : ∀ other found, db.operationConfigurations.get? other = some found →
      selects found = true → other ≠ configId → found.version < row.version) :
    highestVersion db selects = some (configId, row) := by
  obtain ⟨entry, highest⟩ := highestVersion_exists db selects configId row present selected
  obtain ⟨found, chosen, most⟩ := highestVersion_some db selects entry highest
  have same : entry.1 = configId := by
    by_contra other
    have less := ahead entry.1 entry.2 found chosen other
    have more := most configId row present selected
    omega
  rw [same, present] at found
  rw [highest, Option.some.inj found, ← same]

theorem refreshConfig_of_some (db : ConfigDb) (configId : Nat) (row : OperationConfiguration)
    (present : db.operationConfigurations.get? configId = some row) :
    refreshConfig configId db = .ok (configToResponse (configId, row)) db := by
  simp [refreshConfig, run_bind, run_map, present]

def deactivated (latest : Option (Nat × OperationConfiguration))
    (table : Table OperationConfiguration) : Table OperationConfiguration :=
  match latest with
  | none => table
  | some loaded => table.modify loaded.1
      (OperationConfiguration.flush loaded.2 { loaded.2 with isActive := false })

@[simp] theorem deactivated_nextKey (latest : Option (Nat × OperationConfiguration))
    (table : Table OperationConfiguration) : (deactivated latest table).nextKey = table.nextKey := by
  cases latest with
  | none => rfl
  | some loaded => exact Table.nextKey_modify _ _ _

def configCreated (env : Env) (actor : User) (payload : OperationConfigCreateRequest)
    (latest : Option (Nat × OperationConfiguration)) (db : ConfigDb) : ConfigDb where
  operationConfigurations :=
    (deactivated latest db.operationConfigurations).insert (newConfig env actor payload latest)
  auditLogs := db.auditLogs.insert
    ⟨some actor.id, "operation_config.create", "operation_configuration",
      db.operationConfigurations.nextKey,
      .operationConfigCreate payload.configKey payload.rolloutPercent
        (newConfig env actor payload latest).version⟩

theorem createConfigCommit_eq (env : Env) (actor : User) (payload : OperationConfigCreateRequest)
    (latest : Option (Nat × OperationConfiguration)) (db : ConfigDb) :
    createConfigCommit env actor payload latest db =
      .ok (configToResponse (db.operationConfigurations.nextKey, newConfig env actor payload latest))
        (configCreated env actor payload latest db) := by
  have row : (configCreated env actor payload latest db).operationConfigurations.get?
      db.operationConfigurations.nextKey = some (newConfig env actor payload latest) := by
    have last := Table.get?_insert_self (deactivated latest db.operationConfigurations)
      (newConfig env actor payload latest)
    rwa [deactivated_nextKey] at last
  rw [createConfigCommit, bind_ok]
  refine ⟨db.operationConfigurations.nextKey, configCreated env actor payload latest db, ?_,
    refreshConfig_of_some _ _ _ row⟩
  cases latest with
  | none => rfl
  | some loaded =>
      simp [transactional, deactivate, updateConfig, insertConfig, writeConfigAudit, configCreated,
        deactivated, run_bind, run_map, newConfig]

theorem createOperationConfig_eq (env : Env) (actor : User)
    (payload : OperationConfigCreateRequest) (db : ConfigDb) (allowed : isOpsAdmin actor = true) :
    createOperationConfig env actor payload db =
      .ok (configToResponse (db.operationConfigurations.nextKey,
          newConfig env actor payload (highestVersion db (hasKey payload.configKey))))
        (configCreated env actor payload (highestVersion db (hasKey payload.configKey)) db) := by
  refine (checked_ok (createConfigChecks actor payload) (createConfigCommit env actor payload)
    db _ _).mpr ⟨_, ?_, createConfigCommit_eq env actor payload _ db⟩
  rw [createConfigChecks, bind_except_ok]
  exact ⟨(), (assertOpsAdmin_ok actor ()).mpr allowed, rfl⟩

theorem after_unchecked {α β : Type} (checks : ConfigDb → Except Raised β)
    (commit : β → ConfigService α) (db : ConfigDb) (raised : Raised)
    (failed : checks db = .error raised) :
    after (do commit (← attempt (checks (← get)))) db = db :=
  after_error _ db db raised ((checked_error checks commit db db raised).mpr (.inl ⟨failed, rfl⟩))

theorem createOperationConfig_denied (env : Env) (actor : User)
    (payload : OperationConfigCreateRequest) (db : ConfigDb) (denied : isOpsAdmin actor = false) :
    after (createOperationConfig env actor payload) db = db := by
  apply after_unchecked (createConfigChecks actor payload) (createConfigCommit env actor payload)
    db (.authorization "Operation administrator permission required")
  simp [createConfigChecks, assertOpsAdmin, raiseIf, denied, bind, Except.bind]

def rolledOut (actor : User) (configId : Nat) (rolloutPercent : Int)
    (entity : OperationConfiguration) (db : ConfigDb) : ConfigDb where
  operationConfigurations := db.operationConfigurations.modify configId
    (OperationConfiguration.flush entity { entity with rolloutPercent := rolloutPercent })
  auditLogs := db.auditLogs.insert
    ⟨some actor.id, "operation_config.rollout", "operation_configuration", configId,
      .operationConfigRollout rolloutPercent⟩

theorem rolloutChecks_ok (actor : User) (configId : Nat) (rolloutPercent : Int) (db : ConfigDb)
    (entity : OperationConfiguration) :
    rolloutChecks actor configId rolloutPercent db = .ok entity ↔
      isOpsAdmin actor = true ∧ ¬(rolloutPercent < 0 ∨ 100 < rolloutPercent) ∧
        db.operationConfigurations.get? configId = some entity := by
  simp only [rolloutChecks, bind_except_ok, assertOpsAdmin_ok, raiseIf_ok, orRaise_ok]
  constructor
  · rintro ⟨_, allowed, _, bounds, present⟩
    exact ⟨allowed, bounds, present⟩
  · rintro ⟨allowed, bounds, present⟩
    exact ⟨(), allowed, (), bounds, present⟩

theorem rolloutCommit_eq (actor : User) (configId : Nat) (rolloutPercent : Int)
    (entity : OperationConfiguration) (db : ConfigDb)
    (present : db.operationConfigurations.get? configId = some entity) :
    rolloutCommit actor configId rolloutPercent entity db =
      .ok (configToResponse (configId, { entity with rolloutPercent := rolloutPercent }))
        (rolledOut actor configId rolloutPercent entity db) := by
  have row : (rolledOut actor configId rolloutPercent entity db).operationConfigurations.get?
      configId = some { entity with rolloutPercent := rolloutPercent } := by
    rw [rolledOut, Table.get?_modify_of_some _ _ _ entity present, if_pos rfl,
      OperationConfiguration.flush_loaded]
  rw [rolloutCommit, bind_ok]
  exact ⟨(), rolledOut actor configId rolloutPercent entity db, rfl,
    refreshConfig_of_some _ _ _ row⟩

def rolledBack (actor : User) (configKey : String) (plan : RollbackPlan) (db : ConfigDb) :
    ConfigDb where
  operationConfigurations :=
    (db.operationConfigurations.modify plan.current.1
        (OperationConfiguration.flush plan.current.2
          { plan.current.2 with isActive := false, isRolledBack := true })).modify plan.previous.1
      (OperationConfiguration.flush plan.previous.2 { plan.previous.2 with isActive := true })
  auditLogs := db.auditLogs.insert
    ⟨some actor.id, "operation_config.rollback", "operation_configuration", plan.current.1,
      .operationConfigRollback plan.previous.1 configKey⟩

structure RollbackPlan.Checked (actor : User) (configKey : String) (db : ConfigDb)
    (plan : RollbackPlan) : Prop where
  allowed : isOpsAdmin actor = true
  current : highestVersion db (activeWithKey configKey) = some plan.current
  link : plan.current.2.previousConfigId = some plan.previous.1
  previous : db.operationConfigurations.get? plan.previous.1 = some plan.previous.2

theorem rollbackChecks_ok (actor : User) (configKey : String) (db : ConfigDb)
    (plan : RollbackPlan) :
    rollbackChecks actor configKey db = .ok plan ↔ plan.Checked actor configKey db := by
  simp only [rollbackChecks, bind_except_ok, assertOpsAdmin_ok, orRaise_ok, pure_except_ok]
  constructor
  · rintro ⟨_, allowed, _, current, _, link, _, previous, rfl⟩
    exact ⟨allowed, current, link, previous⟩
  · rintro ⟨allowed, current, link, previous⟩
    exact ⟨(), allowed, _, current, _, link, _, previous, rfl⟩

theorem rolledBack_get? (actor : User) (configKey : String) (plan : RollbackPlan) (db : ConfigDb)
    (current : db.operationConfigurations.get? plan.current.1 = some plan.current.2)
    (previous : db.operationConfigurations.get? plan.previous.1 = some plan.previous.2)
    (distinct : plan.previous.1 ≠ plan.current.1) (configId : Nat) :
    (rolledBack actor configKey plan db).operationConfigurations.get? configId =
      if configId = plan.previous.1 then some { plan.previous.2 with isActive := true }
      else if configId = plan.current.1 then
        some { plan.current.2 with isActive := false, isRolledBack := true }
      else db.operationConfigurations.get? configId := by
  have between (key : Nat) := Table.get?_modify_of_some db.operationConfigurations plan.current.1
    (OperationConfiguration.flush plan.current.2
      { plan.current.2 with isActive := false, isRolledBack := true }) plan.current.2 current key
  have still := between plan.previous.1
  rw [if_neg distinct] at still
  rw [rolledBack, Table.get?_modify_of_some _ _ _ _ (still.trans previous), between,
    OperationConfiguration.flush_loaded, OperationConfiguration.flush_loaded]

theorem rollbackCommit_eq (actor : User) (configKey : String) (plan : RollbackPlan) (db : ConfigDb)
    (current : db.operationConfigurations.get? plan.current.1 = some plan.current.2)
    (previous : db.operationConfigurations.get? plan.previous.1 = some plan.previous.2)
    (distinct : plan.previous.1 ≠ plan.current.1) :
    rollbackCommit actor configKey plan db =
      .ok (configToResponse (plan.previous.1, { plan.previous.2 with isActive := true }))
        (rolledBack actor configKey plan db) := by
  have row := rolledBack_get? actor configKey plan db current previous distinct plan.previous.1
  rw [if_pos rfl] at row
  rw [rollbackCommit, bind_ok]
  exact ⟨(), rolledBack actor configKey plan db, rfl, refreshConfig_of_some _ _ _ row⟩

end RetailApp
