import RetailApp.Library.Runs
import RetailApp.Services.OperationService

/-! Runs of configuration calls, what one call does to the rows, and the history that every
run keeps: versions of a key never repeat, a row links back to an earlier row of its key, and
a key that has rows has one in force. -/

namespace RetailApp.Configuration

open Transaction

inductive Call where
  | createOperationConfig (env : Env) (actor : User) (payload : OperationConfigCreateRequest)
  | gradualRollout (actor : User) (configId : Nat) (rolloutPercent : Int)
  | rollbackOperationConfig (actor : User) (configKey : String)

def step (db : ConfigDb) : Call → ConfigDb
  | .createOperationConfig env actor payload =>
      after (RetailApp.createOperationConfig env actor payload) db
  | .gradualRollout actor configId rolloutPercent =>
      after (RetailApp.gradualRollout actor configId rolloutPercent) db
  | .rollbackOperationConfig actor configKey =>
      after (RetailApp.rollbackOperationConfig actor configKey) db

def run (db : ConfigDb) (calls : List Call) : ConfigDb := Runs.run step db calls

def rowAt (db : ConfigDb) (configId : Nat) : Option OperationConfiguration :=
  db.operationConfigurations.get? configId

structure History (db : ConfigDb) : Prop where
  versions : ∀ first row second row', rowAt db first = some row → rowAt db second = some row' →
    row.configKey = row'.configKey → row.version = row'.version → first = second
  links : ∀ configId row previousId, rowAt db configId = some row →
    row.previousConfigId = some previousId →
    previousId < configId ∧
      ∃ previous, rowAt db previousId = some previous ∧ previous.configKey = row.configKey
  inForce : ∀ configId row, rowAt db configId = some row →
    ∃ activeId active, rowAt db activeId = some active ∧ active.configKey = row.configKey ∧
      active.isActive = true

structure Placeless (edit : Nat → OperationConfiguration → OperationConfiguration) : Prop where
  configKey : ∀ configId row, (edit configId row).configKey = row.configKey
  version : ∀ configId row, (edit configId row).version = row.version
  link : ∀ configId row, (edit configId row).previousConfigId = row.previousConfigId

def retire (latest : Option (Nat × OperationConfiguration)) (configId : Nat)
    (row : OperationConfiguration) : OperationConfiguration :=
  if latest.map (·.1) = some configId then { row with isActive := false } else row

def adjust (target : Nat) (rolloutPercent : Int) (configId : Nat)
    (row : OperationConfiguration) : OperationConfiguration :=
  if configId = target then { row with rolloutPercent := rolloutPercent } else row

def swapBack (plan : RollbackPlan) (configId : Nat) (row : OperationConfiguration) :
    OperationConfiguration :=
  if configId = plan.previous.1 then { row with isActive := true }
  else if configId = plan.current.1 then { row with isActive := false, isRolledBack := true }
  else row

theorem retire_placeless (latest : Option (Nat × OperationConfiguration)) :
    Placeless (retire latest) := by
  constructor <;> intro configId row <;> unfold retire <;> split <;> rfl

theorem adjust_placeless (target : Nat) (rolloutPercent : Int) :
    Placeless (adjust target rolloutPercent) := by
  constructor <;> intro configId row <;> unfold adjust <;> split <;> rfl

theorem swapBack_placeless (plan : RollbackPlan) : Placeless (swapBack plan) := by
  have parts (configId : Nat) (row : OperationConfiguration) :
      (swapBack plan configId row).configKey = row.configKey ∧
        (swapBack plan configId row).version = row.version ∧
        (swapBack plan configId row).previousConfigId = row.previousConfigId := by
    unfold swapBack
    split
    · exact ⟨rfl, rfl, rfl⟩
    · split <;> exact ⟨rfl, rfl, rfl⟩
  exact ⟨fun configId row => (parts configId row).1, fun configId row => (parts configId row).2.1,
    fun configId row => (parts configId row).2.2⟩

/-- What one call can do to the rows: nothing, or the one change of its kind. -/
inductive Change (db db' : ConfigDb) : Call → Prop
  | unchanged (call : Call) (rows : ∀ configId, rowAt db' configId = rowAt db configId) :
      Change db db' call
  | created (env : Env) (actor : User) (payload : OperationConfigCreateRequest)
      (latest : Option (Nat × OperationConfiguration))
      (highest : highestVersion db (hasKey payload.configKey) = latest)
      (rows : ∀ configId, rowAt db' configId =
        if configId = db.operationConfigurations.nextKey then
          some (newConfig env actor payload latest)
        else (rowAt db configId).map (retire latest configId)) :
      Change db db' (.createOperationConfig env actor payload)
  | adjusted (actor : User) (target : Nat) (rolloutPercent : Int)
      (rows : ∀ configId, rowAt db' configId =
        (rowAt db configId).map (adjust target rolloutPercent configId)) :
      Change db db' (.gradualRollout actor target rolloutPercent)
  | rolledBack (actor : User) (configKey : String) (plan : RollbackPlan)
      (checked : plan.Checked actor configKey db)
      (rows : ∀ configId, rowAt db' configId = (rowAt db configId).map (swapBack plan configId)) :
      Change db db' (.rollbackOperationConfig actor configKey)

theorem rowAt_bound (db : ConfigDb) (configId : Nat) (row : OperationConfiguration)
    (present : rowAt db configId = some row) : configId < db.operationConfigurations.nextKey :=
  (Table.get?_key _ configId row present).2

/-- The UPDATE that deactivates the row loaded earlier, on the row as it now is. -/
def demoted (latest : Option (Nat × OperationConfiguration)) (configId : Nat)
    (row : OperationConfiguration) : OperationConfiguration :=
  match latest with
  | none => row
  | some loaded =>
      if configId = loaded.1 then
        OperationConfiguration.flush loaded.2 { loaded.2 with isActive := false } row
      else row

theorem demoted_placeless (latest : Option (Nat × OperationConfiguration)) :
    Placeless (demoted latest) := by
  cases latest with
  | none => exact ⟨fun _ _ => rfl, fun _ _ => rfl, fun _ _ => rfl⟩
  | some loaded =>
      constructor <;> intro configId row <;> unfold demoted <;> dsimp only <;> split
      all_goals simp [OperationConfiguration.flush, changed]

theorem demoted_other (latest : Option (Nat × OperationConfiguration)) (configId : Nat)
    (row : OperationConfiguration) (other : latest.map (·.1) ≠ some configId) :
    demoted latest configId row = row := by
  cases latest with
  | none => rfl
  | some loaded => exact if_neg (fun same => other (congrArg some same.symm))

theorem configCreated_rowAt_stale (env : Env) (actor : User)
    (payload : OperationConfigCreateRequest) (latest : Option (Nat × OperationConfiguration))
    (db : ConfigDb) (configId : Nat) :
    rowAt (configCreated env actor payload latest db) configId =
      if configId = db.operationConfigurations.nextKey then
        some (newConfig env actor payload latest)
      else (rowAt db configId).map (demoted latest configId) := by
  rw [rowAt, configCreated, Table.get?_insert, deactivated_nextKey]
  congr 1
  cases latest with
  | none =>
      have edit : demoted none configId = id := rfl
      rw [edit, Option.map_id, id, deactivated, rowAt]
  | some loaded =>
      rw [deactivated, Table.get?_modify]
      by_cases here : configId = loaded.1
      · have edit : demoted (some loaded) configId =
            OperationConfiguration.flush loaded.2 { loaded.2 with isActive := false } := by
          funext row
          exact if_pos here
        rw [if_pos here, edit, rowAt]
      · have edit : demoted (some loaded) configId = id := by
          funext row
          exact if_neg here
        rw [if_neg here, edit, Option.map_id, id, rowAt]

theorem configCreated_rowAt (env : Env) (actor : User) (payload : OperationConfigCreateRequest)
    (latest : Option (Nat × OperationConfiguration)) (db : ConfigDb)
    (found : ∀ loaded, latest = some loaded → rowAt db loaded.1 = some loaded.2) (configId : Nat) :
    rowAt (configCreated env actor payload latest db) configId =
      if configId = db.operationConfigurations.nextKey then
        some (newConfig env actor payload latest)
      else (rowAt db configId).map (retire latest configId) := by
  have fresh (row : OperationConfiguration) (present : rowAt db configId = some row) :
      demoted latest configId row = retire latest configId row := by
    cases latest with
    | none => rfl
    | some loaded =>
        by_cases here : configId = loaded.1
        · subst here
          obtain rfl := Option.some.inj (present.symm.trans (found loaded rfl))
          simp [demoted, retire]
        · simp [demoted, retire, here, Ne.symm here]
  rw [configCreated_rowAt_stale]
  congr 1
  exact Option.map_congr fresh

theorem createOperationConfig_rowAt (env : Env) (actor : User)
    (payload : OperationConfigCreateRequest) (db : ConfigDb) (allowed : isOpsAdmin actor = true)
    (configId : Nat) :
    rowAt (step db (.createOperationConfig env actor payload)) configId =
      if configId = db.operationConfigurations.nextKey then
        some (newConfig env actor payload (highestVersion db (hasKey payload.configKey)))
      else (rowAt db configId).map
        (retire (highestVersion db (hasKey payload.configKey)) configId) := by
  rw [step, after_ok _ _ _ _ (createOperationConfig_eq env actor payload db allowed)]
  apply configCreated_rowAt
  intro loaded highest
  exact (highestVersion_some db _ loaded highest).1

theorem createOperationConfig_change (env : Env) (actor : User)
    (payload : OperationConfigCreateRequest) (db : ConfigDb) :
    Change db (step db (.createOperationConfig env actor payload))
      (.createOperationConfig env actor payload) := by
  cases allowed : isOpsAdmin actor with
  | false =>
      apply Change.unchanged
      intro configId
      rw [step, createOperationConfig_denied env actor payload db allowed]
  | true =>
      apply Change.created env actor payload _ rfl
      exact createOperationConfig_rowAt env actor payload db allowed

theorem gradualRollout_change (actor : User) (target : Nat) (rolloutPercent : Int)
    (db : ConfigDb) :
    Change db (step db (.gradualRollout actor target rolloutPercent))
      (.gradualRollout actor target rolloutPercent) := by
  cases checks : rolloutChecks actor target rolloutPercent db with
  | error raised =>
      apply Change.unchanged
      intro configId
      exact congrArg (fun db => rowAt db configId)
        (after_unchecked (rolloutChecks actor target rolloutPercent)
          (rolloutCommit actor target rolloutPercent) db raised checks)
  | ok entity =>
      obtain ⟨_, _, present⟩ := (rolloutChecks_ok actor target rolloutPercent db entity).mp checks
      have returned := (checked_ok (rolloutChecks actor target rolloutPercent)
        (rolloutCommit actor target rolloutPercent) db _ _).mpr
        ⟨entity, checks, rolloutCommit_eq actor target rolloutPercent entity db present⟩
      have result : step db (.gradualRollout actor target rolloutPercent) =
          rolledOut actor target rolloutPercent entity db := after_ok _ _ _ _ returned
      apply Change.adjusted
      intro configId
      rw [result, rowAt, rolledOut, Table.get?_modify_of_some _ _ _ entity present,
        OperationConfiguration.flush_loaded]
      by_cases here : configId = target
      · rw [if_pos here, here, rowAt, present, Option.map_some, adjust, if_pos rfl]
      · have edit : adjust target rolloutPercent configId = id := by
          funext row
          rw [adjust, if_neg here, id]
        rw [if_neg here, edit, Option.map_id, id, rowAt]

theorem checked_rows (actor : User) (configKey : String) (plan : RollbackPlan) (db : ConfigDb)
    (history : History db) (checked : plan.Checked actor configKey db) :
    rowAt db plan.current.1 = some plan.current.2 ∧ plan.current.2.configKey = configKey ∧
      plan.current.2.isActive = true ∧ plan.previous.1 < plan.current.1 ∧
      plan.previous.2.configKey = configKey := by
  obtain ⟨current, selected, _⟩ := highestVersion_some db _ plan.current checked.current
  obtain ⟨key, active⟩ := Bool.and_eq_true_iff.mp selected
  obtain ⟨earlier, previous, found, sameKey⟩ :=
    history.links plan.current.1 plan.current.2 plan.previous.1 current checked.link
  obtain rfl := Option.some.inj (checked.previous.symm.trans found)
  exact ⟨current, beq_iff_eq.mp key, active, earlier, sameKey.trans (beq_iff_eq.mp key)⟩

theorem rollbackOperationConfig_returns (actor : User) (configKey : String) (plan : RollbackPlan)
    (db : ConfigDb) (history : History db) (checked : plan.Checked actor configKey db) :
    rollbackOperationConfig actor configKey db =
      .ok (configToResponse (plan.previous.1, { plan.previous.2 with isActive := true }))
        (rolledBack actor configKey plan db) := by
  obtain ⟨current, _, _, earlier, _⟩ := checked_rows actor configKey plan db history checked
  exact (checked_ok (rollbackChecks actor configKey) (rollbackCommit actor configKey) db _ _).mpr
    ⟨plan, (rollbackChecks_ok actor configKey db plan).mpr checked,
      rollbackCommit_eq actor configKey plan db current checked.previous earlier.ne⟩

theorem rolledBack_rowAt (actor : User) (configKey : String) (plan : RollbackPlan) (db : ConfigDb)
    (history : History db) (checked : plan.Checked actor configKey db) (configId : Nat) :
    rowAt (rolledBack actor configKey plan db) configId =
      (rowAt db configId).map (swapBack plan configId) := by
  obtain ⟨current, _, _, earlier, _⟩ := checked_rows actor configKey plan db history checked
  rw [rowAt, rolledBack_get? actor configKey plan db current checked.previous earlier.ne]
  by_cases atPrevious : configId = plan.previous.1
  · subst atPrevious
    rw [if_pos rfl, rowAt, checked.previous, Option.map_some, swapBack, if_pos rfl]
  · by_cases atCurrent : configId = plan.current.1
    · subst atCurrent
      rw [if_neg atPrevious, if_pos rfl, current, Option.map_some, swapBack, if_neg atPrevious,
        if_pos rfl]
    · have edit : swapBack plan configId = id := by
        funext row
        rw [swapBack, if_neg atPrevious, if_neg atCurrent, id]
      rw [if_neg atPrevious, if_neg atCurrent, edit, Option.map_id, id, rowAt]

theorem rollbackOperationConfig_change (actor : User) (configKey : String) (db : ConfigDb)
    (history : History db) :
    Change db (step db (.rollbackOperationConfig actor configKey))
      (.rollbackOperationConfig actor configKey) := by
  cases checks : rollbackChecks actor configKey db with
  | error raised =>
      apply Change.unchanged
      intro configId
      exact congrArg (fun db => rowAt db configId)
        (after_unchecked (rollbackChecks actor configKey) (rollbackCommit actor configKey) db raised
          checks)
  | ok plan =>
      have checked := (rollbackChecks_ok actor configKey db plan).mp checks
      have returned := rollbackOperationConfig_returns actor configKey plan db history checked
      apply Change.rolledBack actor configKey plan checked
      intro configId
      rw [step, after_ok _ _ _ _ returned]
      exact rolledBack_rowAt actor configKey plan db history checked configId

theorem step_change (db : ConfigDb) (call : Call) (history : History db) :
    Change db (step db call) call := by
  cases call with
  | createOperationConfig env actor payload =>
      exact createOperationConfig_change env actor payload db
  | gradualRollout actor configId rolloutPercent =>
      exact gradualRollout_change actor configId rolloutPercent db
  | rollbackOperationConfig actor configKey =>
      exact rollbackOperationConfig_change actor configKey db history

theorem edited_row (db db' : ConfigDb)
    (edit : Nat → OperationConfiguration → OperationConfiguration) (placeless : Placeless edit)
    (configId : Nat) (row' : OperationConfiguration)
    (edited : rowAt db' configId = (rowAt db configId).map (edit configId))
    (found : rowAt db' configId = some row') :
    ∃ row, rowAt db configId = some row ∧ row' = edit configId row ∧
      row'.configKey = row.configKey ∧ row'.version = row.version ∧
      row'.previousConfigId = row.previousConfigId := by
  rw [edited] at found
  obtain ⟨row, present, rfl⟩ := Option.map_eq_some_iff.mp found
  exact ⟨row, present, rfl, placeless.configKey configId row, placeless.version configId row,
    placeless.link configId row⟩

theorem edited_history (db db' : ConfigDb)
    (edit : Nat → OperationConfiguration → OperationConfiguration) (placeless : Placeless edit)
    (rows : ∀ configId, rowAt db' configId = (rowAt db configId).map (edit configId))
    (history : History db)
    (inForce : ∀ activeId active, rowAt db activeId = some active → active.isActive = true →
      ∃ otherId other, rowAt db otherId = some other ∧ other.configKey = active.configKey ∧
        (edit otherId other).isActive = true) : History db' := by
  constructor
  · intro first row' second other' foundFirst foundSecond sameKey sameVersion
    obtain ⟨row, present, _, key, version, _⟩ :=
      edited_row db db' edit placeless first row' (rows first) foundFirst
    obtain ⟨other, presentOther, _, keyOther, versionOther, _⟩ :=
      edited_row db db' edit placeless second other' (rows second) foundSecond
    exact history.versions first row second other present presentOther
      (key.symm.trans (sameKey.trans keyOther))
      (version.symm.trans (sameVersion.trans versionOther))
  · intro configId row' previousId found link
    obtain ⟨row, present, _, key, _, sameLink⟩ :=
      edited_row db db' edit placeless configId row' (rows configId) found
    obtain ⟨earlier, previous, presentPrevious, keyPrevious⟩ :=
      history.links configId row previousId present (sameLink.symm.trans link)
    refine ⟨earlier, edit previousId previous, ?_, ?_⟩
    · rw [rows, presentPrevious, Option.map_some]
    · rw [placeless.configKey, keyPrevious, key]
  · intro configId row' found
    obtain ⟨row, present, _, key, _, _⟩ :=
      edited_row db db' edit placeless configId row' (rows configId) found
    obtain ⟨activeId, active, presentActive, keyActive, inForceBefore⟩ :=
      history.inForce configId row present
    obtain ⟨otherId, other, presentOther, keyOther, activeOther⟩ :=
      inForce activeId active presentActive inForceBefore
    refine ⟨otherId, edit otherId other, ?_, ?_, activeOther⟩
    · rw [rows, presentOther, Option.map_some]
    · rw [placeless.configKey, keyOther, keyActive, key]

theorem version_lt_next (db : ConfigDb) (configKey : String)
    (latest : Option (Nat × OperationConfiguration))
    (highest : highestVersion db (hasKey configKey) = latest) (configId : Nat)
    (row : OperationConfiguration) (present : rowAt db configId = some row)
    (sameKey : row.configKey = configKey) :
    row.version < latest.elim 1 (fun loaded => loaded.2.version + 1) := by
  have selected : hasKey configKey row = true := beq_iff_eq.mpr sameKey
  obtain ⟨loaded, found⟩ := highestVersion_exists db _ configId row present selected
  obtain rfl : latest = some loaded := highest.symm.trans found
  obtain ⟨_, _, most⟩ := highestVersion_some db _ loaded found
  exact Nat.lt_succ_of_le (most configId row present selected)

theorem newConfig_ahead (db : ConfigDb) (env : Env) (actor : User)
    (payload : OperationConfigCreateRequest) (latest : Option (Nat × OperationConfiguration))
    (highest : highestVersion db (hasKey payload.configKey) = latest) (configId : Nat)
    (row : OperationConfiguration) (present : rowAt db configId = some row)
    (sameKey : row.configKey = payload.configKey) :
    row.version < (newConfig env actor payload latest).version := by
  rw [newConfig]
  exact version_lt_next db payload.configKey latest highest configId row present sameKey

theorem created_row (db db' : ConfigDb) (env : Env) (actor : User)
    (payload : OperationConfigCreateRequest) (latest : Option (Nat × OperationConfiguration))
    (edit : Nat → OperationConfiguration → OperationConfiguration) (placeless : Placeless edit)
    (rows : ∀ configId, rowAt db' configId =
      if configId = db.operationConfigurations.nextKey then some (newConfig env actor payload latest)
      else (rowAt db configId).map (edit configId))
    (configId : Nat) (row' : OperationConfiguration) (found : rowAt db' configId = some row') :
    (configId = db.operationConfigurations.nextKey ∧
        row' = newConfig env actor payload latest) ∨
      ∃ row, rowAt db configId = some row ∧ row' = edit configId row ∧
        row'.configKey = row.configKey ∧ row'.version = row.version ∧
        row'.previousConfigId = row.previousConfigId := by
  have created := rows configId
  by_cases isNew : configId = db.operationConfigurations.nextKey
  · rw [if_pos isNew, found] at created
    exact .inl ⟨isNew, Option.some.inj created⟩
  · rw [if_neg isNew] at created
    exact .inr (edited_row db db' edit placeless configId row' created found)

theorem created_history (db db' : ConfigDb) (env : Env) (actor : User)
    (payload : OperationConfigCreateRequest) (latest : Option (Nat × OperationConfiguration))
    (highest : highestVersion db (hasKey payload.configKey) = latest)
    (rows : ∀ configId, rowAt db' configId =
      if configId = db.operationConfigurations.nextKey then some (newConfig env actor payload latest)
      else (rowAt db configId).map (retire latest configId))
    (history : History db) : History db' := by
  have placeless := retire_placeless latest
  have new := rows db.operationConfigurations.nextKey
  rw [if_pos rfl] at new
  have cases_row := created_row db db' env actor payload latest _ (retire_placeless latest) rows
  have older (configId : Nat) (row : OperationConfiguration)
      (present : rowAt db configId = some row) :
      rowAt db' configId = some (retire latest configId row) := by
    rw [rows, if_neg (rowAt_bound db configId row present).ne, present, Option.map_some]
  have ahead := newConfig_ahead db env actor payload latest highest
  constructor
  · intro first row' second other' foundFirst foundSecond sameKey sameVersion
    rcases cases_row first row' foundFirst with ⟨isFirst, rfl⟩ | ⟨row, present, _, key, version, _⟩
    · rcases cases_row second other' foundSecond with
        ⟨isSecond, _⟩ | ⟨other, presentOther, _, keyOther, versionOther, _⟩
      · exact isFirst.trans isSecond.symm
      · have less := ahead second other presentOther (keyOther.symm.trans sameKey.symm)
        omega
    · rcases cases_row second other' foundSecond with
        ⟨_, rfl⟩ | ⟨other, presentOther, _, keyOther, versionOther, _⟩
      · have less := ahead first row present (key.symm.trans sameKey)
        omega
      · exact history.versions first row second other present presentOther
          (key.symm.trans (sameKey.trans keyOther))
          (version.symm.trans (sameVersion.trans versionOther))
  · intro configId row' previousId found link
    rcases cases_row configId row' found with ⟨isNew, rfl⟩ | ⟨row, present, _, key, _, sameLink⟩
    · obtain ⟨loaded, atLatest, rfl⟩ := Option.map_eq_some_iff.mp link
      obtain ⟨present, selected, _⟩ := highestVersion_some db _ loaded (highest.trans atLatest)
      refine ⟨isNew ▸ rowAt_bound db loaded.1 loaded.2 present, _, older _ _ present, ?_⟩
      rw [placeless.configKey]
      exact beq_iff_eq.mp selected
    · obtain ⟨earlier, previous, presentPrevious, keyPrevious⟩ :=
        history.links configId row previousId present (sameLink.symm.trans link)
      refine ⟨earlier, _, older _ _ presentPrevious, ?_⟩
      rw [placeless.configKey, keyPrevious, key]
  · intro configId row' found
    by_cases ours : row'.configKey = payload.configKey
    · exact ⟨db.operationConfigurations.nextKey, _, new, ours.symm, rfl⟩
    · rcases cases_row configId row' found with ⟨_, rfl⟩ | ⟨row, present, _, key, _, _⟩
      · exact (ours rfl).elim
      obtain ⟨activeId, active, presentActive, keyActive, inForce⟩ :=
        history.inForce configId row present
      refine ⟨activeId, _, older activeId active presentActive, ?_, ?_⟩
      · rw [placeless.configKey, keyActive, key]
      · -- the row a creation deactivates has the key of the creation, not this one
        have untouched : latest.map (·.1) ≠ some activeId := by
          intro same
          obtain ⟨loaded, atLatest, rfl⟩ := Option.map_eq_some_iff.mp same
          obtain ⟨loadedPresent, selected, _⟩ :=
            highestVersion_some db _ loaded (highest.trans atLatest)
          obtain rfl := Option.some.inj (loadedPresent.symm.trans presentActive)
          exact ours (key.trans (keyActive.symm.trans (beq_iff_eq.mp selected)))
        rw [retire, if_neg untouched]
        exact inForce

theorem change_history (db db' : ConfigDb) (call : Call) (history : History db)
    (change : Change db db' call) : History db' := by
  cases change with
  | unchanged call rows =>
      obtain ⟨versions, links, inForce⟩ := history
      constructor
      · simp only [rows]
        exact versions
      · simp only [rows]
        exact links
      · simp only [rows]
        exact inForce
  | created env actor payload latest highest rows =>
      exact created_history db db' env actor payload latest highest rows history
  | adjusted actor target rolloutPercent rows =>
      apply edited_history db db' _ (adjust_placeless target rolloutPercent) rows history
      intro activeId active present inForce
      refine ⟨activeId, active, present, rfl, ?_⟩
      unfold adjust
      split
      · exact inForce
      · exact inForce
  | rolledBack actor configKey plan checked rows =>
      apply edited_history db db' _ (swapBack_placeless plan) rows history
      intro activeId active present inForce
      obtain ⟨current, currentKey, _, _, previousKey⟩ :=
        checked_rows actor configKey plan db history checked
      by_cases ours : active.configKey = configKey
      · refine ⟨plan.previous.1, plan.previous.2, checked.previous, previousKey.trans ours.symm, ?_⟩
        rw [swapBack, if_pos rfl]
      · have notPrevious : activeId ≠ plan.previous.1 := by
          rintro rfl
          obtain rfl := Option.some.inj (present.symm.trans checked.previous)
          exact ours previousKey
        have notCurrent : activeId ≠ plan.current.1 := by
          rintro rfl
          obtain rfl := Option.some.inj (present.symm.trans current)
          exact ours currentKey
        refine ⟨activeId, active, present, rfl, ?_⟩
        rw [swapBack, if_neg notPrevious, if_neg notCurrent]
        exact inForce

theorem step_history (db : ConfigDb) (call : Call) (history : History db) :
    History (step db call) := change_history db _ call history (step_change db call history)

theorem start_history : History ConfigDb.start := by
  have none (configId : Nat) : rowAt ConfigDb.start configId = none := by
    rw [rowAt, ConfigDb.start, Table.get?_empty]
  constructor <;> simp [none]

theorem run_history (calls : List Call) : History (run ConfigDb.start calls) :=
  Runs.run_preserves step History step_history _ calls start_history

end RetailApp.Configuration
