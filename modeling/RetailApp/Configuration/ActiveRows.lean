import RetailApp.Configuration.Calls

/-! Which rows of a key are in force. Creation retires the row of the highest version,
rollback the one in force; the two agree exactly while the highest row is in force. -/

namespace RetailApp.Configuration

open Transaction

def AtMostOneActive (db : ConfigDb) : Prop :=
  ∀ first row second row', rowAt db first = some row → rowAt db second = some row' →
    row.configKey = row'.configKey → row.isActive = true → row'.isActive = true → first = second

/-- At most one row of one key is in force. -/
def ActiveOnce (configKey : String) (db : ConfigDb) : Prop :=
  ∀ first row second row', rowAt db first = some row → rowAt db second = some row' →
    row.configKey = configKey → row'.configKey = configKey → row.isActive = true →
    row'.isActive = true → first = second

def SomeInForce (configKey : String) (db : ConfigDb) : Prop :=
  ∀ configId row, rowAt db configId = some row → row.configKey = configKey →
    ∃ activeId active, rowAt db activeId = some active ∧ active.configKey = configKey ∧
      active.isActive = true

theorem atMostOne_iff (db : ConfigDb) :
    AtMostOneActive db ↔ ∀ configKey, ActiveOnce configKey db := by
  constructor
  · intro single configKey first row second other present presentOther key keyOther
    exact single first row second other present presentOther (key.trans keyOther.symm)
  · intro each first row second other present presentOther sameKey
    exact each row.configKey first row second other present presentOther rfl sameKey.symm

theorem History.key_someInForce (db : ConfigDb) (history : History db) (configKey : String) :
    SomeInForce configKey db := by
  rintro configId row present rfl
  exact history.inForce configId row present

/-- The row a creation is going to retire is the one in force. -/
def RetiresActive (db : ConfigDb) : Call → Prop
  | .createOperationConfig _ actor payload => isOpsAdmin actor = true →
      ∀ latest, highestVersion db (hasKey payload.configKey) = some latest →
        latest.2.isActive = true
  | .gradualRollout _ _ _ => True
  | .rollbackOperationConfig _ _ => True

theorem retire_active (latest : Option (Nat × OperationConfiguration)) (configId : Nat)
    (row : OperationConfiguration) :
    (retire latest configId row).isActive = true ↔
      row.isActive = true ∧ latest.map (·.1) ≠ some configId := by
  unfold retire
  split
  · rename_i hit
    simp [hit]
  · rename_i miss
    simp [miss]

theorem atMostOne_of_fewer (db db' : ConfigDb)
    (edit : Nat → OperationConfiguration → OperationConfiguration) (placeless : Placeless edit)
    (rows : ∀ configId, rowAt db' configId = (rowAt db configId).map (edit configId))
    (fewer : ∀ configId row, (edit configId row).isActive = true → row.isActive = true)
    (single : AtMostOneActive db) : AtMostOneActive db' := by
  intro first row' second other' foundFirst foundSecond sameKey activeFirst activeSecond
  obtain ⟨row, present, rfl, key, _, _⟩ :=
    edited_row db db' edit placeless first row' (rows first) foundFirst
  obtain ⟨other, presentOther, rfl, keyOther, _, _⟩ :=
    edited_row db db' edit placeless second other' (rows second) foundSecond
  exact single first row second other present presentOther
    (key.symm.trans (sameKey.trans keyOther)) (fewer first row activeFirst)
    (fewer second other activeSecond)

theorem created_activeOnce_iff (db db' : ConfigDb) (env : Env) (actor : User)
    (payload : OperationConfigCreateRequest) (latest : Option (Nat × OperationConfiguration))
    (highest : highestVersion db (hasKey payload.configKey) = latest)
    (rows : ∀ configId, rowAt db' configId =
      if configId = db.operationConfigurations.nextKey then some (newConfig env actor payload latest)
      else (rowAt db configId).map (retire latest configId))
    (inForce : SomeInForce payload.configKey db) (once : ActiveOnce payload.configKey db) :
    ActiveOnce payload.configKey db' ↔
      ∀ loaded, latest = some loaded → loaded.2.isActive = true := by
  have new := rows db.operationConfigurations.nextKey
  rw [if_pos rfl] at new
  constructor
  · intro after loaded rfl
    obtain ⟨present, selected, _⟩ := highestVersion_some db _ loaded highest
    have ours := beq_iff_eq.mp selected
    by_contra idle
    obtain ⟨activeId, active, presentActive, sameKey, isActive⟩ :=
      inForce loaded.1 loaded.2 present ours
    have another : loaded.1 ≠ activeId := by
      rintro rfl
      obtain rfl := Option.some.inj (present.symm.trans presentActive)
      exact idle isActive
    have bound := rowAt_bound db activeId active presentActive
    have kept := rows activeId
    rw [if_neg bound.ne, presentActive, Option.map_some] at kept
    have still : (retire (some loaded) activeId active).isActive = true :=
      (retire_active _ _ _).mpr ⟨isActive, by simpa using another⟩
    have key := (retire_placeless (some loaded)).configKey activeId active
    have clash := after activeId _ db.operationConfigurations.nextKey _ kept new
      (key.trans sameKey) rfl still rfl
    exact bound.ne clash
  · intro retiresActive
    -- a row of the key that stays in force would be a second one before the creation
    have lone (configId : Nat) (row : OperationConfiguration)
        (present : rowAt db configId = some row) (ours : row.configKey = payload.configKey)
        (active : (retire latest configId row).isActive = true) : False := by
      obtain ⟨isActive, kept⟩ := (retire_active _ _ _).mp active
      have chosen : hasKey payload.configKey row = true := beq_iff_eq.mpr ours
      obtain ⟨loaded, found⟩ := highestVersion_exists db _ configId row present chosen
      have read : latest = some loaded := highest.symm.trans found
      obtain ⟨presentLatest, selected, _⟩ := highestVersion_some db _ loaded found
      have same := once loaded.1 loaded.2 configId row presentLatest present
        (beq_iff_eq.mp selected) ours (retiresActive loaded read) isActive
      exact kept (by simp [read, same])
    have cases_row := created_row db db' env actor payload latest _ (retire_placeless latest) rows
    intro first row' second other' foundFirst foundSecond keyFirst keySecond activeFirst activeSecond
    rcases cases_row first row' foundFirst with ⟨isFirst, _⟩ | ⟨row, present, rfl, key, _, _⟩
    · rcases cases_row second other' foundSecond with
        ⟨isSecond, _⟩ | ⟨other, presentOther, rfl, keyOther, _, _⟩
      · exact isFirst.trans isSecond.symm
      · exact (lone second other presentOther (keyOther.symm.trans keySecond) activeSecond).elim
    · exact (lone first row present (key.symm.trans keyFirst) activeFirst).elim

theorem created_atMostOne_iff (env : Env) (actor : User) (payload : OperationConfigCreateRequest)
    (db : ConfigDb) (allowed : isOpsAdmin actor = true) (history : History db)
    (single : AtMostOneActive db) :
    AtMostOneActive (step db (.createOperationConfig env actor payload)) ↔
      ∀ latest, highestVersion db (hasKey payload.configKey) = some latest →
        latest.2.isActive = true := by
  have rows := createOperationConfig_rowAt env actor payload db allowed
  have own := created_activeOnce_iff db _ env actor payload _ rfl rows
    (history.key_someInForce db payload.configKey) ((atMostOne_iff db).mp single payload.configKey)
  rw [atMostOne_iff, ← own]
  refine ⟨fun each => each payload.configKey, ?_⟩
  intro once configKey
  by_cases ours : configKey = payload.configKey
  · rw [ours]
    exact once
  -- the creation leaves the rows of every other key as they are
  have cases_row := created_row db _ env actor payload _ _ (retire_placeless _) rows
  have before (configId : Nat) (row' : OperationConfiguration)
      (found : rowAt (step db (.createOperationConfig env actor payload)) configId = some row')
      (theirs : row'.configKey = configKey) (active : row'.isActive = true) :
      ∃ row, rowAt db configId = some row ∧ row.configKey = configKey ∧ row.isActive = true := by
    rcases cases_row configId row' found with ⟨_, rfl⟩ | ⟨row, present, rfl, key, _, _⟩
    · exact (ours theirs.symm).elim
    · exact ⟨row, present, key.symm.trans theirs, ((retire_active _ _ _).mp active).1⟩
  intro first row second other foundFirst foundSecond keyFirst keySecond activeFirst activeSecond
  obtain ⟨row, present, key, active⟩ := before first row foundFirst keyFirst activeFirst
  obtain ⟨other, presentOther, keyOther, activeOther⟩ :=
    before second other foundSecond keySecond activeSecond
  exact single first row second other present presentOther (key.trans keyOther.symm) active
    activeOther

theorem rolledBack_atMostOne (actor : User) (configKey : String) (plan : RollbackPlan)
    (db db' : ConfigDb) (history : History db) (checked : plan.Checked actor configKey db)
    (rows : ∀ configId, rowAt db' configId = (rowAt db configId).map (swapBack plan configId))
    (single : AtMostOneActive db) : AtMostOneActive db' := by
  obtain ⟨current, currentKey, inForce, _, previousKey⟩ :=
    checked_rows actor configKey plan db history checked
  -- the only row in force that the swap leaves in force is the previous one, or of another key
  have lone (configId : Nat) (row : OperationConfiguration) (present : rowAt db configId = some row)
      (ours : row.configKey = configKey)
      (active : (swapBack plan configId row).isActive = true) : configId = plan.previous.1 := by
    by_contra notPrevious
    rw [swapBack, if_neg notPrevious] at active
    by_cases isCurrent : configId = plan.current.1
    · simp [isCurrent] at active
    · rw [if_neg isCurrent] at active
      exact isCurrent (single configId row plan.current.1 plan.current.2 present current
        (ours.trans currentKey.symm) active inForce)
  have others (configId : Nat) (row : OperationConfiguration)
      (present : rowAt db configId = some row)
      (theirs : row.configKey ≠ configKey)
      (active : (swapBack plan configId row).isActive = true) : row.isActive = true := by
    have notPrevious : configId ≠ plan.previous.1 := by
      rintro rfl
      obtain rfl := Option.some.inj (present.symm.trans checked.previous)
      exact theirs previousKey
    rw [swapBack, if_neg notPrevious] at active
    by_cases isCurrent : configId = plan.current.1
    · simp [isCurrent] at active
    · rwa [if_neg isCurrent] at active
  intro first row' second other' foundFirst foundSecond sameKey activeFirst activeSecond
  obtain ⟨row, present, rfl, key, _, _⟩ :=
    edited_row db db' _ (swapBack_placeless plan) first row' (rows first) foundFirst
  obtain ⟨other, presentOther, rfl, keyOther, _, _⟩ :=
    edited_row db db' _ (swapBack_placeless plan) second other' (rows second) foundSecond
  have same : row.configKey = other.configKey := key.symm.trans (sameKey.trans keyOther)
  by_cases ours : row.configKey = configKey
  · rw [lone first row present ours activeFirst,
      lone second other presentOther (same.symm.trans ours) activeSecond]
  · exact single first row second other present presentOther same
      (others first row present ours activeFirst)
      (others second other presentOther (fun theirs => ours (same.trans theirs)) activeSecond)

theorem step_atMostOne_iff (db : ConfigDb) (call : Call) (history : History db)
    (single : AtMostOneActive db) :
    AtMostOneActive (step db call) ↔ RetiresActive db call := by
  have unchanged (db' : ConfigDb) (rows : ∀ configId, rowAt db' configId = rowAt db configId) :
      AtMostOneActive db' := by
    intro first row second row' foundFirst foundSecond
    rw [rows] at foundFirst foundSecond
    exact single first row second row' foundFirst foundSecond
  cases call with
  | createOperationConfig env actor payload =>
      cases allowed : isOpsAdmin actor with
      | false =>
          have same : step db (.createOperationConfig env actor payload) = db :=
            createOperationConfig_denied env actor payload db allowed
          rw [same]
          simp [RetiresActive, allowed, single]
      | true =>
          rw [created_atMostOne_iff env actor payload db allowed history single]
          simp [RetiresActive, allowed]
  | gradualRollout actor configId rolloutPercent =>
      refine iff_of_true ?_ trivial
      cases gradualRollout_change actor configId rolloutPercent db with
      | unchanged _ rows => exact unchanged _ rows
      | adjusted _ _ _ rows =>
          apply atMostOne_of_fewer db _ _ (adjust_placeless configId rolloutPercent) rows _ single
          intro otherId row
          unfold adjust
          split <;> exact id
  | rollbackOperationConfig actor configKey =>
      refine iff_of_true ?_ trivial
      cases rollbackOperationConfig_change actor configKey db history with
      | unchanged _ rows => exact unchanged _ rows
      | rolledBack _ _ plan checked rows =>
          exact rolledBack_atMostOne actor configKey plan db _ history checked rows single

/-- At most one row of a key is in force throughout a run exactly when every creation finds
the highest version of its key in force. -/
theorem atMostOneActive_iff (calls : List Call) :
    Runs.Throughout step AtMostOneActive ConfigDb.start calls ↔
      Runs.Along step RetiresActive ConfigDb.start calls := by
  apply Runs.throughout_iff_along step History AtMostOneActive RetiresActive step_history
    step_atMostOne_iff _ calls start_history
  intro first row second row' found
  rw [rowAt, ConfigDb.start, Table.get?_empty] at found
  cases found

/-! Concrete runs on one key, by an operator who may do everything. -/

def operator : User := ⟨1, true, []⟩

def clockAt (now : Time) : Env := ⟨now, "", id, RowOrder.byKey, RowOrder.byKey, RowOrder.byKey⟩

def riskModel (rolloutPercent : Int) (bounds : 0 ≤ rolloutPercent ∧ rolloutPercent ≤ 100) :
    OperationConfigCreateRequest :=
  ⟨"risk_model_v2", "on", rolloutPercent, by decide, by decide, bounds⟩

def createRiskModel : Call :=
  .createOperationConfig (clockAt 0) operator (riskModel 20 (by decide))

def rollbackRiskModel : Call := .rollbackOperationConfig operator "risk_model_v2"

def rolledBackThenCreated : ConfigDb :=
  run ConfigDb.start [createRiskModel, createRiskModel, rollbackRiskModel, createRiskModel]

/-- Version 1 comes back into force, and the next creation retires version 2 instead of it. -/
theorem two_rows_active :
    (rowAt rolledBackThenCreated 1).map (fun row => (row.configKey, row.isActive)) =
        some ("risk_model_v2", true) ∧
      (rowAt rolledBackThenCreated 3).map (fun row => (row.configKey, row.isActive)) =
        some ("risk_model_v2", true) := by
  decide +kernel

end RetailApp.Configuration
