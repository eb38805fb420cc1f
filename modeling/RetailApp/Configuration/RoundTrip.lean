import RetailApp.Configuration.ActiveRows

/-! A creation followed by a rollback of the same key. -/

namespace RetailApp.Configuration

open Transaction

/-- The rows of a key that are in force, with their keys in the table. -/
def InForce (db : ConfigDb) (configKey : String) (configId : Nat) (row : OperationConfiguration) :
    Prop :=
  rowAt db configId = some row ∧ row.configKey = configKey ∧ row.isActive = true

def undoPlan (db : ConfigDb) (env : Env) (actor : User) (payload : OperationConfigCreateRequest)
    (latest : Nat × OperationConfiguration) : RollbackPlan where
  current := (db.operationConfigurations.nextKey, newConfig env actor payload (some latest))
  previous := (latest.1, { latest.2 with isActive := false })

theorem undoPlan_checked (db : ConfigDb) (env : Env) (creator actor : User)
    (payload : OperationConfigCreateRequest) (latest : Nat × OperationConfiguration)
    (mayCreate : isOpsAdmin creator = true) (mayRollBack : isOpsAdmin actor = true)
    (highest : highestVersion db (hasKey payload.configKey) = some latest) :
    (undoPlan db env creator payload latest).Checked actor payload.configKey
      (step db (.createOperationConfig env creator payload)) := by
  have rows := createOperationConfig_rowAt env creator payload db mayCreate
  rw [highest] at rows
  generalize step db (.createOperationConfig env creator payload) = db' at *
  obtain ⟨present, _, _⟩ := highestVersion_some db _ latest highest
  constructor
  · exact mayRollBack
  · apply highestVersion_of_ahead
    · have new := rows db.operationConfigurations.nextKey
      rwa [if_pos rfl] at new
    · simp [activeWithKey, newConfig]
    · intro other found presentOther selected notNew
      rcases created_row db db' env creator payload _ _ (retire_placeless _) rows other found
        presentOther with
        ⟨isNew, _⟩ | ⟨row, before, _, key, version, _⟩
      · exact (notNew isNew).elim
      have ours := beq_iff_eq.mp (Bool.and_eq_true_iff.mp selected).1
      have less := newConfig_ahead db env creator payload _ highest other row before
        (key.symm.trans ours)
      exact version ▸ less
  · rfl
  · have found : rowAt db latest.1 = some latest.2 := present
    have old := rows latest.1
    rw [if_neg (rowAt_bound db latest.1 latest.2 present).ne, found, Option.map_some, retire,
      Option.map_some, if_pos rfl] at old
    exact old

theorem undone_rowAt (db : ConfigDb) (env : Env) (creator actor : User)
    (payload : OperationConfigCreateRequest) (latest : Nat × OperationConfiguration)
    (history : History db) (mayCreate : isOpsAdmin creator = true)
    (mayRollBack : isOpsAdmin actor = true)
    (highest : highestVersion db (hasKey payload.configKey) = some latest) (configId : Nat)
    (old : configId ≠ db.operationConfigurations.nextKey) :
    rowAt (rolledBack actor payload.configKey (undoPlan db env creator payload latest)
        (step db (.createOperationConfig env creator payload))) configId =
      if configId = latest.1 then some { latest.2 with isActive := true }
      else rowAt db configId := by
  have rows := createOperationConfig_rowAt env creator payload db mayCreate configId
  rw [highest, if_neg old] at rows
  have checked := undoPlan_checked db env creator actor payload latest mayCreate mayRollBack highest
  have later := step_history db (.createOperationConfig env creator payload) history
  rw [rolledBack_rowAt actor payload.configKey _ _ later checked, rows]
  obtain ⟨present, _, _⟩ := highestVersion_some db _ latest highest
  by_cases here : configId = latest.1
  · subst here
    rw [if_pos rfl, rowAt, present]
    simp [swapBack, undoPlan, retire]
  · have edit : swapBack (undoPlan db env creator payload latest) configId ∘
        retire (some latest) configId = id := by
      funext row
      simp [swapBack, undoPlan, retire, here, old, Ne.symm here]
    rw [if_neg here, Option.map_map, edit, Option.map_id, id]

theorem undone_inForce (db : ConfigDb) (env : Env) (creator actor : User)
    (payload : OperationConfigCreateRequest) (latest : Nat × OperationConfiguration)
    (history : History db) (mayCreate : isOpsAdmin creator = true)
    (mayRollBack : isOpsAdmin actor = true)
    (highest : highestVersion db (hasKey payload.configKey) = some latest)
    (active : latest.2.isActive = true) (configId : Nat) (row : OperationConfiguration) :
    InForce (rolledBack actor payload.configKey (undoPlan db env creator payload latest)
        (step db (.createOperationConfig env creator payload))) payload.configKey configId row ↔
      InForce db payload.configKey configId row := by
  obtain ⟨present, _, _⟩ := highestVersion_some db _ latest highest
  by_cases isNew : configId = db.operationConfigurations.nextKey
  · subst isNew
    have checked :=
      undoPlan_checked db env creator actor payload latest mayCreate mayRollBack highest
    have later := step_history db (.createOperationConfig env creator payload) history
    have absent : rowAt db db.operationConfigurations.nextKey = none := Table.get?_nextKey _
    have other : db.operationConfigurations.nextKey ≠ latest.1 :=
      (rowAt_bound db latest.1 latest.2 present).ne'
    have idle (row : OperationConfiguration) :
        (swapBack (undoPlan db env creator payload latest) db.operationConfigurations.nextKey
          row).isActive = false := by
      simp [swapBack, undoPlan, other]
    rw [InForce, InForce, rolledBack_rowAt actor payload.configKey _ _ later checked, absent]
    constructor
    · rintro ⟨found, _, inForce⟩
      obtain ⟨before, _, rfl⟩ := Option.map_eq_some_iff.mp found
      rw [idle] at inForce
      cases inForce
    · rintro ⟨found, _⟩
      cases found
  · have same : ({ latest.2 with isActive := true } : OperationConfiguration) = latest.2 := by
      obtain ⟨latestId, latestRow⟩ := latest
      cases latestRow
      simp_all
    rw [InForce, InForce, undone_rowAt db env creator actor payload latest history mayCreate
      mayRollBack highest configId isNew, same]
    by_cases here : configId = latest.1
    · rw [if_pos here, here, rowAt, present]
    · rw [if_neg here]

theorem highest_in_force (db : ConfigDb) (configKey : String)
    (current latest : Nat × OperationConfiguration) (history : History db)
    (inForce : highestVersion db (activeWithKey configKey) = some current)
    (highest : highestVersion db (hasKey configKey) = some latest)
    (active : latest.2.isActive = true) : current = latest := by
  obtain ⟨presentCurrent, selectedCurrent, most⟩ := highestVersion_some db _ current inForce
  obtain ⟨presentLatest, selectedLatest, mostOfAll⟩ := highestVersion_some db _ latest highest
  have keyCurrent : current.2.configKey = configKey :=
    beq_iff_eq.mp (Bool.and_eq_true_iff.mp selectedCurrent).1
  have keyLatest : latest.2.configKey = configKey := beq_iff_eq.mp selectedLatest
  have up := mostOfAll current.1 current.2 presentCurrent (beq_iff_eq.mpr keyCurrent)
  have down := most latest.1 latest.2 presentLatest
    (Bool.and_eq_true_iff.mpr ⟨beq_iff_eq.mpr keyLatest, active⟩)
  have sameId := history.versions current.1 current.2 latest.1 latest.2 presentCurrent presentLatest
    (keyCurrent.trans keyLatest.symm) (Nat.le_antisymm up down)
  rw [sameId, presentLatest] at presentCurrent
  exact Prod.ext sameId (Option.some.inj presentCurrent).symm

theorem rollback_undoes_create_iff (calls : List Call) (env : Env) (creator actor : User)
    (payload : OperationConfigCreateRequest) (current : Nat × OperationConfiguration)
    (mayCreate : isOpsAdmin creator = true) (mayRollBack : isOpsAdmin actor = true)
    (inForce : highestVersion (run ConfigDb.start calls) (activeWithKey payload.configKey) =
      some current) :
    (∃ db'', rollbackOperationConfig actor payload.configKey
        (step (run ConfigDb.start calls) (.createOperationConfig env creator payload)) =
          .ok (configToResponse current) db'' ∧
      ∀ configId row, InForce db'' payload.configKey configId row ↔
        InForce (run ConfigDb.start calls) payload.configKey configId row) ↔
      ∃ latest, highestVersion (run ConfigDb.start calls) (hasKey payload.configKey) = some latest ∧
        latest.2.isActive = true := by
  have history := run_history calls
  generalize run ConfigDb.start calls = db at *
  obtain ⟨presentCurrent, selected, _⟩ := highestVersion_some db _ current inForce
  obtain ⟨latest, highest⟩ := highestVersion_exists db (hasKey payload.configKey) current.1
    current.2 presentCurrent (Bool.and_eq_true_iff.mp selected).1
  obtain ⟨present, _, _⟩ := highestVersion_some db _ latest highest
  have checked := undoPlan_checked db env creator actor payload latest mayCreate mayRollBack highest
  have later := step_history db (.createOperationConfig env creator payload) history
  have returned := rollbackOperationConfig_returns actor payload.configKey _ _ later checked
  constructor
  · rintro ⟨db'', answered, _⟩
    rw [returned] at answered
    have sameId : latest.1 = current.1 :=
      congrArg OperationConfigResponse.id (EStateM.Result.ok.inj answered).1
    rw [sameId, presentCurrent] at present
    refine ⟨latest, highest, ?_⟩
    rw [← Option.some.inj present]
    exact (Bool.and_eq_true_iff.mp selected).2
  · rintro ⟨_, found, active⟩
    obtain rfl := Option.some.inj (highest.symm.trans found)
    obtain rfl :=
      highest_in_force db payload.configKey current latest history inForce highest active
    refine ⟨_, ?_, undone_inForce db env creator actor payload current history mayCreate mayRollBack
      highest active⟩
    rw [returned]
    have same : configToResponse ((undoPlan db env creator payload current).previous.1,
        { (undoPlan db env creator payload current).previous.2 with isActive := true }) =
          configToResponse current := by
      simp [configToResponse, undoPlan, active]
    rw [same]

def firstRiskModel : Nat × OperationConfiguration :=
  (highestVersion (run ConfigDb.start [createRiskModel]) (activeWithKey "risk_model_v2")).get
    (by decide +kernel)

theorem rollback_undoes_first_create : ∃ db'',
    rollbackOperationConfig operator "risk_model_v2"
        (step (run ConfigDb.start [createRiskModel]) createRiskModel) =
          .ok (configToResponse firstRiskModel) db'' ∧
      ∀ configId row, InForce db'' "risk_model_v2" configId row ↔
        InForce (run ConfigDb.start [createRiskModel]) "risk_model_v2" configId row :=
  (rollback_undoes_create_iff [createRiskModel] (clockAt 0) operator operator
    (riskModel 20 (by decide)) firstRiskModel (by decide) (by decide)
    (Option.some_get _).symm).mpr ⟨_, (Option.some_get (by decide +kernel)).symm, by decide +kernel⟩

/-- After two versions and a rollback version 1 is in force; a creation and a rollback then
answer with version 2 and leave both in force. -/
theorem rollback_returns_another_row :
    (highestVersion (run ConfigDb.start [createRiskModel, createRiskModel, rollbackRiskModel])
        (activeWithKey "risk_model_v2")).map (·.1) = some 1 ∧
      (match reply (rollbackOperationConfig operator "risk_model_v2") rolledBackThenCreated with
        | .ok response => some response.id
        | .error _ => none) = some 2 ∧
      ((step rolledBackThenCreated rollbackRiskModel).operationConfigurations.entries.filter
          (fun entry => activeWithKey "risk_model_v2" entry.2)).map (·.1) = [1, 2] := by
  decide +kernel

end RetailApp.Configuration
