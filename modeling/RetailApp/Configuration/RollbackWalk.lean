import RetailApp.Library.Numbering
import RetailApp.Configuration.ActiveRows

/-! The rows of a key form one chain of versions, and rollbacks walk it down. -/

namespace RetailApp.Configuration

open Transaction

def rowsOf (db : ConfigDb) (configKey : String) : List (Nat × OperationConfiguration) :=
  db.operationConfigurations.entries.filter (fun entry => hasKey configKey entry.2)

def versionsOf (db : ConfigDb) (configKey : String) : List Nat :=
  (rowsOf db configKey).map (fun entry => entry.2.version)

/-- A row is the first of its key, or links to the row of its key one version below. -/
def Follows (db : ConfigDb) (row : OperationConfiguration) : Prop :=
  (row.version = 1 ∧ row.previousConfigId = none) ∨
    ∃ previousId previous, row.previousConfigId = some previousId ∧
      rowAt db previousId = some previous ∧ previous.configKey = row.configKey ∧
      row.version = previous.version + 1

structure Chain (db : ConfigDb) : Prop where
  history : History db
  follows : ∀ configId row, rowAt db configId = some row → Follows db row

theorem mem_rowsOf (db : ConfigDb) (configKey : String) (entry : Nat × OperationConfiguration) :
    entry ∈ rowsOf db configKey ↔
      rowAt db entry.1 = some entry.2 ∧ entry.2.configKey = configKey := by
  rw [rowsOf, List.mem_filter, Table.mem_entries, hasKey, beq_iff_eq, rowAt]

theorem follows_positive (db : ConfigDb) (row : OperationConfiguration)
    (follows : Follows db row) : 1 ≤ row.version := by
  rcases follows with ⟨first, _⟩ | ⟨_, _, _, _, _, above⟩
  · exact first.ge
  · omega

theorem follows_moved (db db' : ConfigDb) (row row' : OperationConfiguration)
    (key : row'.configKey = row.configKey) (version : row'.version = row.version)
    (link : row'.previousConfigId = row.previousConfigId)
    (kept : ∀ configId old, rowAt db configId = some old →
      ∃ new, rowAt db' configId = some new ∧ new.configKey = old.configKey ∧
        new.version = old.version)
    (follows : Follows db row) : Follows db' row' := by
  rcases follows with ⟨first, unlinked⟩ | ⟨previousId, previous, linked, present, sameKey, above⟩
  · exact .inl ⟨version.trans first, link.trans unlinked⟩
  · obtain ⟨new, found, newKey, newVersion⟩ := kept previousId previous present
    refine .inr ⟨previousId, new, link.trans linked, found, ?_, ?_⟩
    · rw [newKey, sameKey, key]
    · rw [version, above, newVersion]

theorem edited_follows (db db' : ConfigDb)
    (edit : Nat → OperationConfiguration → OperationConfiguration) (placeless : Placeless edit)
    (rows : ∀ configId, rowAt db' configId = (rowAt db configId).map (edit configId))
    (follows : ∀ configId row, rowAt db configId = some row → Follows db row) (configId : Nat)
    (row' : OperationConfiguration) (found : rowAt db' configId = some row') : Follows db' row' := by
  obtain ⟨row, present, _, key, version, link⟩ :=
    edited_row db db' edit placeless configId row' (rows configId) found
  apply follows_moved db db' row row' key version link
  · intro other old before
    refine ⟨edit other old, ?_, placeless.configKey other old, placeless.version other old⟩
    rw [rows, before, Option.map_some]
  · exact follows configId row present

theorem created_follows (db db' : ConfigDb) (env : Env) (actor : User)
    (payload : OperationConfigCreateRequest) (latest : Option (Nat × OperationConfiguration))
    (highest : highestVersion db (hasKey payload.configKey) = latest)
    (rows : ∀ configId, rowAt db' configId =
      if configId = db.operationConfigurations.nextKey then some (newConfig env actor payload latest)
      else (rowAt db configId).map (retire latest configId))
    (follows : ∀ configId row, rowAt db configId = some row → Follows db row) (configId : Nat)
    (row' : OperationConfiguration) (found : rowAt db' configId = some row') : Follows db' row' := by
  have placeless := retire_placeless latest
  have older (other : Nat) (old : OperationConfiguration) (before : rowAt db other = some old) :
      rowAt db' other = some (retire latest other old) := by
    rw [rows, if_neg (rowAt_bound db other old before).ne, before, Option.map_some]
  rcases created_row db db' env actor payload latest _ placeless rows configId row' found with
    ⟨_, rfl⟩ | ⟨row, present, _, key, version, link⟩
  · cases latest with
    | none => exact .inl ⟨rfl, rfl⟩
    | some loaded =>
        obtain ⟨present, selected, _⟩ := highestVersion_some db _ loaded highest
        refine .inr ⟨loaded.1, _, rfl, older loaded.1 loaded.2 present, ?_, ?_⟩
        · rw [placeless.configKey]
          exact beq_iff_eq.mp selected
        · rw [placeless.version]
          rfl
  · apply follows_moved db db' row row' key version link
    · intro other old before
      exact ⟨_, older other old before, placeless.configKey other old, placeless.version other old⟩
    · exact follows configId row present

theorem step_chain (db : ConfigDb) (call : Call) (chain : Chain db) : Chain (step db call) := by
  have change := step_change db call chain.history
  refine ⟨step_history db call chain.history, ?_⟩
  generalize step db call = db' at change
  intro configId row' found
  cases change with
  | unchanged call rows =>
      have follows := chain.follows configId row' ((rows configId).symm.trans found)
      apply follows_moved db db' row' row' rfl rfl rfl _ follows
      intro other old before
      exact ⟨old, (rows other).trans before, rfl, rfl⟩
  | created env actor payload latest highest rows =>
      exact created_follows db db' env actor payload latest highest rows chain.follows configId row'
        found
  | adjusted actor target rolloutPercent rows =>
      exact edited_follows db db' _ (adjust_placeless target rolloutPercent) rows chain.follows
        configId row' found
  | rolledBack actor configKey plan checked rows =>
      exact edited_follows db db' _ (swapBack_placeless plan) rows chain.follows configId row' found

theorem run_chain (calls : List Call) : Chain (run ConfigDb.start calls) := by
  apply Runs.run_preserves step Chain step_chain
  refine ⟨start_history, ?_⟩
  intro configId row found
  rw [rowAt, ConfigDb.start, Table.get?_empty] at found
  cases found

theorem versionsOf_nodup (db : ConfigDb) (configKey : String) (chain : Chain db) :
    (versionsOf db configKey).Nodup := by
  apply List.Nodup.map_on
  · intro entry member other memberOther same
    obtain ⟨present, key⟩ := (mem_rowsOf db configKey entry).mp member
    obtain ⟨presentOther, keyOther⟩ := (mem_rowsOf db configKey other).mp memberOther
    have sameId := chain.history.versions entry.1 entry.2 other.1 other.2 present presentOther
      (key.trans keyOther.symm) same
    rw [sameId, presentOther] at present
    exact Prod.ext sameId (Option.some.inj present).symm
  · exact List.Nodup.filter _ (List.Nodup.of_map _ (Table.entries_keys db.operationConfigurations))

theorem versionsOf_perm (db : ConfigDb) (configKey : String) (chain : Chain db) :
    (versionsOf db configKey).Perm (List.range' 1 (rowsOf db configKey).length) := by
  have numbered := Numbering.perm_range_of_closed (versionsOf db configKey)
    (versionsOf_nodup db configKey chain)
  rw [versionsOf, List.length_map] at numbered
  apply numbered
  · intro version member
    obtain ⟨entry, inside, rfl⟩ := List.mem_map.mp member
    obtain ⟨present, _⟩ := (mem_rowsOf db configKey entry).mp inside
    exact follows_positive db entry.2 (chain.follows entry.1 entry.2 present)
  · intro below member
    obtain ⟨entry, inside, version⟩ := List.mem_map.mp member
    obtain ⟨present, key⟩ := (mem_rowsOf db configKey entry).mp inside
    rcases chain.follows entry.1 entry.2 present with
      ⟨first, _⟩ | ⟨previousId, previous, _, found, sameKey, above⟩
    · omega
    · apply List.mem_map.mpr
      refine ⟨(previousId, previous), ?_, ?_⟩
      · exact (mem_rowsOf db configKey _).mpr ⟨found, sameKey.trans key⟩
      · simp only
        omega

theorem firstVersion_unlinked (db : ConfigDb) (configKey : String) (chain : Chain db)
    (entry : Nat × OperationConfiguration) (member : entry ∈ rowsOf db configKey)
    (first : entry.2.version = 1) : entry.2.previousConfigId = none := by
  obtain ⟨present, _⟩ := (mem_rowsOf db configKey entry).mp member
  rcases chain.follows entry.1 entry.2 present with
    ⟨_, unlinked⟩ | ⟨previousId, previous, _, found, _, above⟩
  · exact unlinked
  · have low := follows_positive db previous (chain.follows previousId previous found)
    omega

theorem nextVersion_linked (db : ConfigDb) (configKey : String) (chain : Chain db)
    (entry next : Nat × OperationConfiguration) (member : entry ∈ rowsOf db configKey)
    (memberNext : next ∈ rowsOf db configKey)
    (consecutive : next.2.version = entry.2.version + 1) :
    next.2.previousConfigId = some entry.1 := by
  obtain ⟨present, key⟩ := (mem_rowsOf db configKey entry).mp member
  obtain ⟨presentNext, keyNext⟩ := (mem_rowsOf db configKey next).mp memberNext
  have low := follows_positive db entry.2 (chain.follows entry.1 entry.2 present)
  rcases chain.follows next.1 next.2 presentNext with
    ⟨first, _⟩ | ⟨previousId, previous, linked, found, sameKey, above⟩
  · omega
  · have sameId := chain.history.versions previousId previous entry.1 entry.2 found present
      (sameKey.trans (keyNext.trans key.symm)) (by omega)
    rw [linked, sameId]

theorem rollback_steps_down (db : ConfigDb) (actor : User) (configKey : String)
    (current : Nat × OperationConfiguration) (chain : Chain db)
    (mayRollBack : isOpsAdmin actor = true)
    (inForce : highestVersion db (activeWithKey configKey) = some current)
    (above : 1 < current.2.version) :
    ∃ previous, previous.2.configKey = configKey ∧
      previous.2.version + 1 = current.2.version ∧
      rollbackOperationConfig actor configKey db = .ok (configToResponse previous)
        (step db (.rollbackOperationConfig actor configKey)) ∧
      highestVersion (step db (.rollbackOperationConfig actor configKey))
        (activeWithKey configKey) = some previous := by
  obtain ⟨present, _, most⟩ := highestVersion_some db _ current inForce
  rcases chain.follows current.1 current.2 present with
    ⟨first, _⟩ | ⟨previousId, previous, linked, found, sameKey, consecutive⟩
  · omega
  have checked : RollbackPlan.Checked actor configKey db ⟨current, (previousId, previous)⟩ :=
    ⟨mayRollBack, inForce, linked, found⟩
  obtain ⟨_, currentKey, _, earlier, previousKey⟩ :=
    checked_rows actor configKey _ db chain.history checked
  have returned := rollbackOperationConfig_returns actor configKey _ db chain.history checked
  have result : step db (.rollbackOperationConfig actor configKey) =
      rolledBack actor configKey ⟨current, (previousId, previous)⟩ db :=
    after_ok _ _ _ _ returned
  have rows := rolledBack_rowAt actor configKey _ db chain.history checked
  rw [result]
  refine ⟨(previousId, { previous with isActive := true }), previousKey, consecutive.symm,
    returned, ?_⟩
  apply highestVersion_of_ahead
  · have row := rows previousId
    rw [found, Option.map_some, swapBack, if_pos rfl] at row
    exact row
  · simp only [activeWithKey, Bool.and_true]
    exact beq_iff_eq.mpr previousKey
  · intro other row' after selected notPrevious
    have edited := (rows other).symm.trans after
    obtain ⟨row, before, rfl⟩ := Option.map_eq_some_iff.mp edited
    obtain ⟨keyAfter, activeAfter⟩ := Bool.and_eq_true_iff.mp selected
    -- the row rolled back from is no longer in force, so `other` was in force below it
    have notCurrent : other ≠ current.1 := by
      intro here
      rw [swapBack, if_neg notPrevious, if_pos here] at activeAfter
      cases activeAfter
    rw [swapBack, if_neg notPrevious, if_neg notCurrent] at keyAfter activeAfter ⊢
    have key := beq_iff_eq.mp keyAfter
    have low := most other row before (Bool.and_eq_true_iff.mpr ⟨keyAfter, activeAfter⟩)
    have notTop : row.version ≠ current.2.version := by
      intro same
      exact notCurrent (chain.history.versions other row current.1 current.2 before present
        (key.trans currentKey.symm) same)
    have notBelow : row.version ≠ previous.version := by
      intro same
      exact notPrevious (chain.history.versions other row previousId previous before found
        (key.trans previousKey.symm) same)
    simp only
    omega

theorem rollback_stops_at_first (db : ConfigDb) (actor : User) (configKey : String)
    (current : Nat × OperationConfiguration) (chain : Chain db)
    (mayRollBack : isOpsAdmin actor = true)
    (inForce : highestVersion db (activeWithKey configKey) = some current)
    (first : current.2.version = 1) :
    rollbackOperationConfig actor configKey db =
      .error (.validation "No previous configuration available for rollback") db := by
  obtain ⟨present, selected, _⟩ := highestVersion_some db _ current inForce
  have key := beq_iff_eq.mp (Bool.and_eq_true_iff.mp selected).1
  have unlinked := firstVersion_unlinked db configKey chain current
    ((mem_rowsOf db configKey current).mpr ⟨present, key⟩) first
  have refused : rollbackChecks actor configKey db =
      .error (.validation "No previous configuration available for rollback") := by
    simp [rollbackChecks, assertOpsAdmin, raiseIf, orRaise, mayRollBack, inForce, unlinked, bind,
      Except.bind]
  exact (checked_error (rollbackChecks actor configKey) (rollbackCommit actor configKey) db db
    _).mpr (.inl ⟨refused, rfl⟩)

def rolledBackBy (db : ConfigDb) (configKey : String) (actors : List User) : ConfigDb :=
  run db (actors.map (fun actor => .rollbackOperationConfig actor configKey))

theorem rolledBackBy_cons (db : ConfigDb) (configKey : String) (actor : User)
    (actors : List User) :
    rolledBackBy db configKey (actor :: actors) =
      rolledBackBy (step db (.rollbackOperationConfig actor configKey)) configKey actors := rfl

theorem walk_version (db : ConfigDb) (configKey : String) (actors : List User)
    (current : Nat × OperationConfiguration) (chain : Chain db)
    (mayRollBack : ∀ actor ∈ actors, isOpsAdmin actor = true)
    (inForce : highestVersion db (activeWithKey configKey) = some current)
    (enough : actors.length < current.2.version) :
    Chain (rolledBackBy db configKey actors) ∧
      ∃ reached, highestVersion (rolledBackBy db configKey actors) (activeWithKey configKey) =
          some reached ∧
        reached.2.version + actors.length = current.2.version := by
  induction actors generalizing db current with
  | nil => exact ⟨chain, current, inForce, rfl⟩
  | cons actor actors ih =>
      rw [List.length_cons] at enough
      obtain ⟨previous, _, below, _, next⟩ := rollback_steps_down db actor configKey current chain
        (mayRollBack actor List.mem_cons_self) inForce (by omega)
      rw [rolledBackBy_cons]
      obtain ⟨kept, reached, highest, version⟩ := ih _ previous (step_chain db _ chain)
        (fun other member => mayRollBack other (List.mem_cons_of_mem actor member)) next (by omega)
      refine ⟨kept, reached, highest, ?_⟩
      rw [List.length_cons]
      omega

theorem rows_in_force (db : ConfigDb) (configKey : String) (chain : Chain db)
    (nonempty : rowsOf db configKey ≠ []) :
    ∃ current, highestVersion db (activeWithKey configKey) = some current := by
  obtain ⟨entry, member⟩ := List.exists_mem_of_ne_nil _ nonempty
  obtain ⟨present, key⟩ := (mem_rowsOf db configKey entry).mp member
  obtain ⟨activeId, active, found, sameKey, inForce⟩ :=
    chain.history.inForce entry.1 entry.2 present
  have selected : activeWithKey configKey active = true := by
    rw [activeWithKey, inForce, sameKey, key]
    simp
  exact highestVersion_exists db _ activeId active found selected

/-- The versions of a key are 1 to n, each linked to the one below, and rollbacks made one
after another by `actors` and then `actor` step down from the highest in force to the first. -/
structure WalksDown (db : ConfigDb) (configKey : String) : Prop where
  versions : (versionsOf db configKey).Perm (List.range' 1 (rowsOf db configKey).length)
  first : ∀ entry ∈ rowsOf db configKey,
    entry.2.version = 1 → entry.2.previousConfigId = none
  next : ∀ entry ∈ rowsOf db configKey, ∀ next ∈ rowsOf db configKey,
    next.2.version = entry.2.version + 1 → next.2.previousConfigId = some entry.1
  walk : ∃ current, highestVersion db (activeWithKey configKey) = some current ∧
    ∀ (actors : List User) (actor : User), (∀ other ∈ actors, isOpsAdmin other = true) →
      isOpsAdmin actor = true →
      (actors.length + 1 < current.2.version →
        ∃ response db',
          rollbackOperationConfig actor configKey (rolledBackBy db configKey actors) =
            .ok response db' ∧
          response.configKey = configKey ∧
          response.version = current.2.version - (actors.length + 1)) ∧
      (actors.length + 1 = current.2.version →
        rollbackOperationConfig actor configKey (rolledBackBy db configKey actors) =
          .error (.validation "No previous configuration available for rollback")
            (rolledBackBy db configKey actors))

theorem rollback_walks_to_first_version (calls : List Call) (configKey : String)
    (nonempty : rowsOf (run ConfigDb.start calls) configKey ≠ []) :
    WalksDown (run ConfigDb.start calls) configKey := by
  have chain := run_chain calls
  generalize run ConfigDb.start calls = db at *
  refine ⟨versionsOf_perm db configKey chain, firstVersion_unlinked db configKey chain, ?_, ?_⟩
  · intro entry member next memberNext
    exact nextVersion_linked db configKey chain entry next member memberNext
  obtain ⟨current, inForce⟩ := rows_in_force db configKey chain nonempty
  refine ⟨current, inForce, ?_⟩
  intro actors actor mayRollBack mayRollBackNext
  constructor
  · intro above
    obtain ⟨kept, reached, highest, version⟩ :=
      walk_version db configKey actors current chain mayRollBack inForce (by omega)
    obtain ⟨previous, key, below, returned, _⟩ := rollback_steps_down _ actor configKey reached
      kept mayRollBackNext highest (by omega)
    refine ⟨_, _, returned, key, ?_⟩
    change previous.2.version = current.2.version - (actors.length + 1)
    omega
  · intro last
    obtain ⟨kept, reached, highest, version⟩ :=
      walk_version db configKey actors current chain mayRollBack inForce (by omega)
    exact rollback_stops_at_first _ actor configKey reached kept mayRollBackNext highest (by omega)

theorem rollback_walks_risk_models :
    WalksDown (run ConfigDb.start [createRiskModel, createRiskModel, createRiskModel])
      "risk_model_v2" :=
  rollback_walks_to_first_version [createRiskModel, createRiskModel, createRiskModel]
    "risk_model_v2" (by decide +kernel)

end RetailApp.Configuration
