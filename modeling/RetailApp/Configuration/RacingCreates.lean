import RetailApp.Library.TwoStep
import RetailApp.Configuration.ActiveRows

/-! Creations of one configuration key that race: each numbers its row from the highest row it
read, which another creation may have superseded before the commit. Nothing in the table
refuses the second row of a number. -/

namespace RetailApp.Configuration.Racing

open Protocol Transaction

structure Request where
  env : Env
  actor : User
  payload : OperationConfigCreateRequest

structure Plan where
  request : Request
  latest : Option (Nat × OperationConfiguration)

/-- `create_operation_config`, split between its query and its transaction. -/
def backend : Protocol Request ConfigDb Raised OperationConfigResponse Plan where
  read := fun request db =>
    (createConfigChecks request.actor request.payload db).map (fun latest => .inr ⟨request, latest⟩)
  commit := fun plan =>
    createConfigCommit plan.request.env plan.request.actor plan.request.payload plan.latest

theorem serve_createOperationConfig (request : Request) (db : ConfigDb) :
    backend.serve request db =
      createOperationConfig request.env request.actor request.payload db := by
  cases outcome : createConfigChecks request.actor request.payload db with
  | error raised =>
      simp [Protocol.serve, createOperationConfig, backend, run_bind, outcome, Except.map]
  | ok latest =>
      simp [Protocol.serve, createOperationConfig, backend, run_bind, outcome, Except.map]

section OneKey

variable (configKey : String)

abbrev KeyRequest : Type := {request : Request // request.payload.configKey = configKey}

abbrev creates : Protocol (KeyRequest configKey) ConfigDb Raised OperationConfigResponse Plan :=
  backend.restrict (fun request => request.payload.configKey = configKey)

abbrev Requests : Type := World (KeyRequest configKey) ConfigDb OperationConfigResponse Plan

def UniqueVersions (db : ConfigDb) : Prop :=
  ∀ first row second row', rowAt db first = some row → rowAt db second = some row' →
    row.configKey = configKey → row'.configKey = configKey → row.version = row'.version →
    first = second

/-- No two rows of the key share a version and, once there is a row, exactly one is active. -/
structure Ordered (db : ConfigDb) : Prop where
  versions : UniqueVersions configKey db
  active : ∀ configId row, rowAt db configId = some row → row.configKey = configKey →
    ∃! activeId, ∃ active, rowAt db activeId = some active ∧ active.configKey = configKey ∧
      active.isActive = true

def Current (world : Requests configKey) : Event (KeyRequest configKey) → Prop
  | .start _ => True
  | .finish position => ∀ request plan, world.inFlight[position]? = some (request, plan) →
      highestVersion world.tables (hasKey configKey) = plan.latest ∧
        ∀ loaded, plan.latest = some loaded → loaded.2.isActive = true

def Taken (db : ConfigDb) (latest : Option (Nat × OperationConfiguration)) : Prop :=
  ∃ configId row, rowAt db configId = some row ∧ row.configKey = configKey ∧
    row.version = latest.elim 1 (fun loaded => loaded.2.version + 1)

/-- What every interleaving keeps. As long as no number was given twice, a plan whose number
is free was made from the row that is still the highest. -/
structure Ground (world : Requests configKey) : Prop where
  inForce : SomeInForce configKey world.tables
  ours : ∀ entry ∈ world.inFlight, entry.2.request.payload.configKey = configKey
  plans : UniqueVersions configKey world.tables → ∀ entry ∈ world.inFlight,
    highestVersion world.tables (hasKey configKey) = entry.2.latest ∨
      Taken configKey world.tables entry.2.latest

variable {configKey}

theorem ordered_iff (db : ConfigDb) (inForce : SomeInForce configKey db) :
    Ordered configKey db ↔ UniqueVersions configKey db ∧ ActiveOnce configKey db := by
  constructor
  · rintro ⟨versions, exactlyOne⟩
    refine ⟨versions, ?_⟩
    intro first row second other present presentOther key keyOther active activeOther
    exact (exactlyOne first row present key).unique ⟨row, present, key, active⟩
      ⟨other, presentOther, keyOther, activeOther⟩
  · rintro ⟨versions, once⟩
    refine ⟨versions, ?_⟩
    intro configId row present key
    obtain ⟨activeId, active, found, keyActive, isActive⟩ := inForce configId row present key
    refine ⟨activeId, ⟨active, found, keyActive, isActive⟩, ?_⟩
    rintro otherId ⟨other, presentOther, keyOther, activeOther⟩
    exact once otherId other activeId active presentOther found keyOther keyActive activeOther
      isActive

section Commit

/-! One commit of a creation of the key, over the row `latest` that it read. -/

variable (env : Env) (actor : User) (payload : OperationConfigCreateRequest)
  (latest : Option (Nat × OperationConfiguration)) (db : ConfigDb)

theorem commit_new : rowAt (configCreated env actor payload latest db)
    db.operationConfigurations.nextKey = some (newConfig env actor payload latest) := by
  rw [configCreated_rowAt_stale, if_pos rfl]

theorem commit_old (configId : Nat) (row : OperationConfiguration)
    (present : rowAt db configId = some row) :
    rowAt (configCreated env actor payload latest db) configId =
      some (demoted latest configId row) := by
  rw [configCreated_rowAt_stale, if_neg (rowAt_bound db configId row present).ne, present,
    Option.map_some]

theorem commit_inForce :
    SomeInForce payload.configKey (configCreated env actor payload latest db) :=
  fun _ _ _ _ => ⟨_, _, commit_new env actor payload latest db, rfl, rfl⟩

theorem taken_commit (other : Option (Nat × OperationConfiguration))
    (taken : Taken payload.configKey db other) :
    Taken payload.configKey (configCreated env actor payload latest db) other := by
  obtain ⟨configId, row, present, key, version⟩ := taken
  have placeless := demoted_placeless latest
  exact ⟨configId, _, commit_old env actor payload latest db configId row present,
    (placeless.configKey configId row).trans key,
    (placeless.version configId row).trans version⟩

theorem commit_versions_iff :
    UniqueVersions payload.configKey (configCreated env actor payload latest db) ↔
      UniqueVersions payload.configKey db ∧ ¬ Taken payload.configKey db latest := by
  have placeless := demoted_placeless latest
  have new := commit_new env actor payload latest db
  have old := commit_old env actor payload latest db
  constructor
  · intro unique
    constructor
    · intro first row second other present presentOther key keyOther same
      exact unique first _ second _ (old first row present) (old second other presentOther)
        ((placeless.configKey first row).trans key)
        ((placeless.configKey second other).trans keyOther)
        ((placeless.version first row).trans (same.trans (placeless.version second other).symm))
    · rintro ⟨configId, row, present, key, version⟩
      have same := unique configId _ _ _ (old configId row present) new
        ((placeless.configKey configId row).trans key) rfl
        ((placeless.version configId row).trans version)
      exact (rowAt_bound db configId row present).ne same
  · rintro ⟨unique, free⟩
    have before := created_row db _ env actor payload latest _ placeless
      (configCreated_rowAt_stale env actor payload latest db)
    have untaken (configId : Nat) (row : OperationConfiguration)
        (present : rowAt db configId = some row) (key : row.configKey = payload.configKey)
        (same : row.version = (newConfig env actor payload latest).version) : False :=
      free ⟨configId, row, present, key, same⟩
    intro first row' second other' found foundOther key keyOther same
    rcases before first row' found with
      ⟨isFirst, rfl⟩ | ⟨row, present, _, sameKey, sameVersion, _⟩
    · rcases before second other' foundOther with
        ⟨isSecond, _⟩ | ⟨other, presentOther, _, sameKey, sameVersion, _⟩
      · exact isFirst.trans isSecond.symm
      · exact (untaken second other presentOther (sameKey.symm.trans keyOther)
          (sameVersion.symm.trans same.symm)).elim
    · rcases before second other' foundOther with
        ⟨_, rfl⟩ | ⟨other, presentOther, _, sameKeyOther, sameVersionOther, _⟩
      · exact (untaken first row present (sameKey.symm.trans key)
          (sameVersion.symm.trans same)).elim
      · exact unique first row second other present presentOther (sameKey.symm.trans key)
          (sameKeyOther.symm.trans keyOther)
          (sameVersion.symm.trans (same.trans sameVersionOther))

/-- A commit retires one row and adds one: it never brings two active rows down to one. -/
theorem activeOnce_of_commit
    (once : ActiveOnce payload.configKey (configCreated env actor payload latest db)) :
    ActiveOnce payload.configKey db := by
  have new := commit_new env actor payload latest db
  have retired (configId : Nat) (row : OperationConfiguration)
      (present : rowAt db configId = some row) (key : row.configKey = payload.configKey)
      (active : row.isActive = true) : latest.map (·.1) = some configId := by
    by_contra other
    have kept := commit_old env actor payload latest db configId row present
    rw [demoted_other latest configId row other] at kept
    have clash := once configId row _ _ kept new key rfl active rfl
    exact (rowAt_bound db configId row present).ne clash
  intro first row second other present presentOther key keyOther active activeOther
  exact Option.some.inj ((retired first row present key active).symm.trans
    (retired second other presentOther keyOther activeOther))

theorem free_of_highest (highest : highestVersion db (hasKey payload.configKey) = latest) :
    ¬ Taken payload.configKey db latest := by
  rintro ⟨configId, row, present, key, version⟩
  have below := version_lt_next db payload.configKey latest highest configId row present key
  exact below.ne version

theorem fits_commit (other : Option (Nat × OperationConfiguration))
    (highest : highestVersion db (hasKey payload.configKey) = latest)
    (fits : highestVersion db (hasKey payload.configKey) = other ∨
      Taken payload.configKey db other) :
    Taken payload.configKey (configCreated env actor payload latest db) other := by
  rcases fits with same | taken
  · obtain rfl : latest = other := highest.symm.trans same
    exact ⟨_, _, commit_new env actor payload latest db, rfl, rfl⟩
  · exact taken_commit env actor payload latest db other taken

theorem commit_ordered_iff (inForce : SomeInForce payload.configKey db)
    (ordered : Ordered payload.configKey db)
    (fits : highestVersion db (hasKey payload.configKey) = latest ∨
      Taken payload.configKey db latest) :
    Ordered payload.configKey (configCreated env actor payload latest db) ↔
      highestVersion db (hasKey payload.configKey) = latest ∧
        ∀ loaded, latest = some loaded → loaded.2.isActive = true := by
  obtain ⟨unique, once⟩ := (ordered_iff db inForce).mp ordered
  have fresh : highestVersion db (hasKey payload.configKey) = latest ↔
      ¬ Taken payload.configKey db latest :=
    ⟨free_of_highest payload latest db, fun free => fits.resolve_right free⟩
  rw [ordered_iff _ (commit_inForce env actor payload latest db), commit_versions_iff, ← fresh,
    and_iff_right unique]
  refine and_congr_right (fun highest => ?_)
  have found (loaded : Nat × OperationConfiguration) (read : latest = some loaded) :
      rowAt db loaded.1 = some loaded.2 :=
    (highestVersion_some db _ loaded (highest.trans read)).1
  exact created_activeOnce_iff db _ env actor payload latest highest
    (configCreated_rowAt env actor payload latest db found) inForce once

theorem ordered_of_commit (inForce : SomeInForce payload.configKey db)
    (ordered : Ordered payload.configKey (configCreated env actor payload latest db)) :
    Ordered payload.configKey db := by
  obtain ⟨unique, once⟩ :=
    (ordered_iff _ (commit_inForce env actor payload latest db)).mp ordered
  exact (ordered_iff db inForce).mpr
    ⟨((commit_versions_iff env actor payload latest db).mp unique).1,
      activeOnce_of_commit env actor payload latest db once⟩

end Commit

theorem read_planned (request : KeyRequest configKey) (db : ConfigDb)
    (answer : OperationConfigResponse ⊕ Plan)
    (seen : (creates configKey).read request db = .ok answer) :
    answer = .inr ⟨request.1, highestVersion db (hasKey configKey)⟩ := by
  obtain ⟨request, rfl⟩ := request
  obtain ⟨latest, checked, rfl⟩ := (map_except_ok _ _ _).mp seen
  obtain ⟨_, _, returned⟩ := (bind_except_ok _ _ _).mp checked
  rw [← Except.ok.inj returned]

theorem commit_tables (plan : Plan) (db db' : ConfigDb) (response : OperationConfigResponse)
    (committed : (creates configKey).commit plan db = .ok response db') :
    db' =
      configCreated plan.request.env plan.request.actor plan.request.payload plan.latest db := by
  have returned := createConfigCommit_eq plan.request.env plan.request.actor plan.request.payload
    plan.latest db
  exact (EStateM.Result.ok.inj (committed.symm.trans returned)).2

theorem step_ground (world : Requests configKey) (event : Event (KeyRequest configKey))
    (ground : Ground configKey world) :
    Ground configKey ((creates configKey).step world event) := by
  have stepped := (creates configKey).step_stepped world event
  generalize (creates configKey).committing world event = commits,
    (creates configKey).step world event = world' at stepped ⊢
  cases stepped with
  | refused request raised outcome => exact ground
  | answered request answer outcome => exact ⟨ground.inForce, ground.ours, ground.plans⟩
  | planned request plan outcome =>
      obtain rfl := Sum.inr.inj (read_planned request world.tables _ outcome)
      refine ⟨ground.inForce, ?_, ?_⟩
      · intro entry member
        rcases List.mem_append.mp member with old | new
        · exact ground.ours entry old
        · obtain rfl := List.mem_singleton.mp new
          exact request.2
      · intro unique entry member
        rcases List.mem_append.mp member with old | new
        · exact ground.plans unique entry old
        · obtain rfl := List.mem_singleton.mp new
          exact .inl rfl
  | missing position entry => exact ground
  | raised position request plan raised tables entry outcome =>
      cases outcome.symm.trans (createConfigCommit_eq plan.request.env plan.request.actor
        plan.request.payload plan.latest world.tables)
  | committed position request plan answer tables entry outcome =>
      obtain rfl := commit_tables plan world.tables tables answer outcome
      have inside := List.mem_of_getElem? entry
      obtain rfl : plan.request.payload.configKey = configKey := ground.ours _ inside
      refine ⟨commit_inForce _ _ _ _ _,
        fun entry member => ground.ours entry (List.mem_of_mem_eraseIdx member), ?_⟩
      intro unique entry member
      obtain ⟨before, free⟩ := (commit_versions_iff _ _ _ _ _).mp unique
      have highest := (ground.plans before _ inside).resolve_right free
      exact .inr (fits_commit _ _ _ _ _ _ highest
        (ground.plans before entry (List.mem_of_mem_eraseIdx member)))

theorem step_ordered (world : Requests configKey) (event : Event (KeyRequest configKey))
    (ground : Ground configKey world) :
    (Ordered configKey world.tables →
        (Ordered configKey ((creates configKey).step world event).tables ↔
          Current configKey world event)) ∧
      (Ordered configKey ((creates configKey).step world event).tables →
        Ordered configKey world.tables) := by
  have stepped := (creates configKey).step_stepped world event
  generalize (creates configKey).committing world event = commits,
    (creates configKey).step world event = world' at stepped ⊢
  cases stepped with
  | refused request raised outcome => exact ⟨fun ordered => iff_of_true ordered trivial, id⟩
  | answered request answer outcome => exact ⟨fun ordered => iff_of_true ordered trivial, id⟩
  | planned request plan outcome => exact ⟨fun ordered => iff_of_true ordered trivial, id⟩
  | missing position entry =>
      refine ⟨fun ordered => iff_of_true ordered ?_, id⟩
      intro request plan there
      cases entry.symm.trans there
  | raised position request plan raised tables entry outcome =>
      cases outcome.symm.trans (createConfigCommit_eq plan.request.env plan.request.actor
        plan.request.payload plan.latest world.tables)
  | committed position request plan answer tables entry outcome =>
      obtain rfl := commit_tables plan world.tables tables answer outcome
      have inside := List.mem_of_getElem? entry
      obtain rfl : plan.request.payload.configKey = configKey := ground.ours _ inside
      refine ⟨?_, ordered_of_commit _ _ _ _ _ ground.inForce⟩
      intro ordered
      have fits := ground.plans ordered.versions _ inside
      rw [commit_ordered_iff _ _ _ _ _ ground.inForce ordered fits]
      constructor
      · intro current request' plan' there
        obtain ⟨_, rfl⟩ := Prod.mk.inj (Option.some.inj (entry.symm.trans there))
        exact current
      · exact fun current => current request plan entry

theorem idle_ground (db : ConfigDb) (history : History db) :
    Ground configKey (World.idle db) where
  inForce := history.key_someInForce db configKey
  ours := fun _ member => nomatch member
  plans := fun _ _ member => nomatch member

end OneKey

/-- From any tables that configuration calls lead to and along any interleaving of creations of
one key, the key ends in order exactly when it started so and every commit found the row its
request had read still the highest of the key, and in force. -/
theorem racing_creates_ordered_iff (configKey : String) (calls : List Call)
    (schedule : List (Event (KeyRequest configKey))) :
    Ordered configKey ((creates configKey).run (World.idle (run ConfigDb.start calls))
        schedule).tables ↔
      Ordered configKey (run ConfigDb.start calls) ∧
        Runs.Along (creates configKey).step (Current configKey)
          (World.idle (run ConfigDb.start calls)) schedule := by
  have ground : Ground configKey (World.idle (run ConfigDb.start calls)) := idle_ground _
    (Runs.run_preserves step History step_history ConfigDb.start calls start_history)
  have along := Runs.final_iff_along (creates configKey).step (Ground configKey)
    (fun world => Ordered configKey world.tables) (Current configKey) step_ground
    (fun world event ground => (step_ordered world event ground).1)
    (fun world event ground => mt (step_ordered world event ground).2)
    (World.idle (run ConfigDb.start calls)) schedule ground
  refine ⟨fun final => ?_, fun ⟨ordered, current⟩ => (along ordered).mpr current⟩
  have ordered : Ordered configKey (run ConfigDb.start calls) := by
    by_contra disordered
    have kept := Runs.run_preserves (creates configKey).step
      (fun world => Ground configKey world ∧ ¬ Ordered configKey world.tables)
      (fun world event both => ⟨step_ground world event both.1,
        mt (step_ordered world event both.1).2 both.2⟩)
      (World.idle (run ConfigDb.start calls)) schedule ⟨ground, disordered⟩
    exact kept.2 final
  exact ⟨ordered, (along ordered).mp final⟩

theorem full_rollout : 0 ≤ (100 : Int) ∧ (100 : Int) ≤ 100 := by decide

def createRequest (now : Time) : KeyRequest "risk_model_v2" :=
  ⟨⟨clockAt now, operator, riskModel 100 full_rollout⟩, rfl⟩

def racingCreates : List (Event (KeyRequest "risk_model_v2")) :=
  [.start (createRequest 0), .start (createRequest 1), .finish 0, .finish 0]

theorem racing_creates_one_number :
    let world := (creates "risk_model_v2").run (World.idle ConfigDb.start) racingCreates
    world.inFlight.length = 0 ∧
      (world.tables.operationConfigurations.rows.map
        (fun row => (row.configKey, row.version, row.isActive))) =
          [("risk_model_v2", 1, true), ("risk_model_v2", 1, true)] ∧
      ¬ Ordered "risk_model_v2" world.tables := by
  refine ⟨by decide, by decide, ?_⟩
  intro ordered
  exact absurd (ordered.versions 1 _ 2 _ rfl rfl rfl rfl rfl) (by decide)

end RetailApp.Configuration.Racing
