import RetailApp.Library.Runs
import RetailApp.Services.AnalyticsService

/-! What the export shows after any builds: the first build of each day, and nothing else. -/

namespace RetailApp.Analytics

open Transaction

structure Build where
  tools : AnalyticsTools
  actor : User
  payload : DailyAnalyticsBuildRequest

def step (db : AnalyticsDb) (build : Build) : AnalyticsDb :=
  after (buildDailyAnalytics build.tools build.actor build.payload) db

def run (builds : List Build) : AnalyticsDb := Runs.run step AnalyticsDb.start builds

def answered (db : AnalyticsDb) (build : Build) : List DailyAnalyticsResponse :=
  match reply (buildDailyAnalytics build.tools build.actor build.payload) db with
  | .ok response => [response]
  | .error _ => []

def answers (builds : List Build) : List DailyAnalyticsResponse :=
  Runs.outputs step answered AnalyticsDb.start builds

/-- What becomes of a build when these days have a row. -/
def buildVerdict (build : Build) (days : List Time) : Except Raised DailyOperationMetric := do
  assertOpsAdmin build.actor
  let row ← newDailyMetric build.tools build.payload
  raiseIf (build.payload.metricDay ∈ days) (.integrityError "ix_daily_operation_metrics_day")
  return row

def daysOf (db : AnalyticsDb) : List Time := db.dailyOperationMetrics.rows.map (·.metricDay)

theorem newDailyMetric_day (tools : AnalyticsTools) (payload : DailyAnalyticsBuildRequest)
    (row : DailyOperationMetric) (made : newDailyMetric tools payload = .ok row) :
    row.metricDay = payload.metricDay := by
  simp only [newDailyMetric, bind_except_ok, pure_except_ok] at made
  obtain ⟨_, _, _, _, _, _, _, _, rfl⟩ := made
  rfl

theorem insertDailyMetric_run (row : DailyOperationMetric) (db : AnalyticsDb) :
    insertDailyMetric row db =
      if row.metricDay ∈ daysOf db then
        .error (.integrityError "ix_daily_operation_metrics_day") db
      else .ok () { db with dailyOperationMetrics := db.dailyOperationMetrics.insert row } := by
  rw [insertDailyMetric, run_bind, run_get]
  dsimp only
  by_cases taken : row.metricDay ∈ daysOf db
  · rw [if_pos taken]
    rw [daysOf] at taken
    rw [raiseIf_pos _ _ taken]
    rfl
  · rw [if_neg taken]
    rw [daysOf] at taken
    rw [raiseIf_neg _ _ taken]
    rfl

theorem buildDailyAnalytics_eq (build : Build) (db : AnalyticsDb) :
    buildDailyAnalytics build.tools build.actor build.payload db =
      match buildVerdict build (daysOf db) with
      | .ok row => .ok (toDailyAnalyticsResponse row)
          { db with dailyOperationMetrics := db.dailyOperationMetrics.insert row }
      | .error raised => .error raised db := by
  rw [buildVerdict, buildDailyAnalytics, run_bind]
  cases assertOpsAdmin build.actor with
  | error raised => rfl
  | ok _ =>
      rw [run_attempt_ok]
      dsimp only
      rw [run_bind, transactional, run_bind]
      cases made : newDailyMetric build.tools build.payload with
      | error raised => rfl
      | ok row =>
          rw [run_attempt_ok]
          dsimp only
          rw [run_bind, insertDailyMetric_run,
            newDailyMetric_day build.tools build.payload row made]
          by_cases taken : build.payload.metricDay ∈ daysOf db
          · rw [if_pos taken, raiseIf_pos _ _ taken]
            rfl
          · rw [if_neg taken, raiseIf_neg _ _ taken]
            rfl

theorem buildVerdict_free (build : Build) (days : List Time) (row : DailyOperationMetric)
    (accepted : buildVerdict build days = .ok row) : row.metricDay ∉ days := by
  simp only [buildVerdict, bind_except_ok, raiseIf_ok, pure_except_ok] at accepted
  obtain ⟨_, _, _, made, _, free, rfl⟩ := accepted
  rw [newDailyMetric_day build.tools build.payload _ made]
  exact free

theorem step_answers (db : AnalyticsDb) (build : Build) :
    (step db build).dailyOperationMetrics.rows.map toDailyAnalyticsResponse =
      db.dailyOperationMetrics.rows.map toDailyAnalyticsResponse ++ answered db build := by
  rw [step, answered, after, reply, buildDailyAnalytics_eq]
  cases buildVerdict build (daysOf db) with
  | error raised => exact (List.append_nil _).symm
  | ok row => exact List.map_append

theorem step_distinct (db : AnalyticsDb) (build : Build) (distinct : (daysOf db).Nodup) :
    (daysOf (step db build)).Nodup := by
  rw [step, after, buildDailyAnalytics_eq]
  cases accepted : buildVerdict build (daysOf db) with
  | error raised => exact distinct
  | ok row =>
      have free := buildVerdict_free build (daysOf db) row accepted
      have days : daysOf { db with dailyOperationMetrics := db.dailyOperationMetrics.insert row } =
          (daysOf db).concat row.metricDay := by
        rw [daysOf, Table.insert, List.map_append, List.concat_eq_append]
        rfl
      show (daysOf { db with
        dailyOperationMetrics := db.dailyOperationMetrics.insert row }).Nodup
      rw [days, List.nodup_concat]
      exact ⟨free, distinct⟩

theorem run_answers (builds : List Build) :
    (run builds).dailyOperationMetrics.rows.map toDailyAnalyticsResponse = answers builds :=
  Runs.run_appends step answered
    (fun db => db.dailyOperationMetrics.rows.map toDailyAnalyticsResponse) step_answers
    AnalyticsDb.start builds

theorem run_distinct (builds : List Build) : (daysOf (run builds)).Nodup :=
  Runs.run_preserves step (fun db => (daysOf db).Nodup) step_distinct AnalyticsDb.start builds
    List.nodup_nil

theorem run_days (builds : List Build) :
    daysOf (run builds) = (answers builds).map (·.metricDay) := by
  rw [← run_answers, List.map_map]
  rfl

theorem metricsInOrder_ascending (db : AnalyticsDb) (distinct : (daysOf db).Nodup) :
    (metricsInOrder db).Pairwise (fun earlier later => earlier.metricDay < later.metricDay) := by
  have sorted := Table.ascending_orderBy DailyOperationMetric.metricDay
    db.dailyOperationMetrics.rows
  have different : (metricsInOrder db).Pairwise
      (fun earlier later => earlier.metricDay ≠ later.metricDay) := by
    have permuted := (List.mergeSort_perm db.dailyOperationMetrics.rows
      (fun first second => first.metricDay ≤ second.metricDay)).map (·.metricDay)
    exact List.pairwise_map.mp (permuted.nodup_iff.mpr distinct)
  exact (sorted.and different).imp (fun both => lt_of_le_of_ne both.1 both.2)

/-- After any run a build is refused for its day exactly when a build of that day was answered,
and the export, read again as a CSV file, is the header and one line for each answered build, in
strictly ascending order of the days. -/
theorem export_lists_first_builds (builds : List Build) :
    (∀ build : Build,
      reply (buildDailyAnalytics build.tools build.actor build.payload) (run builds) =
        (buildVerdict build ((answers builds).map (·.metricDay))).map toDailyAnalyticsResponse) ∧
    ∃ metrics : List DailyOperationMetric,
      (metrics.map toDailyAnalyticsResponse).Perm (answers builds) ∧
      metrics.Pairwise (fun earlier later => earlier.metricDay < later.metricDay) ∧
      ∀ tools actor, ∃ text,
        exportDailyAnalyticsCsv tools (run builds) actor =
          (assertOpsAdmin actor).map (fun _ => text) ∧
        Csv.read text.toList = some (metricHeader :: metrics.map (metricCells tools)) := by
  refine ⟨fun build => ?_, metricsInOrder (run builds), ?_, ?_, fun tools actor => ?_⟩
  · rw [reply, buildDailyAnalytics_eq, run_days]
    cases buildVerdict build ((answers builds).map (·.metricDay)) <;> rfl
  · rw [← run_answers]
    exact (List.mergeSort_perm _ _).map toDailyAnalyticsResponse
  · exact metricsInOrder_ascending (run builds) (run_distinct builds)
  · refine ⟨String.ofList (Csv.write
      (metricHeader :: (metricsInOrder (run builds)).map (metricCells tools))), ?_, ?_⟩
    · rw [exportDailyAnalyticsCsv]
      cases assertOpsAdmin actor <;> rfl
    · rw [String.toList_ofList, Csv.read_write]

end RetailApp.Analytics
