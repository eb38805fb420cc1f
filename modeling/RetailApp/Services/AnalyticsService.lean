import RetailApp.Library.Csv
import RetailApp.Services.OperationService
import RetailApp.Text

/-! The daily metrics of `operation_service` and their export. -/

namespace RetailApp

open Transaction

structure DailyOperationMetric where
  metricDay : Time
  transactionVolume : Int
  conversionRate : ℚ
  activityCount : Int
  disputeRate : ℚ
  deriving DecidableEq

structure AnalyticsDb where
  dailyOperationMetrics : Table DailyOperationMetric

def AnalyticsDb.start : AnalyticsDb := ⟨Table.empty⟩

/-- What NUMERIC(8, 6) makes of the quotient of two integers as a float, and the texts in which
Python shows a moment and a float. -/
structure AnalyticsTools where
  rate : Int → Int → Except Raised ℚ
  isoformat : Time → String
  floatText : ℚ → String

abbrev AnalyticsService (α : Type) := Session AnalyticsDb Raised α

structure DailyAnalyticsBuildRequest where
  metricDay : Time
  transactionVolume : Nat
  successfulTransactions : Nat
  activityCount : Nat
  disputeCount : Nat

structure DailyAnalyticsResponse where
  metricDay : Time
  transactionVolume : Int
  conversionRate : ℚ
  activityCount : Int
  disputeRate : ℚ
  deriving DecidableEq

def toDailyAnalyticsResponse (metric : DailyOperationMetric) : DailyAnalyticsResponse where
  metricDay := metric.metricDay
  transactionVolume := metric.transactionVolume
  conversionRate := metric.conversionRate
  activityCount := metric.activityCount
  disputeRate := metric.disputeRate

/-- A day without transactions has the rate 0. -/
def rateOf (tools : AnalyticsTools) (count volume : Nat) : Except Raised ℚ :=
  if volume = 0 then .ok 0 else tools.rate count volume

def newDailyMetric (tools : AnalyticsTools) (payload : DailyAnalyticsBuildRequest) :
    Except Raised DailyOperationMetric := do
  let conversionRate ← rateOf tools payload.successfulTransactions payload.transactionVolume
  let disputeRate ← rateOf tools payload.disputeCount payload.transactionVolume
  let transactionVolume ← integer "transaction_volume" payload.transactionVolume
  let activityCount ← integer "activity_count" payload.activityCount
  return { metricDay := payload.metricDay
           transactionVolume := transactionVolume
           conversionRate := conversionRate
           activityCount := activityCount
           disputeRate := disputeRate }

def insertDailyMetric (row : DailyOperationMetric) : AnalyticsService Unit := do
  let db ← get
  attempt (raiseIf (row.metricDay ∈ db.dailyOperationMetrics.rows.map (·.metricDay))
    (.integrityError "ix_daily_operation_metrics_day"))
  set { db with dailyOperationMetrics := db.dailyOperationMetrics.insert row }

def buildDailyAnalytics (tools : AnalyticsTools) (actor : User)
    (payload : DailyAnalyticsBuildRequest) : AnalyticsService DailyAnalyticsResponse := do
  attempt (assertOpsAdmin actor)
  let metric ← transactional do
    let row ← attempt (newDailyMetric tools payload)
    insertDailyMetric row
    return row
  return toDailyAnalyticsResponse metric

def metricHeader : List Csv.Cell :=
  ["metric_day", "transaction_volume", "conversion_rate", "activity_count",
    "dispute_rate"].map String.toList

def metricCells (tools : AnalyticsTools) (metric : DailyOperationMetric) : List Csv.Cell :=
  [tools.isoformat metric.metricDay, toString metric.transactionVolume,
    tools.floatText metric.conversionRate, toString metric.activityCount,
    tools.floatText metric.disputeRate].map String.toList

def metricsInOrder (db : AnalyticsDb) : List DailyOperationMetric :=
  db.dailyOperationMetrics.rows.mergeSort (fun first second => first.metricDay ≤ second.metricDay)

def exportDailyAnalyticsCsv (tools : AnalyticsTools) (db : AnalyticsDb) (actor : User) :
    Except Raised String := do
  assertOpsAdmin actor
  return String.ofList
    (Csv.write (metricHeader :: (metricsInOrder db).map (metricCells tools)))

end RetailApp
