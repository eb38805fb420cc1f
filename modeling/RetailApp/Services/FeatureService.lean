import RetailApp.Services.OperationService
import RetailApp.Text

/-! The feature store of `operation_service`: definitions with a time to live, the values stored
under them, and what is computed from these values. -/

namespace RetailApp

open Transaction

def timedeltaSeconds (seconds : Int) : Time := seconds * 1000000

structure FeatureDefinition where
  code : String
  name : String
  description : Option String
  ttlSeconds : Int
  defaultMode : String
  createdAt : Time
  deriving DecidableEq

inductive StorageLayer where
  | hot
  | cold
  deriving DecidableEq

structure FeatureValue where
  featureDefinitionId : Nat
  objectType : String
  objectId : String
  valueNumeric : Option ℚ
  valueText : Option String
  processingMode : String
  storageLayer : StorageLayer
  windowStart : Time
  windowEnd : Time
  expiresAt : Time
  lineageSource : Option String
  lineageRunId : Option String
  createdAt : Time
  deriving DecidableEq

structure FeatureLineage where
  featureDefinitionId : Nat
  featureValueId : Nat
  runId : String
  sourceType : String
  sourceReference : String
  transformDigest : String
  deriving DecidableEq

structure FeatureDb where
  featureDefinitions : Table FeatureDefinition
  featureValues : Table FeatureValue
  featureLineage : Table FeatureLineage
  deriving DecidableEq

def FeatureDb.start : FeatureDb := ⟨Table.empty, Table.empty, Table.empty⟩

/-- The readings of the clock during one call: that of the database for `created_at`, and those of
`utcnow` in the order in which a call makes them. -/
structure FeatureEnv where
  createdAt : Time
  now : Time
  layerAt : Time

/-- What NUMERIC(18, 6) makes of a float, how Python prints a float, and the hex digest of SHA-256. -/
structure FeatureTools where
  numeric : ℚ → Except Raised ℚ
  floatText : ℚ → String
  digest : String → String

abbrev FeatureService (α : Type) := Session FeatureDb Raised α

structure FeatureDefinitionCreateRequest where
  code : BoundedText 2 128
  name : BoundedText 2 160
  description : Option String
  ttlSeconds : Int
  defaultMode : String
  ttlPositive : 0 < ttlSeconds

structure FeatureValueUpsertRequest where
  featureCode : String
  objectType : String
  objectId : String
  valueNumeric : Option ℚ
  valueText : Option String
  processingMode : String
  lineageSource : Option String
  lineageRunId : Option String

structure FeatureDefinitionResponse where
  id : Nat
  code : String
  name : String
  description : Option String
  ttlSeconds : Int
  defaultMode : String
  createdAt : Time
  deriving DecidableEq

structure FeatureValueResponse where
  id : Nat
  featureDefinitionId : Nat
  objectType : String
  objectId : String
  valueNumeric : Option ℚ
  valueText : Option String
  processingMode : String
  storageLayer : StorageLayer
  expiresAt : Time
  lineageSource : Option String
  lineageRunId : Option String
  createdAt : Time
  deriving DecidableEq

structure ConsistencyCheckResponse where
  featureCode : String
  objectType : String
  objectId : String
  isConsistent : Bool
  details : String
  deriving DecidableEq

def featureDefToResponse (entry : Nat × FeatureDefinition) : FeatureDefinitionResponse where
  id := entry.1
  code := entry.2.code
  name := entry.2.name
  description := entry.2.description
  ttlSeconds := entry.2.ttlSeconds
  defaultMode := entry.2.defaultMode
  createdAt := entry.2.createdAt

def featureValueToResponse (entry : Nat × FeatureValue) : FeatureValueResponse where
  id := entry.1
  featureDefinitionId := entry.2.featureDefinitionId
  objectType := entry.2.objectType
  objectId := entry.2.objectId
  valueNumeric := entry.2.valueNumeric
  valueText := entry.2.valueText
  processingMode := entry.2.processingMode
  storageLayer := entry.2.storageLayer
  expiresAt := entry.2.expiresAt
  lineageSource := entry.2.lineageSource
  lineageRunId := entry.2.lineageRunId
  createdAt := entry.2.createdAt

def featureWithCode (db : FeatureDb) (code : String) : Option (Nat × FeatureDefinition) :=
  db.featureDefinitions.find? (·.code == code)

def createFeatureChecks (actor : User) (payload : FeatureDefinitionCreateRequest)
    (db : FeatureDb) : Except Raised Unit := do
  assertOpsAdmin actor
  raiseIf ((featureWithCode db payload.code.1).isSome = true)
    (.validation "Feature code already exists")

def newFeatureDefinition (env : FeatureEnv) (payload : FeatureDefinitionCreateRequest) :
    Except Raised FeatureDefinition := do
  let ttlSeconds ← integer "ttl_seconds" payload.ttlSeconds
  let defaultMode ← varchar "default_mode" 16 payload.defaultMode
  return { code := payload.code.1
           name := payload.name.1
           description := payload.description
           ttlSeconds := ttlSeconds
           defaultMode := defaultMode
           createdAt := env.createdAt }

def insertFeatureDefinition (row : FeatureDefinition) : FeatureService Nat := do
  let db ← get
  attempt (raiseIf (db.featureDefinitions.rows.any (·.code == row.code) = true)
    (.integrityError "ix_feature_definitions_code"))
  set { db with featureDefinitions := db.featureDefinitions.insert row }
  return db.featureDefinitions.nextKey

def createFeatureDefinition (env : FeatureEnv) (actor : User)
    (payload : FeatureDefinitionCreateRequest) : FeatureService FeatureDefinitionResponse := do
  let db ← get
  attempt (createFeatureChecks actor payload db)
  let entity ← transactional do
    let row ← attempt (newFeatureDefinition env payload)
    let featureId ← insertFeatureDefinition row
    return (featureId, row)
  return featureDefToResponse entity

def storageLayer (expiresAt now : Time) : StorageLayer := if now < expiresAt then .hot else .cold

def upsertChecks (actor : User) (payload : FeatureValueUpsertRequest) (db : FeatureDb) :
    Except Raised (Nat × FeatureDefinition) := do
  assertOpsAdmin actor
  orRaise (featureWithCode db payload.featureCode) (.notFound "Feature definition not found")

/-- The layer is decided by a second reading of the clock. -/
def newFeatureValue (tools : FeatureTools) (env : FeatureEnv) (feature : Nat × FeatureDefinition)
    (payload : FeatureValueUpsertRequest) : Except Raised FeatureValue := do
  let expiresAt := env.now + timedeltaSeconds feature.2.ttlSeconds
  let objectType ← varchar "object_type" 64 payload.objectType
  let objectId ← varchar "object_id" 64 payload.objectId
  let valueNumeric ← payload.valueNumeric.mapM tools.numeric
  let processingMode ← varchar "processing_mode" 16
    (if payload.processingMode = "" then feature.2.defaultMode else payload.processingMode)
  let lineageSource ← nullableVarchar "lineage_source" 255 payload.lineageSource
  let lineageRunId ← nullableVarchar "lineage_run_id" 64 payload.lineageRunId
  return { featureDefinitionId := feature.1
           objectType := objectType
           objectId := objectId
           valueNumeric := valueNumeric
           valueText := payload.valueText
           processingMode := processingMode
           storageLayer := storageLayer expiresAt env.layerAt
           windowStart := env.now - timedeltaSeconds feature.2.ttlSeconds
           windowEnd := env.now
           expiresAt := expiresAt
           lineageSource := lineageSource
           lineageRunId := lineageRunId
           createdAt := env.createdAt }

/-- An f-string shows `None` for a missing value. -/
def digestText (tools : FeatureTools) (payload : FeatureValueUpsertRequest) : String :=
  ":".intercalate [payload.featureCode, payload.objectType, payload.objectId,
    (payload.valueNumeric.map tools.floatText).getD "None", payload.valueText.getD "None"]

def newFeatureLineage (tools : FeatureTools) (featureId valueId : Nat)
    (payload : FeatureValueUpsertRequest) (runId source : String) :
    Except Raised FeatureLineage := do
  let runId ← varchar "run_id" 64 runId
  let sourceType ← varchar "source_type" 64 source
  let sourceReference ←
    varchar "source_reference" 255 (payload.objectType ++ ":" ++ payload.objectId)
  let transformDigest ← varchar "transform_digest" 128 (tools.digest (digestText tools payload))
  return { featureDefinitionId := featureId
           featureValueId := valueId
           runId := runId
           sourceType := sourceType
           sourceReference := sourceReference
           transformDigest := transformDigest }

/-- The run and the source of a value, when both are given and neither is empty. -/
def lineageOf (payload : FeatureValueUpsertRequest) : Option (String × String) :=
  match payload.lineageRunId, payload.lineageSource with
  | some runId, some source => if runId ≠ "" ∧ source ≠ "" then some (runId, source) else none
  | _, _ => none

def insertFeatureValue (row : FeatureValue) : FeatureService Nat := do
  let db ← get
  set { db with featureValues := db.featureValues.insert row }
  return db.featureValues.nextKey

def writeLineage (tools : FeatureTools) (featureId valueId : Nat)
    (payload : FeatureValueUpsertRequest) : FeatureService Unit :=
  match lineageOf payload with
  | none => return ()
  | some (runId, source) => do
      let lineage ← attempt (newFeatureLineage tools featureId valueId payload runId source)
      modify fun db => { db with featureLineage := db.featureLineage.insert lineage }

def upsertFeatureValue (tools : FeatureTools) (env : FeatureEnv) (actor : User)
    (payload : FeatureValueUpsertRequest) : FeatureService FeatureValueResponse := do
  let db ← get
  let feature ← attempt (upsertChecks actor payload db)
  let entity ← transactional do
    let row ← attempt (newFeatureValue tools env feature payload)
    let valueId ← insertFeatureValue row
    writeLineage tools feature.1 valueId payload
    return (valueId, row)
  return featureValueToResponse entity

/-- The values of one feature and object, in the order of a SELECT without ORDER BY. -/
def valuesFor (db : FeatureDb) (rowOrder : RowOrder (Nat × FeatureValue)) (featureId : Nat)
    (objectType objectId : String) : List FeatureValue :=
  (db.featureValues.select rowOrder (fun row => row.featureDefinitionId == featureId &&
    row.objectType == objectType && row.objectId == objectId)).map Prod.snd

def numericMean (rows : List FeatureValue) : ℚ :=
  let numbers := rows.filterMap (·.valueNumeric)
  numbers.sum / (max 1 numbers.length : ℕ)

def proxyScore (leftRows rightRows : List FeatureValue) : ℚ :=
  let leftMean := numericMean leftRows
  let rightMean := numericMean rightRows
  let denom := max (max |leftMean| |rightMean|) (1 / 10 ^ 9)
  1 - |leftMean - rightMean| / denom

def correlationProxy (db : FeatureDb) (rowOrder : RowOrder (Nat × FeatureValue)) (actor : User)
    (leftFeatureCode rightFeatureCode objectType objectId : String) : Except Raised ℚ := do
  assertOpsAdmin actor
  match featureWithCode db leftFeatureCode, featureWithCode db rightFeatureCode with
  | some left, some right =>
      return proxyScore (valuesFor db rowOrder left.1 objectType objectId)
        (valuesFor db rowOrder right.1 objectType objectId)
  | _, _ => .error (.notFound "Feature definition not found")

def valuesSince (db : FeatureDb) (rowOrder : RowOrder (Nat × FeatureValue)) (featureId : Nat)
    (objectType objectId : String) (dated : FeatureValue → Time) (threshold : Time) :
    List FeatureValue :=
  (db.featureValues.select rowOrder (fun row => row.featureDefinitionId == featureId &&
    row.objectType == objectType && row.objectId == objectId &&
    decide (threshold ≤ dated row))).map Prod.snd

/-- On exact rationals, as the correlation. -/
def slidingWindowAverage (db : FeatureDb) (rowOrder : RowOrder (Nat × FeatureValue)) (now : Time)
    (actor : User) (featureCode objectType objectId : String) (windowMinutes : Int) :
    Except Raised ℚ := do
  assertOpsAdmin actor
  let feature ← orRaise (featureWithCode db featureCode) (.notFound "Feature definition not found")
  let threshold := now - timedeltaMinutes windowMinutes
  let rows := valuesSince db rowOrder feature.1 objectType objectId (·.windowEnd) threshold
  let nums := rows.filterMap (·.valueNumeric)
  return if nums = [] then 0 else nums.sum / nums.length

def frequencyPerMinute (db : FeatureDb) (rowOrder : RowOrder (Nat × FeatureValue)) (now : Time)
    (actor : User) (featureCode objectType objectId : String) (minutes : Int) :
    Except Raised ℚ := do
  assertOpsAdmin actor
  let feature ← orRaise (featureWithCode db featureCode) (.notFound "Feature definition not found")
  let threshold := now - timedeltaMinutes minutes
  let count := (valuesSince db rowOrder feature.1 objectType objectId (·.createdAt) threshold).length
  return if minutes ≤ 0 then 0 else count / minutes

/-- `sorted(rows, key=created_at, reverse=True)[0]`: the sort is stable in reverse too. -/
def latestValue (rows : List FeatureValue) : Option FeatureValue :=
  (rows.mergeSort (fun first second => second.createdAt ≤ first.createdAt)).head?

def consistencyReport (now : Time) (featureCode objectType objectId : String) :
    Option FeatureValue → ConsistencyCheckResponse
  | none =>
      { featureCode := featureCode
        objectType := objectType
        objectId := objectId
        isConsistent := true
        details := "No values to compare" }
  | some latest =>
      let ok := latest.storageLayer == storageLayer latest.expiresAt now
      { featureCode := featureCode
        objectType := objectType
        objectId := objectId
        isConsistent := ok
        details := if ok then "Layer consistent with TTL" else "Layer mismatch with TTL" }

def verifyFeatureConsistency (db : FeatureDb) (rowOrder : RowOrder (Nat × FeatureValue))
    (now : Time) (actor : User) (featureCode objectType objectId : String) :
    Except Raised ConsistencyCheckResponse := do
  assertOpsAdmin actor
  let feature ← orRaise (featureWithCode db featureCode) (.notFound "Feature definition not found")
  return consistencyReport now featureCode objectType objectId
    (latestValue (valuesFor db rowOrder feature.1 objectType objectId))

end RetailApp
