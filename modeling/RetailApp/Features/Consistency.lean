import RetailApp.Library.Runs
import RetailApp.Services.FeatureService

/-! What the consistency check reports of a feature value over time. The layer of a value is stored
once; the check compares it with the layer of the moment at which it is asked. -/

namespace RetailApp.Features

open Transaction

inductive Call where
  | createFeatureDefinition (env : FeatureEnv) (actor : User)
      (payload : FeatureDefinitionCreateRequest)
  | upsertFeatureValue (tools : FeatureTools) (env : FeatureEnv) (actor : User)
      (payload : FeatureValueUpsertRequest)

def step (db : FeatureDb) : Call → FeatureDb
  | .createFeatureDefinition env actor payload =>
      after (createFeatureDefinition env actor payload) db
  | .upsertFeatureValue tools env actor payload =>
      after (upsertFeatureValue tools env actor payload) db

def run (calls : List Call) : FeatureDb := Runs.run step FeatureDb.start calls

def Call.readings : Call → List Time
  | .createFeatureDefinition _ _ _ => []
  | .upsertFeatureValue _ env _ _ => [env.now, env.layerAt]

/-- The clock never goes back, from one call to the next and on to the moment of the question. -/
def Dated (calls : List Call) (asked : Time) : Prop :=
  (calls.flatMap Call.readings ++ [asked]).Pairwise (fun early late => early ≤ late)

def Routed (asked : Time) (value : FeatureValue) : Prop :=
  value.storageLayer = .cold → value.expiresAt ≤ asked

theorem newFeatureValue_routed (tools : FeatureTools) (env : FeatureEnv)
    (feature : Nat × FeatureDefinition) (payload : FeatureValueUpsertRequest) (row : FeatureValue)
    (made : newFeatureValue tools env feature payload = .ok row) (asked : Time)
    (later : env.layerAt ≤ asked) : Routed asked row := by
  simp only [newFeatureValue, bind_except_ok, pure_except_ok] at made
  obtain ⟨_, _, _, _, _, _, _, _, _, _, _, _, rfl⟩ := made
  intro isCold
  by_cases future : env.layerAt < env.now + timedeltaSeconds feature.2.ttlSeconds
  · rw [storageLayer, if_pos future] at isCold
    cases isCold
  · exact (not_lt.mp future).trans later

theorem createFeatureDefinition_allOrNothing (env : FeatureEnv) (actor : User)
    (payload : FeatureDefinitionCreateRequest) :
    AllOrNothing (createFeatureDefinition env actor payload) :=
  allOrNothing_checked (createFeatureChecks actor payload) _
    (fun db _ _ written raised failed => allOrNothing_answer _ featureDefToResponse
      (allOrNothing_transactional _) db written raised failed)

theorem createFeatureDefinition_values (env : FeatureEnv) (actor : User)
    (payload : FeatureDefinitionCreateRequest) (db : FeatureDb) :
    (after (createFeatureDefinition env actor payload) db).featureValues = db.featureValues := by
  rcases after_cases _ (createFeatureDefinition_allOrNothing env actor payload) db with
    ⟨response, returned⟩ | same
  · generalize after (createFeatureDefinition env actor payload) db = written at returned
    simp only [createFeatureDefinition, insertFeatureDefinition, bind_ok, get_ok, attempt_ok,
      transactional_ok, set_ok, pure_ok] at returned
    obtain ⟨_, _, ⟨rfl, rfl⟩, _, _, ⟨_, rfl⟩, _, _, ⟨_, _, ⟨_, rfl⟩, _, _,
      ⟨_, _, ⟨rfl, rfl⟩, _, _, ⟨_, rfl⟩, _, _, rfl, _, rfl⟩, _, rfl⟩, _, rfl⟩ := returned
    rfl
  · rw [same]

theorem upsertFeatureValue_allOrNothing (tools : FeatureTools) (env : FeatureEnv) (actor : User)
    (payload : FeatureValueUpsertRequest) :
    AllOrNothing (upsertFeatureValue tools env actor payload) :=
  allOrNothing_checked (upsertChecks actor payload) _
    (fun db _ _ written raised failed => allOrNothing_answer _ featureValueToResponse
      (allOrNothing_transactional _) db written raised failed)

theorem writeLineage_values (tools : FeatureTools) (featureId valueId : Nat)
    (payload : FeatureValueUpsertRequest) (db written : FeatureDb)
    (recorded : writeLineage tools featureId valueId payload db = .ok () written) :
    written.featureValues = db.featureValues := by
  cases given : lineageOf payload with
  | none =>
      rw [writeLineage, given] at recorded
      cases recorded
      rfl
  | some lineage =>
      simp only [writeLineage, given, bind_ok, attempt_ok, modify_ok] at recorded
      obtain ⟨_, _, ⟨_, rfl⟩, rfl⟩ := recorded
      rfl

theorem upsertFeatureValue_values (tools : FeatureTools) (env : FeatureEnv) (actor : User)
    (payload : FeatureValueUpsertRequest) (db : FeatureDb) :
    (after (upsertFeatureValue tools env actor payload) db).featureValues = db.featureValues ∨
      ∃ feature row, newFeatureValue tools env feature payload = .ok row ∧
        (after (upsertFeatureValue tools env actor payload) db).featureValues =
          db.featureValues.insert row := by
  rcases after_cases _ (upsertFeatureValue_allOrNothing tools env actor payload) db with
    ⟨response, returned⟩ | same
  · right
    generalize after (upsertFeatureValue tools env actor payload) db = written at returned
    simp only [upsertFeatureValue, insertFeatureValue, bind_ok, get_ok, attempt_ok,
      transactional_ok, set_ok, pure_ok] at returned
    obtain ⟨_, _, ⟨rfl, rfl⟩, feature, _, ⟨_, rfl⟩, _, _, ⟨row, _, ⟨made, rfl⟩, _, _,
      ⟨_, _, ⟨rfl, rfl⟩, _, _, rfl, _, rfl⟩, _, _, recorded, _, rfl⟩, _, rfl⟩ := returned
    exact ⟨feature, row, made, writeLineage_values tools _ _ payload _ _ recorded⟩
  · left
    rw [same]

def AllRouted (asked : Time) (db : FeatureDb) : Prop :=
  ∀ value ∈ db.featureValues.rows, Routed asked value

theorem step_routed (asked : Time) (db : FeatureDb) (call : Call) (routed : AllRouted asked db)
    (earlier : ∀ reading ∈ call.readings, reading ≤ asked) : AllRouted asked (step db call) := by
  cases call with
  | createFeatureDefinition env actor payload =>
      rw [AllRouted, step, createFeatureDefinition_values]
      exact routed
  | upsertFeatureValue tools env actor payload =>
      rcases upsertFeatureValue_values tools env actor payload db with
        same | ⟨feature, row, made, inserted⟩
      · rw [AllRouted, step, same]
        exact routed
      · rw [AllRouted, step, inserted, Table.forall_rows_insert]
        exact ⟨routed, newFeatureValue_routed tools env feature payload row made asked
          (earlier env.layerAt (by simp [Call.readings]))⟩

theorem run_routed (calls : List Call) (asked : Time) (dated : Dated calls asked) :
    AllRouted asked (run calls) := by
  have earlier (reading : Time) (member : reading ∈ calls.flatMap Call.readings) :
      reading ≤ asked :=
    (List.pairwise_append.mp dated).2.2 reading member asked (List.mem_singleton_self asked)
  refine Runs.run_preserves_along step (AllRouted asked)
    (fun _ call => ∀ reading ∈ call.readings, reading ≤ asked)
    (fun db call routed before => step_routed asked db call routed before) FeatureDb.start calls ?_
    (fun value member => absurd member List.not_mem_nil)
  rw [Runs.along_calls]
  intro call member reading made
  exact earlier reading (List.mem_flatMap.mpr ⟨call, member, made⟩)

theorem latestValue_mem (rows : List FeatureValue) (latest : FeatureValue)
    (isLatest : latestValue rows = some latest) : latest ∈ rows :=
  List.mem_mergeSort.mp (List.mem_of_head? isLatest)

theorem mem_valuesFor (db : FeatureDb) (rowOrder : RowOrder (Nat × FeatureValue)) (featureId : Nat)
    (objectType objectId : String) (value : FeatureValue)
    (member : value ∈ valuesFor db rowOrder featureId objectType objectId) :
    value ∈ db.featureValues.rows := by
  obtain ⟨entry, inside, rfl⟩ := List.mem_map.mp member
  rw [Table.mem_select] at inside
  exact (Table.mem_rows _ _).mpr ⟨entry.1, inside.1⟩

theorem layer_right_iff (asked : Time) (value : FeatureValue) (routed : Routed asked value) :
    value.storageLayer = storageLayer value.expiresAt asked ↔
      value.storageLayer = .cold ∨ asked < value.expiresAt := by
  by_cases future : asked < value.expiresAt
  · rw [storageLayer, if_pos future]
    refine iff_of_true ?_ (Or.inr future)
    cases layer : value.storageLayer with
    | hot => rfl
    | cold => exact (not_lt.mpr (routed layer) future).elim
  · rw [storageLayer, if_neg future]
    exact (or_iff_left future).symm

theorem report_consistent (asked : Time) (featureCode objectType objectId : String)
    (latest : Option FeatureValue) :
    (consistencyReport asked featureCode objectType objectId latest).isConsistent = true ↔
      ∀ value, latest = some value →
        value.storageLayer = storageLayer value.expiresAt asked := by
  cases latest with
  | none => exact iff_of_true rfl (fun _ missing => nomatch missing)
  | some value => simp [consistencyReport]

theorem verifyFeatureConsistency_admin (db : FeatureDb) (rowOrder : RowOrder (Nat × FeatureValue))
    (asked : Time) (actor : User) (featureCode objectType objectId : String)
    (feature : Nat × FeatureDefinition) (admin : isOpsAdmin actor = true)
    (defined : featureWithCode db featureCode = some feature) :
    verifyFeatureConsistency db rowOrder asked actor featureCode objectType objectId =
      .ok (consistencyReport asked featureCode objectType objectId
        (latestValue (valuesFor db rowOrder feature.1 objectType objectId))) := by
  rw [verifyFeatureConsistency, (assertOpsAdmin_ok actor ()).mpr admin, defined]
  rfl

/-- After any run, and at any later time, the check reports a feature and object consistent exactly
when they have no value, or the latest one has not expired, or it had when it was stored. -/
theorem consistent_iff_not_expired (calls : List Call) (asked : Time) (dated : Dated calls asked)
    (rowOrder : RowOrder (Nat × FeatureValue)) (actor : User)
    (featureCode objectType objectId : String) (feature : Nat × FeatureDefinition)
    (admin : isOpsAdmin actor = true)
    (defined : featureWithCode (run calls) featureCode = some feature) :
    (∃ response, verifyFeatureConsistency (run calls) rowOrder asked actor featureCode objectType
          objectId = .ok response ∧
        (response.isConsistent = true ↔ ∀ latest,
          latestValue (valuesFor (run calls) rowOrder feature.1 objectType objectId) =
            some latest → latest.storageLayer = .cold ∨ asked < latest.expiresAt)) ∧
      ∀ value ∈ (run calls).featureValues.rows, asked < value.expiresAt →
        value.storageLayer = .hot := by
  have routed := run_routed calls asked dated
  constructor
  · refine ⟨_, verifyFeatureConsistency_admin (run calls) rowOrder asked actor featureCode
      objectType objectId feature admin defined, ?_⟩
    refine (report_consistent asked featureCode objectType objectId _).trans (forall₂_congr ?_)
    intro latest isLatest
    have member := mem_valuesFor _ _ _ _ _ latest (latestValue_mem _ latest isLatest)
    exact layer_right_iff asked latest (routed latest member)
  · intro value member future
    cases layer : value.storageLayer with
    | hot => rfl
    | cold => exact (not_lt.mpr (routed value member layer) future).elim

theorem sales_length : 2 ≤ "daily_sales".length ∧ "daily_sales".length ≤ 128 := by decide

theorem salesName_length : 2 ≤ "Daily sales".length ∧ "Daily sales".length ≤ 160 := by decide

def dailySales : FeatureDefinitionCreateRequest :=
  ⟨⟨"daily_sales", sales_length⟩, ⟨"Daily sales", salesName_length⟩, none, 1, "online", Int.one_pos⟩

def salesOfS1 : FeatureValueUpsertRequest :=
  ⟨"daily_sales", "store", "S1", some 5, none, "online", none, none⟩

def analyst : User := ⟨1, true, []⟩

/-- A column that takes every number as it is, and a digest that shows what it digests. -/
def plainTools : FeatureTools := ⟨.ok, fun _ => "5.0", id⟩

def oneSecondSales : List Call :=
  [.createFeatureDefinition ⟨0, 0, 0⟩ analyst dailySales,
    .upsertFeatureValue plainTools ⟨0, 0, 0⟩ analyst salesOfS1]

theorem oneSecondSales_dated : Dated oneSecondSales 2000000 := by
  unfold Dated
  decide

theorem consistent_iff_not_expired_sales : ∃ feature,
    (∃ response, verifyFeatureConsistency (run oneSecondSales) RowOrder.byKey 2000000 analyst
          "daily_sales" "store" "S1" = .ok response ∧
        (response.isConsistent = true ↔ ∀ latest,
          latestValue (valuesFor (run oneSecondSales) RowOrder.byKey feature "store" "S1") =
            some latest → latest.storageLayer = .cold ∨ 2000000 < latest.expiresAt)) ∧
      ∀ value ∈ (run oneSecondSales).featureValues.rows, 2000000 < value.expiresAt →
        value.storageLayer = .hot := by
  obtain ⟨feature, defined⟩ := Option.isSome_iff_exists.mp
    (show (featureWithCode (run oneSecondSales) "daily_sales").isSome = true by decide +kernel)
  exact ⟨feature.1, consistent_iff_not_expired oneSecondSales 2000000 oneSecondSales_dated
    RowOrder.byKey analyst "daily_sales" "store" "S1" feature (by decide) defined⟩

theorem hot_after_expiry : Dated oneSecondSales 2000000 ∧
    verifyFeatureConsistency (run oneSecondSales) RowOrder.byKey 2000000 analyst "daily_sales"
        "store" "S1" =
      .ok ⟨"daily_sales", "store", "S1", false, "Layer mismatch with TTL"⟩ ∧
    (run oneSecondSales).featureValues.rows.map (fun value => (value.storageLayer, value.expiresAt)) =
      [(.hot, 1000000)] :=
  ⟨oneSecondSales_dated, by decide +kernel, by decide +kernel⟩

end RetailApp.Features
