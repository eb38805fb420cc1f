import RetailApp.Features.Consistency

/-! The feature store as the history of what its calls answered: each row is there because one
call answered it, and the questions about a window of time are questions about this history. -/

namespace RetailApp.Features

open Transaction

structure Observation where
  windowEnd : Time
  response : FeatureValueResponse

def observed (entry : Nat × FeatureValue) : Observation :=
  ⟨entry.2.windowEnd, featureValueToResponse entry⟩

def defined (db : FeatureDb) : Call → List FeatureDefinitionResponse
  | .createFeatureDefinition env actor payload =>
      match reply (createFeatureDefinition env actor payload) db with
      | .ok response => [response]
      | .error _ => []
  | .upsertFeatureValue _ _ _ _ => []

def upserted (db : FeatureDb) : Call → List Observation
  | .createFeatureDefinition _ _ _ => []
  | .upsertFeatureValue tools env actor payload =>
      match reply (upsertFeatureValue tools env actor payload) db with
      | .ok response => [⟨env.now, response⟩]
      | .error _ => []

/-- The lineage of a value, where its run and its source were given. -/
def lineageRows (tools : FeatureTools) (featureId valueId : Nat)
    (payload : FeatureValueUpsertRequest) : List FeatureLineage :=
  match lineageOf payload with
  | none => []
  | some (runId, source) =>
      (newFeatureLineage tools featureId valueId payload runId source).toOption.toList

def traced (db : FeatureDb) : Call → List FeatureLineage
  | .createFeatureDefinition _ _ _ => []
  | .upsertFeatureValue tools env actor payload =>
      match reply (upsertFeatureValue tools env actor payload) db with
      | .ok response => lineageRows tools response.featureDefinitionId response.id payload
      | .error _ => []

def definitions (calls : List Call) : List FeatureDefinitionResponse :=
  Runs.outputs step defined FeatureDb.start calls

def observations (calls : List Call) : List Observation :=
  Runs.outputs step upserted FeatureDb.start calls

def lineages (calls : List Call) : List FeatureLineage :=
  Runs.outputs step traced FeatureDb.start calls

def Belongs (feature : Nat × FeatureDefinition) (row : FeatureValue) : Prop :=
  row.featureDefinitionId = feature.1 ∧
    row.expiresAt = row.windowEnd + timedeltaSeconds feature.2.ttlSeconds

inductive Change (db : FeatureDb) :
    FeatureDb → List FeatureDefinitionResponse → List Observation → List FeatureLineage → Prop
  | refused : Change db db [] [] []
  | defined (row : FeatureDefinition) (fresh : row.code ∉ db.featureDefinitions.rows.map (·.code)) :
      Change db { db with featureDefinitions := db.featureDefinitions.insert row }
        [featureDefToResponse (db.featureDefinitions.nextKey, row)] [] []
  | upserted (feature : Nat × FeatureDefinition) (row : FeatureValue)
      (lineage : List FeatureLineage)
      (known : db.featureDefinitions.get? feature.1 = some feature.2)
      (belongs : Belongs feature row) :
      Change db
        { db with
          featureValues := db.featureValues.insert row
          featureLineage := db.featureLineage.insertAll lineage }
        [] [observed (db.featureValues.nextKey, row)] lineage

section Calls

variable (env : FeatureEnv) (actor : User) (db written : FeatureDb)

theorem createFeatureDefinition_ok (payload : FeatureDefinitionCreateRequest)
    (response : FeatureDefinitionResponse)
    (returned : createFeatureDefinition env actor payload db = .ok response written) :
    ∃ row, row.code ∉ db.featureDefinitions.rows.map (·.code) ∧
      response = featureDefToResponse (db.featureDefinitions.nextKey, row) ∧
      written = { db with featureDefinitions := db.featureDefinitions.insert row } := by
  simp only [createFeatureDefinition, insertFeatureDefinition, bind_ok, get_ok, attempt_ok,
    transactional_ok, set_ok, pure_ok, raiseIf_ok] at returned
  obtain ⟨_, _, ⟨rfl, rfl⟩, _, _, ⟨_, rfl⟩, _, _, ⟨row, _, ⟨_, rfl⟩, _, _,
    ⟨_, _, ⟨rfl, rfl⟩, _, _, ⟨free, rfl⟩, _, _, rfl, rfl, rfl⟩, rfl, rfl⟩, rfl, rfl⟩ := returned
  refine ⟨row, ?_, rfl, rfl⟩
  intro taken
  obtain ⟨other, member, same⟩ := List.mem_map.mp taken
  exact free (List.any_eq_true.mpr ⟨other, member, beq_iff_eq.mpr same⟩)

variable (tools : FeatureTools) (payload : FeatureValueUpsertRequest)

theorem newFeatureValue_belongs (feature : Nat × FeatureDefinition) (row : FeatureValue)
    (made : newFeatureValue tools env feature payload = .ok row) :
    Belongs feature row ∧ row.windowEnd = env.now := by
  simp only [newFeatureValue, bind_except_ok, pure_except_ok] at made
  obtain ⟨_, _, _, _, _, _, _, _, _, _, _, _, rfl⟩ := made
  exact ⟨⟨rfl, rfl⟩, rfl⟩

/-- The lineage of one value: a single row where its run and its source were given, and none
elsewhere. -/
def OneLineage (featureId valueId : Nat) (rows : List FeatureLineage) : Prop :=
  match lineageOf payload with
  | none => rows = []
  | some (runId, source) => ∃ row,
      newFeatureLineage tools featureId valueId payload runId source = .ok row ∧ rows = [row]

theorem writeLineage_ok (featureId valueId : Nat)
    (recorded : writeLineage tools featureId valueId payload db = .ok () written) :
    OneLineage tools payload featureId valueId (lineageRows tools featureId valueId payload) ∧
    written = { db with
      featureLineage :=
        db.featureLineage.insertAll (lineageRows tools featureId valueId payload) } := by
  cases given : lineageOf payload with
  | none =>
      rw [writeLineage, given] at recorded
      cases recorded
      have rows : lineageRows tools featureId valueId payload = [] := by rw [lineageRows, given]
      rw [OneLineage, given, rows, Table.insertAll_nil]
      exact ⟨rfl, rfl⟩
  | some lineage =>
      simp only [writeLineage, given, bind_ok, attempt_ok, modify_ok] at recorded
      obtain ⟨row, _, ⟨made, rfl⟩, rfl⟩ := recorded
      have rows : lineageRows tools featureId valueId payload =
          (newFeatureLineage tools featureId valueId payload lineage.1 lineage.2).toOption.toList := by
        rw [lineageRows, given]
      rw [made] at rows
      rw [OneLineage, given, rows]
      exact ⟨⟨row, made, rfl⟩, rfl⟩

theorem upsertFeatureValue_ok (response : FeatureValueResponse)
    (returned : upsertFeatureValue tools env actor payload db = .ok response written) :
    ∃ feature row, db.featureDefinitions.get? feature.1 = some feature.2 ∧
      Belongs feature row ∧ row.windowEnd = env.now ∧
      response = featureValueToResponse (db.featureValues.nextKey, row) ∧
      OneLineage tools payload feature.1 db.featureValues.nextKey
        (lineageRows tools feature.1 db.featureValues.nextKey payload) ∧
      written = { db with
        featureValues := db.featureValues.insert row
        featureLineage := db.featureLineage.insertAll
          (lineageRows tools feature.1 db.featureValues.nextKey payload) } := by
  simp only [upsertFeatureValue, insertFeatureValue, bind_ok, get_ok, attempt_ok,
    transactional_ok, set_ok, pure_ok] at returned
  obtain ⟨_, _, ⟨rfl, rfl⟩, feature, _, ⟨passed, rfl⟩, _, _, ⟨row, _, ⟨made, rfl⟩, _, _,
    ⟨_, _, ⟨rfl, rfl⟩, _, _, rfl, rfl, rfl⟩, _, _, recorded, rfl, rfl⟩, rfl, rfl⟩ := returned
  simp only [upsertChecks, bind_except_ok, orRaise_ok] at passed
  obtain ⟨_, _, known⟩ := passed
  obtain ⟨belongs, ends⟩ := newFeatureValue_belongs env tools payload feature row made
  refine ⟨feature, row, (Table.find?_some _ _ _ known).1, belongs, ends, rfl, ?_⟩
  exact writeLineage_ok _ _ tools payload feature.1 _ recorded

end Calls

theorem step_change (db : FeatureDb) (call : Call) :
    Change db (step db call) (defined db call) (upserted db call) (traced db call) := by
  cases call with
  | createFeatureDefinition env actor payload =>
      rw [step, defined, upserted, traced]
      rcases outcome_cases (createFeatureDefinition env actor payload) db with
        ⟨response, returned, replied⟩ | ⟨raised, failed, replied⟩
      · obtain ⟨row, fresh, answer, wrote⟩ :=
          createFeatureDefinition_ok env actor db _ payload response returned
        rw [replied, wrote, answer]
        exact .defined row fresh
      · rw [replied, createFeatureDefinition_allOrNothing env actor payload db _ raised failed]
        exact .refused
  | upsertFeatureValue tools env actor payload =>
      rw [step, defined, upserted, traced]
      rcases outcome_cases (upsertFeatureValue tools env actor payload) db with
        ⟨response, returned, replied⟩ | ⟨raised, failed, replied⟩
      · obtain ⟨feature, row, known, belongs, ends, answer, _, wrote⟩ :=
          upsertFeatureValue_ok env actor db _ tools payload response returned
        have changed := Change.upserted feature row
          (lineageRows tools feature.1 db.featureValues.nextKey payload) known belongs
        rw [observed, ends, ← belongs.1] at changed
        rw [replied, wrote, answer, ← belongs.1]
        exact changed
      · rw [replied, upsertFeatureValue_allOrNothing tools env actor payload db _ raised failed]
        exact .refused

def definitionsOf (db : FeatureDb) : List FeatureDefinitionResponse :=
  db.featureDefinitions.entries.map featureDefToResponse

def observationsOf (db : FeatureDb) : List Observation := db.featureValues.entries.map observed

theorem run_definitions (calls : List Call) : definitionsOf (run calls) = definitions calls := by
  refine Runs.run_appends step defined definitionsOf (fun db call => ?_) FeatureDb.start calls
  have change := step_change db call
  generalize step db call = db', defined db call = definitions, upserted db call = values,
    traced db call = lineages at change ⊢
  cases change with
  | refused => rw [List.append_nil]
  | defined row fresh => rw [definitionsOf, Table.entries_insert, List.map_append]; rfl
  | upserted feature row lineage known belongs => rw [List.append_nil]; rfl

theorem run_observations (calls : List Call) : observationsOf (run calls) = observations calls := by
  refine Runs.run_appends step upserted observationsOf (fun db call => ?_) FeatureDb.start calls
  have change := step_change db call
  generalize step db call = db', defined db call = definitions, upserted db call = values,
    traced db call = lineages at change ⊢
  cases change with
  | refused => rw [List.append_nil]
  | defined row fresh => rw [List.append_nil]; rfl
  | upserted feature row lineage known belongs =>
      rw [observationsOf, Table.entries_insert, List.map_append]
      rfl

theorem run_lineages (calls : List Call) : (run calls).featureLineage.rows = lineages calls := by
  refine Runs.run_appends step traced (·.featureLineage.rows) (fun db call => ?_) FeatureDb.start
    calls
  have change := step_change db call
  generalize step db call = db', defined db call = definitions, upserted db call = values,
    traced db call = lineages at change ⊢
  cases change with
  | refused => rw [List.append_nil]
  | defined row fresh => rw [List.append_nil]
  | upserted feature row lineage known belongs => rfl

structure Kept (db : FeatureDb) : Prop where
  distinct : (db.featureDefinitions.rows.map (·.code)).Nodup
  owned : ∀ row ∈ db.featureValues.rows, ∃ feature : Nat × FeatureDefinition,
    db.featureDefinitions.get? feature.1 = some feature.2 ∧ Belongs feature row

theorem step_kept (db : FeatureDb) (call : Call) (kept : Kept db) : Kept (step db call) := by
  have change := step_change db call
  generalize step db call = db', defined db call = definitions, upserted db call = values,
    traced db call = lineages at change ⊢
  cases change with
  | refused => exact kept
  | defined row fresh =>
      constructor
      · show ((db.featureDefinitions.rows ++ [row]).map (·.code)).Nodup
        rw [List.map_append, List.map_singleton, ← List.concat_eq_append, List.nodup_concat]
        exact ⟨fresh, kept.distinct⟩
      · intro value member
        obtain ⟨feature, known, belongs⟩ := kept.owned value member
        exact ⟨feature, Table.get?_insert_of_some _ _ _ _ known, belongs⟩
  | upserted feature row lineage known belongs =>
      constructor
      · exact kept.distinct
      · rw [Table.forall_rows_insert]
        exact ⟨kept.owned, feature, known, belongs⟩

theorem run_kept (calls : List Call) : Kept (run calls) := by
  refine Runs.run_preserves step Kept step_kept FeatureDb.start calls ⟨List.nodup_nil, ?_⟩
  intro row member
  cases member

theorem traced_answered (db : FeatureDb) (tools : FeatureTools) (env : FeatureEnv) (actor : User)
    (payload : FeatureValueUpsertRequest) (response : FeatureValueResponse)
    (answered : reply (upsertFeatureValue tools env actor payload) db = .ok response) :
    OneLineage tools payload response.featureDefinitionId response.id
      (traced db (.upsertFeatureValue tools env actor payload)) := by
  rcases outcome_cases (upsertFeatureValue tools env actor payload) db with
    ⟨_, returned, replied⟩ | ⟨_, _, replied⟩
  · obtain rfl := Except.ok.inj (replied.symm.trans answered)
    obtain ⟨feature, row, _, belongs, _, rfl, made, _⟩ :=
      upsertFeatureValue_ok env actor db _ tools payload _ returned
    rw [← belongs.1] at made
    rw [traced, answered]
    exact made
  · cases replied.symm.trans answered

/-- After any run the tables are the history of the answers: the definitions and the values are
those that were answered, one row for each and in their order, and the lineage rows those of the
answered values that named a run and a source, one for each. No code was defined twice, and every
value expires by the time to live of a definition that was answered. -/
theorem feature_history_exact (calls : List Call) :
    definitionsOf (run calls) = definitions calls ∧
    observationsOf (run calls) = observations calls ∧
    (run calls).featureLineage.rows = lineages calls ∧
    (∀ db tools env actor payload response,
      reply (upsertFeatureValue tools env actor payload) db = .ok response →
        OneLineage tools payload response.featureDefinitionId response.id
          (traced db (.upsertFeatureValue tools env actor payload))) ∧
    ((definitions calls).map (·.code)).Nodup ∧
    ∀ observation ∈ observations calls, ∃ definition ∈ definitions calls,
      observation.response.featureDefinitionId = definition.id ∧
      observation.response.expiresAt =
        observation.windowEnd + timedeltaSeconds definition.ttlSeconds := by
  have kept := run_kept calls
  refine ⟨run_definitions calls, run_observations calls, run_lineages calls, traced_answered, ?_,
    ?_⟩
  · have codes : (definitions calls).map (·.code) =
        (run calls).featureDefinitions.rows.map (·.code) := by
      rw [← run_definitions, definitionsOf, ← Table.map_snd_entries, List.map_map, List.map_map]
      rfl
    rw [codes]
    exact kept.distinct
  · rw [← run_definitions, ← run_observations]
    intro observation member
    obtain ⟨entry, inside, rfl⟩ := List.mem_map.mp member
    have present := (Table.mem_entries _ entry.1 entry.2).mp inside
    obtain ⟨feature, known, belongs⟩ :=
      kept.owned entry.2 ((Table.mem_rows _ _).mpr ⟨entry.1, present⟩)
    refine ⟨featureDefToResponse feature, ?_, belongs.1, belongs.2⟩
    exact List.mem_map_of_mem ((Table.mem_entries _ feature.1 feature.2).mpr known)

def about (featureId : Nat) (objectType objectId : String) (observation : Observation) : Bool :=
  observation.response.featureDefinitionId == featureId &&
    observation.response.objectType == objectType && observation.response.objectId == objectId

def definitionAnswered (calls : List Call) (actor : User) (featureCode : String) :
    Except Raised FeatureDefinitionResponse := do
  assertOpsAdmin actor
  orRaise ((definitions calls).find? (·.code == featureCode))
    (.notFound "Feature definition not found")

def recent (calls : List Call) (featureId : Nat) (objectType objectId : String)
    (dated : Observation → Time) (threshold : Time) : List Observation :=
  (observations calls).filter (fun observation =>
    about featureId objectType objectId observation && decide (threshold ≤ dated observation))

def average (numbers : List ℚ) : ℚ := numbers.sum / numbers.length

theorem feature_answered (calls : List Call) (featureCode : String) :
    (definitions calls).find? (·.code == featureCode) =
      (featureWithCode (run calls) featureCode).map featureDefToResponse := by
  rw [← run_definitions, definitionsOf, List.find?_map]
  rfl

theorem valuesSince_recent (calls : List Call) (rowOrder : RowOrder (Nat × FeatureValue))
    (featureId : Nat) (objectType objectId : String) (dated : FeatureValue → Time)
    (shown : Observation → Time) (threshold : Time)
    (agree : ∀ entry, shown (observed entry) = dated entry.2) :
    ((valuesSince (run calls) rowOrder featureId objectType objectId dated threshold).map
        (·.valueNumeric)).Perm
      ((recent calls featureId objectType objectId shown threshold).map
        (·.response.valueNumeric)) := by
  have kept : recent calls featureId objectType objectId shown threshold =
      ((run calls).featureValues.entries.filter (fun entry =>
        entry.2.featureDefinitionId == featureId && entry.2.objectType == objectType &&
          entry.2.objectId == objectId && decide (threshold ≤ dated entry.2))).map observed := by
    rw [recent, ← run_observations, observationsOf, List.filter_map]
    congr 2
    funext entry
    rw [Function.comp_apply, about, agree]
    rfl
  rw [kept, valuesSince, List.map_map, List.map_map]
  exact (rowOrder.perm _).map _

theorem average_perm (numbers numbers' : List ℚ) (same : numbers.Perm numbers') :
    (if numbers = [] then 0 else numbers.sum / numbers.length) = average numbers' := by
  rw [average, ← same.sum_eq, ← same.length_eq]
  by_cases none : numbers = []
  · simp [none]
  · rw [if_neg none]

theorem slidingWindowAverage_history (calls : List Call)
    (rowOrder : RowOrder (Nat × FeatureValue)) (now : Time) (actor : User)
    (featureCode objectType objectId : String) (windowMinutes : Int) :
    slidingWindowAverage (run calls) rowOrder now actor featureCode objectType objectId
        windowMinutes = do
      let definition ← definitionAnswered calls actor featureCode
      return average ((recent calls definition.id objectType objectId (·.windowEnd)
        (now - timedeltaMinutes windowMinutes)).filterMap (·.response.valueNumeric)) := by
  rw [slidingWindowAverage, definitionAnswered, feature_answered]
  cases assertOpsAdmin actor with
  | error raised => rfl
  | ok _ =>
      cases featureWithCode (run calls) featureCode with
      | none => rfl
      | some feature =>
          have same := valuesSince_recent calls rowOrder feature.1 objectType objectId
            (·.windowEnd) (·.windowEnd) (now - timedeltaMinutes windowMinutes) (fun _ => rfl)
          have numbers := same.filterMap id
          rw [List.filterMap_map, List.filterMap_map] at numbers
          exact congrArg Except.ok (average_perm _ _ numbers)

theorem frequencyPerMinute_history (calls : List Call)
    (rowOrder : RowOrder (Nat × FeatureValue)) (now : Time) (actor : User)
    (featureCode objectType objectId : String) (minutes : Int) :
    frequencyPerMinute (run calls) rowOrder now actor featureCode objectType objectId minutes = do
      let definition ← definitionAnswered calls actor featureCode
      return if minutes ≤ 0 then 0
        else (recent calls definition.id objectType objectId (·.response.createdAt)
          (now - timedeltaMinutes minutes)).length / minutes := by
  rw [frequencyPerMinute, definitionAnswered, feature_answered]
  cases assertOpsAdmin actor with
  | error raised => rfl
  | ok _ =>
      cases featureWithCode (run calls) featureCode with
      | none => rfl
      | some feature =>
          have same := valuesSince_recent calls rowOrder feature.1 objectType objectId
            (·.createdAt) (·.response.createdAt) (now - timedeltaMinutes minutes) (fun _ => rfl)
          have counts := same.length_eq
          rw [List.length_map, List.length_map] at counts
          have shown : (featureDefToResponse feature).id = feature.1 := rfl
          simp only [bind, Except.bind, orRaise_some, Option.map_some, counts, shown]

/-- After any run the two questions about a window of time are questions about the history of
answers alone: who may ask and which codes are known, which answers fall into the window, and
their average and number. Neither the order in which the database returns rows nor an upsert that
was not answered makes a difference. -/
theorem windows_from_history (calls : List Call) (rowOrder : RowOrder (Nat × FeatureValue))
    (now : Time) (actor : User) (featureCode objectType objectId : String) (minutes : Int) :
    (slidingWindowAverage (run calls) rowOrder now actor featureCode objectType objectId minutes =
      do
        let definition ← definitionAnswered calls actor featureCode
        return average ((recent calls definition.id objectType objectId (·.windowEnd)
          (now - timedeltaMinutes minutes)).filterMap (·.response.valueNumeric))) ∧
    frequencyPerMinute (run calls) rowOrder now actor featureCode objectType objectId minutes = do
      let definition ← definitionAnswered calls actor featureCode
      return if minutes ≤ 0 then 0
        else (recent calls definition.id objectType objectId (·.response.createdAt)
          (now - timedeltaMinutes minutes)).length / minutes :=
  ⟨slidingWindowAverage_history calls rowOrder now actor featureCode objectType objectId minutes,
    frequencyPerMinute_history calls rowOrder now actor featureCode objectType objectId minutes⟩

end RetailApp.Features
