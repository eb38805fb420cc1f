import RetailApp.Library.Similarity
import RetailApp.Services.FeatureService

/-! The correlation proxy, on exact rationals. It compares two means, and so depends neither on the
order of the features nor on the orders in which the database returns their values. -/

namespace RetailApp.Features

theorem proxyScore_eq (leftRows rightRows : List FeatureValue) :
    proxyScore leftRows rightRows =
      Similarity.score (1 / 10 ^ 9) (numericMean leftRows) (numericMean rightRows) := rfl

theorem proxyScore_comm (leftRows rightRows : List FeatureValue) :
    proxyScore leftRows rightRows = proxyScore rightRows leftRows := by
  rw [proxyScore_eq, proxyScore_eq, Similarity.score_comm]

def numbersOf (rows : List FeatureValue) : List ℚ := rows.filterMap (·.valueNumeric)

/-- The sum over the count; Lean's `0 / 0` is the 0 of an empty list. -/
theorem numericMean_eq (rows : List FeatureValue) :
    numericMean rows = (numbersOf rows).sum / (numbersOf rows).length := by
  change (numbersOf rows).sum / (max 1 (numbersOf rows).length : ℕ) = _
  cases numbersOf rows with
  | nil => simp
  | cons first rest => rw [max_eq_right (by simp)]

theorem numericMean_perm (rows rows' : List FeatureValue) (perm : rows.Perm rows') :
    numericMean rows = numericMean rows' := by
  have numbers := perm.filterMap (·.valueNumeric)
  rw [numericMean, numericMean, numbers.sum_eq, numbers.length_eq]

theorem proxyScore_perm (leftRows leftRows' rightRows rightRows' : List FeatureValue)
    (leftPerm : leftRows.Perm leftRows') (rightPerm : rightRows.Perm rightRows') :
    proxyScore leftRows rightRows = proxyScore leftRows' rightRows' := by
  rw [proxyScore_eq, proxyScore_eq, numericMean_perm leftRows leftRows' leftPerm,
    numericMean_perm rightRows rightRows' rightPerm]

theorem valuesFor_perm (db : FeatureDb) (rowOrder rowOrder' : RowOrder (Nat × FeatureValue))
    (featureId : Nat) (objectType objectId : String) :
    (valuesFor db rowOrder featureId objectType objectId).Perm
      (valuesFor db rowOrder' featureId objectType objectId) :=
  ((rowOrder.perm _).trans (rowOrder'.perm _).symm).map Prod.snd

theorem correlationProxy_comm (db : FeatureDb) (rowOrder rowOrder' : RowOrder (Nat × FeatureValue))
    (actor : User) (leftCode rightCode objectType objectId : String) :
    correlationProxy db rowOrder actor leftCode rightCode objectType objectId =
      correlationProxy db rowOrder' actor rightCode leftCode objectType objectId := by
  unfold correlationProxy
  cases left : featureWithCode db leftCode with
  | none => cases right : featureWithCode db rightCode <;> rfl
  | some first =>
      cases right : featureWithCode db rightCode with
      | none => rfl
      | some second =>
          have same := proxyScore_perm _ _ _ _
            (valuesFor_perm db rowOrder rowOrder' first.1 objectType objectId)
            (valuesFor_perm db rowOrder rowOrder' second.1 objectType objectId)
          simp only [same, proxyScore_comm]

theorem correlationProxy_ok (db : FeatureDb) (rowOrder : RowOrder (Nat × FeatureValue))
    (actor : User) (leftCode rightCode objectType objectId : String) (score : ℚ) :
    correlationProxy db rowOrder actor leftCode rightCode objectType objectId = .ok score ↔
      isOpsAdmin actor = true ∧ ∃ left right, featureWithCode db leftCode = some left ∧
        featureWithCode db rightCode = some right ∧
        proxyScore (valuesFor db rowOrder left.1 objectType objectId)
          (valuesFor db rowOrder right.1 objectType objectId) = score := by
  unfold correlationProxy
  rw [Transaction.bind_except_ok]
  simp only [assertOpsAdmin_ok]
  cases featureWithCode db leftCode with
  | none => simp
  | some left =>
      cases featureWithCode db rightCode with
      | none => simp
      | some right => simp [Transaction.pure_except_ok]

theorem tolerance_pos : (0 : ℚ) < 1 / 10 ^ 9 := by norm_num

/-- A bounded symmetric score of any two lists of values, and the one the service answers with. -/
theorem correlationProxy_bounded :
    (∀ leftRows rightRows : List FeatureValue,
      -1 ≤ proxyScore leftRows rightRows ∧ proxyScore leftRows rightRows ≤ 1 ∧
        proxyScore leftRows rightRows = proxyScore rightRows leftRows ∧
        (proxyScore leftRows rightRows = 1 ↔
          (numbersOf leftRows).sum / (numbersOf leftRows).length =
            (numbersOf rightRows).sum / (numbersOf rightRows).length) ∧
        (¬ Similarity.Opposed ((numbersOf leftRows).sum / (numbersOf leftRows).length)
            ((numbersOf rightRows).sum / (numbersOf rightRows).length) →
          0 ≤ proxyScore leftRows rightRows)) ∧
    ∀ db rowOrder rowOrder' actor leftCode rightCode objectType objectId,
      correlationProxy db rowOrder actor leftCode rightCode objectType objectId =
          correlationProxy db rowOrder' actor rightCode leftCode objectType objectId ∧
        ∀ score, correlationProxy db rowOrder actor leftCode rightCode objectType objectId =
            .ok score ↔
          isOpsAdmin actor = true ∧ ∃ left right, featureWithCode db leftCode = some left ∧
            featureWithCode db rightCode = some right ∧
            proxyScore (valuesFor db rowOrder left.1 objectType objectId)
              (valuesFor db rowOrder right.1 objectType objectId) = score := by
  refine ⟨fun leftRows rightRows => ⟨?_, ?_, proxyScore_comm leftRows rightRows, ?_, ?_⟩,
    fun db rowOrder rowOrder' actor leftCode rightCode objectType objectId => ⟨?_, fun score => ?_⟩⟩
  · exact Similarity.neg_one_le_score _ _ _ tolerance_pos
  · exact Similarity.score_le_one _ _ _ tolerance_pos
  · rw [← numericMean_eq, ← numericMean_eq]
    exact Similarity.score_eq_one_iff _ _ _ tolerance_pos
  · rw [← numericMean_eq, ← numericMean_eq]
    exact Similarity.score_nonneg _ _ _ tolerance_pos
  · exact correlationProxy_comm db rowOrder rowOrder' actor leftCode rightCode objectType objectId
  · exact correlationProxy_ok db rowOrder actor leftCode rightCode objectType objectId score

end RetailApp.Features
