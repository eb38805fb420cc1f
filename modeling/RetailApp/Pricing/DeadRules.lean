import RetailApp.Pricing.OneMoreRule

/-! Which stored promotion rules the engine can never act on: the type of a request is free text,
and each branch of the engine passes over a rule that lacks one of its fields. -/

namespace RetailApp

inductive RuleField where
  | thresholdAmount
  | discountAmount
  | buyQuantity
  | getQuantity
  | tierQuantity
  | tierUnitPrice
  | purchaseLimitQuantity
  | appliesToProductId
  deriving DecidableEq

/-- The fields without which the branch of a type returns at once. -/
def PromotionType.requires : PromotionType → List RuleField
  | .spendAndSave => [.thresholdAmount, .discountAmount]
  | .buyAndGet => [.buyQuantity, .getQuantity, .appliesToProductId]
  | .tieredPricing => [.tierQuantity, .tierUnitPrice, .appliesToProductId]
  | .purchaseLimit => [.purchaseLimitQuantity, .appliesToProductId]

def PromotionRule.gives (rule : PromotionRule) : RuleField → Bool
  | .thresholdAmount => rule.thresholdAmount.isSome
  | .discountAmount => rule.discountAmount.isSome
  | .buyQuantity => rule.buyQuantity.isSome
  | .getQuantity => rule.getQuantity.isSome
  | .tierQuantity => rule.tierQuantity.isSome
  | .tierUnitPrice => rule.tierUnitPrice.isSome
  | .purchaseLimitQuantity => rule.purchaseLimitQuantity.isSome
  | .appliesToProductId => rule.appliesToProductId.isSome

def PromotionRuleCreateRequest.gives (payload : PromotionRuleCreateRequest) : RuleField → Bool
  | .thresholdAmount => payload.thresholdAmount.isSome
  | .discountAmount => payload.discountAmount.isSome
  | .buyQuantity => payload.buyQuantity.isSome
  | .getQuantity => payload.getQuantity.isSome
  | .tierQuantity => payload.tierQuantity.isSome
  | .tierUnitPrice => payload.tierUnitPrice.isSome
  | .purchaseLimitQuantity => payload.purchaseLimitQuantity.isSome
  | .appliesToProductId => payload.appliesToProductId.isSome

namespace Pricing

open Transaction PromotionEngine

def Complete (ruleType : String) (gives : RuleField → Bool) : Prop :=
  ∃ kind : PromotionType, ruleType = kind.value ∧ ∀ field ∈ kind.requires, gives field = true

/-- Whatever values stand in the fields given, no rule of this type does anything to any cart. -/
def Skipped (ruleType : String) (gives : RuleField → Bool) : Prop :=
  ∀ rule : PromotionRule, rule.Valid → rule.ruleType = ruleType → rule.gives = gives →
    ∀ lines baseSubtotal result, applyRule lines baseSubtotal result rule = .ok result

def NoDeadRule (db : Db) : Prop :=
  ∀ rule ∈ db.promotionRules.rows, rule.isActive = true → ¬ Skipped rule.ruleType rule.gives

theorem applyRule_incomplete (rule : PromotionRule)
    (incomplete : ¬ Complete rule.ruleType rule.gives) (lines : List (Nat × OrderLine))
    (baseSubtotal : ℚ) (result : PromotionResult) :
    applyRule lines baseSubtotal result rule = .ok result := by
  have lacks (kind : PromotionType) (ofKind : rule.ruleType = kind.value) :
      ¬ ∀ field ∈ kind.requires, rule.gives field = true :=
    fun all => incomplete ⟨kind, ofKind, all⟩
  unfold applyRule
  split_ifs with spend buy tiered limit
  · have lacking := lacks _ spend
    unfold applySpendAndSave
    split
    · simp_all [PromotionType.requires, PromotionRule.gives]
    · rfl
  · have lacking := lacks _ buy
    unfold applyBuyAndGet
    split
    · simp_all [PromotionType.requires, PromotionRule.gives]
    · rfl
  · have lacking := lacks _ tiered
    unfold applyTieredPricing
    split
    · simp_all [PromotionType.requires, PromotionRule.gives]
    · rfl
  · have lacking := lacks _ limit
    unfold validatePurchaseLimit
    split
    · simp_all [PromotionType.requires, PromotionRule.gives]
    · rfl
  · rfl

theorem apply_incomplete (early late : List PromotionRule) (rule : PromotionRule)
    (incomplete : ¬ Complete rule.ruleType rule.gives) (lines : List (Nat × OrderLine))
    (baseSubtotal : ℚ) :
    apply (early ++ rule :: late) lines baseSubtotal = apply (early ++ late) lines baseSubtotal := by
  have passedOver (result : PromotionResult) :=
    applyRule_incomplete rule incomplete lines baseSubtotal result
  simp only [PromotionEngine.apply, List.foldlM_append, List.foldlM_cons, passedOver]
  rfl

def sampleRule (ruleType : String) (gives : RuleField → Bool) : PromotionRule where
  name := "Sample"
  ruleType := ruleType
  thresholdAmount := if gives .thresholdAmount then some Amount.zero else none
  discountAmount := if gives .discountAmount then some sodaPrice else none
  buyQuantity := if gives .buyQuantity then some 1 else none
  getQuantity := if gives .getQuantity then some 1 else none
  tierQuantity := if gives .tierQuantity then some 1 else none
  tierUnitPrice := if gives .tierUnitPrice then some Amount.zero else none
  purchaseLimitQuantity := if gives .purchaseLimitQuantity then some 1 else none
  appliesToProductId := if gives .appliesToProductId then some 1 else none
  isActive := true
  priority := 100
  details := none

theorem sampleRule_gives (ruleType : String) (gives : RuleField → Bool) :
    (sampleRule ruleType gives).gives = gives := by
  funext field
  cases field <;> simp only [PromotionRule.gives, sampleRule] <;> split <;> simp_all

theorem sampleRule_valid (ruleType : String) (gives : RuleField → Bool) :
    (sampleRule ruleType gives).Valid := by
  constructor <;> simp [sampleRule, sodaPrice, Amount.zero]

theorem applyRule_acts (rule : PromotionRule) (valid : rule.Valid)
    (acts : LimitExceeded rule [(1, sodaLine 2)] ∨ orderDiscountOf rule 0 ≠ 0 ∨
      lineDiscountOf rule 1 2 10 ≠ 0) :
    applyRule [(1, sodaLine 2)] 0 emptyResult rule ≠ .ok emptyResult := by
  rw [applyRule_eq _ _ rule valid]
  intro passedOver
  split at passedOver
  · cases passedOver
  · rename_i within
    have same := Except.ok.inj passedOver
    rcases acts with exceeded | discounts | discounts
    · exact within (decide_eq_true exceeded)
    · have order := congrArg PromotionResult.orderDiscountAmount same
      exact discounts (by simpa [takeIn, emptyResult] using order)
    · have line := congrArg (fun result => result.linePromoDiscounts 1) same
      apply discounts
      rw [takeIn, lineDiscounts, List.map_singleton] at line
      simpa [emptyResult, Accumulate.tally_cons, sodaLine, sodaPrice] using line

theorem sampleRule_acts (ruleType : String) (gives : RuleField → Bool)
    (complete : Complete ruleType gives) :
    applyRule [(1, sodaLine 2)] 0 emptyResult (sampleRule ruleType gives) ≠ .ok emptyResult := by
  apply applyRule_acts _ (sampleRule_valid ruleType gives)
  obtain ⟨kind, rfl, given⟩ := complete
  cases kind with
  | spendAndSave =>
      simp only [PromotionType.requires, List.forall_mem_cons] at given
      right
      left
      simp [orderDiscountOf, spendDiscount, sampleRule, given, sodaPrice]
  | buyAndGet =>
      simp only [PromotionType.requires, List.forall_mem_cons] at given
      right
      right
      simp [lineDiscountOf, groupDiscount, sampleRule, given]
  | tieredPricing =>
      simp only [PromotionType.requires, List.forall_mem_cons] at given
      right
      right
      simp [lineDiscountOf, tierDiscount, sampleRule, given]
  | purchaseLimit =>
      simp only [PromotionType.requires, List.forall_mem_cons] at given
      left
      simp [LimitExceeded, totalQuantity, sampleRule, given, sodaLine]

theorem skipped_iff (ruleType : String) (gives : RuleField → Bool) :
    Skipped ruleType gives ↔ ¬ Complete ruleType gives := by
  constructor
  · intro skipped complete
    exact sampleRule_acts ruleType gives complete (skipped (sampleRule ruleType gives)
      (sampleRule_valid ruleType gives) rfl (sampleRule_gives ruleType gives) _ _ _)
  · rintro incomplete rule _ rfl rfl lines baseSubtotal result
    exact applyRule_incomplete rule incomplete lines baseSubtotal result

theorem storeRule_gives (payload : PromotionRuleCreateRequest) (rule : PromotionRule)
    (stored : storeRule payload = .ok rule) : rule.gives = payload.gives := by
  simp only [storeRule, bind_except_ok, pure_except_ok] at stored
  obtain ⟨_, _, _, _, _, threshold, _, discount, _, buy, _, free, _, tier, _, price, _, limit, rfl⟩ :=
    stored
  funext field
  cases field with
  | thresholdAmount => exact mapM_option_isSome _ _ _ threshold
  | discountAmount => exact mapM_option_isSome _ _ _ discount
  | buyQuantity => exact mapM_option_isSome _ _ _ buy
  | getQuantity => exact mapM_option_isSome _ _ _ free
  | tierQuantity => exact mapM_option_isSome _ _ _ tier
  | tierUnitPrice => exact mapM_option_isSome _ _ _ price
  | purchaseLimitQuantity => exact mapM_option_isSome _ _ _ limit
  | appliesToProductId => rfl

/-- The column cuts no text down to the name of a type. -/
theorem storeRule_type_iff (payload : PromotionRuleCreateRequest) (rule : PromotionRule)
    (stored : storeRule payload = .ok rule) (kind : PromotionType) :
    rule.ruleType = kind.value ↔ payload.ruleType = kind.value := by
  constructor
  · intro ofKind
    have short : kind.value.length < 32 := by cases kind <;> decide
    simp only [storeRule, bind_except_ok, pure_except_ok] at stored
    obtain ⟨_, _, ruleType, fits, _, _, _, _, _, _, _, _, _, _, _, _, _, _, rfl⟩ := stored
    have isKind : ruleType = kind.value := ofKind
    have length := varchar_length _ _ _ _ fits
    rw [isKind] at length
    have whole : payload.ruleType.length ≤ 32 := by omega
    rw [varchar, if_pos whole] at fits
    exact (Except.ok.inj fits).trans isKind
  · exact fun ofKind => storeRule_type payload rule kind ofKind stored

theorem storeRule_complete (payload : PromotionRuleCreateRequest) (rule : PromotionRule)
    (stored : storeRule payload = .ok rule) :
    Complete rule.ruleType rule.gives ↔ Complete payload.ruleType payload.gives := by
  unfold Complete
  simp only [storeRule_gives payload rule stored, storeRule_type_iff payload rule stored]

theorem noDeadRule_insert (db : Db) (rule : PromotionRule) (active : rule.isActive = true) :
    NoDeadRule { db with promotionRules := db.promotionRules.insert rule } ↔
      NoDeadRule db ∧ Complete rule.ruleType rule.gives := by
  have rows := Table.forall_rows_insert db.promotionRules rule
    (fun rule => rule.isActive = true → ¬ Skipped rule.ruleType rule.gives)
  rw [NoDeadRule, rows, imp_iff_right active, skipped_iff, not_not]
  rfl

/-- An accepted rule can act exactly when its request names one of the four types and gives the
fields of that type; otherwise the engine gives the same result with the rule and without. -/
theorem createPromotionRule_alive_iff (payload : PromotionRuleCreateRequest) (db db' : Db)
    (ruleId : Nat) (rule : PromotionRule)
    (created : createPromotionRule payload db = .ok (ruleId, rule) db') :
    (Complete rule.ruleType rule.gives ∧ ¬ Skipped rule.ruleType rule.gives ↔
        Complete payload.ruleType payload.gives) ∧
      (NoDeadRule db' ↔ NoDeadRule db ∧ Complete payload.ruleType payload.gives) ∧
      (¬ Complete payload.ruleType payload.gives → ∀ early late lines baseSubtotal,
        apply (early ++ rule :: late) lines baseSubtotal =
          apply (early ++ late) lines baseSubtotal) := by
  obtain ⟨stored, rfl⟩ := createPromotionRule_ok payload db db' ruleId rule created
  have complete := storeRule_complete payload rule stored
  rw [← complete, skipped_iff, not_not, and_self_iff]
  refine ⟨Iff.rfl, noDeadRule_insert db rule (storeRule_valid payload rule stored).2, ?_⟩
  intro incomplete early late lines baseSubtotal
  exact apply_incomplete early late rule incomplete lines baseSubtotal

theorem createPromotionRule_alive_iff_fiveOff : ∃ rule,
    (Complete rule.ruleType rule.gives ∧ ¬ Skipped rule.ruleType rule.gives ↔
        Complete fiveOff.ruleType fiveOff.gives) ∧
      (NoDeadRule (after (createPromotionRule fiveOff) (sodaShop [])) ↔
        NoDeadRule (sodaShop []) ∧ Complete fiveOff.ruleType fiveOff.gives) ∧
      (¬ Complete fiveOff.ruleType fiveOff.gives → ∀ early late lines baseSubtotal,
        apply (early ++ rule :: late) lines baseSubtotal =
          apply (early ++ late) lines baseSubtotal) := by
  obtain ⟨⟨ruleId, rule⟩, created⟩ := returns_of_isOk (createPromotionRule fiveOff) (sodaShop [])
    (by decide +kernel)
  exact ⟨rule, createPromotionRule_alive_iff fiveOff (sodaShop []) _ ruleId rule created⟩

def hyphened : PromotionRuleCreateRequest := { fiveOff with ruleType := "spend-and-save" }

theorem hyphened_incomplete (gives : RuleField → Bool) : ¬ Complete hyphened.ruleType gives := by
  rintro ⟨kind, isKind, _⟩
  cases kind <;> exact absurd isKind (by decide)

theorem hyphened_rule_dead :
    (reply (createPromotionRule hyphened) (sodaShop [])).isOk = true ∧ NoDeadRule (sodaShop []) ∧
      ¬ NoDeadRule (after (createPromotionRule hyphened) (sodaShop [])) := by
  have accepted : (reply (createPromotionRule hyphened) (sodaShop [])).isOk = true := by
    decide +kernel
  obtain ⟨⟨ruleId, rule⟩, created⟩ := returns_of_isOk _ _ accepted
  obtain ⟨stored, added⟩ := createPromotionRule_ok hyphened _ _ ruleId rule created
  have incomplete : ¬ Complete rule.ruleType rule.gives := by
    rw [storeRule_complete hyphened rule stored]
    exact hyphened_incomplete hyphened.gives
  refine ⟨accepted, fun rule member => absurd member List.not_mem_nil, ?_⟩
  rw [added, noDeadRule_insert _ _ (storeRule_valid hyphened rule stored).2]
  exact fun alive => incomplete alive.2

end Pricing

end RetailApp
