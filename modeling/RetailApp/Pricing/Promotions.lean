import RetailApp.Library.Accumulate
import RetailApp.Services.PromotionEngine

/-! What the promotion engine computes: every rule adds an order discount and a discount of
each line, and a purchase limit refuses the cart or adds nothing. -/

namespace RetailApp

structure PromotionRule.Valid (rule : PromotionRule) : Prop where
  thresholdNonneg : ∀ threshold ∈ rule.thresholdAmount, 0 ≤ threshold.value
  discountNonneg : ∀ discount ∈ rule.discountAmount, 0 ≤ discount.value
  buyPositive : ∀ buy ∈ rule.buyQuantity, 1 ≤ buy
  getPositive : ∀ free ∈ rule.getQuantity, 1 ≤ free
  tierPositive : ∀ tier ∈ rule.tierQuantity, 1 ≤ tier
  tierPriceNonneg : ∀ price ∈ rule.tierUnitPrice, 0 ≤ price.value
  limitPositive : ∀ limit ∈ rule.purchaseLimitQuantity, 1 ≤ limit
  priorityBounds : 1 ≤ rule.priority ∧ rule.priority ≤ 1000

theorem Amount.onGrid_scaled (amount : Amount) (units : Int) :
    FixedPoint.OnGrid 100 (amount.value * units) := by
  obtain ⟨cents, value⟩ := amount.cents
  refine ⟨cents * units, ?_⟩
  rw [value]
  push_cast
  ring

@[simp] theorem PromotionType.value_inj (first second : PromotionType) :
    first.value = second.value ↔ first = second := by
  cases first <;> cases second <;> decide

namespace Pricing

open Transaction PromotionEngine Accumulate FixedPoint

def spendDiscount (rule : PromotionRule) (baseSubtotal : ℚ) : ℚ :=
  match rule.thresholdAmount, rule.discountAmount with
  | some threshold, some discount => if threshold.value ≤ baseSubtotal then discount.value else 0
  | _, _ => 0

/-- What a buy-and-get rule takes off a line: whole groups only, each with its free items. -/
def groupDiscount (rule : PromotionRule) (productId quantity : Nat) (unitPrice : ℚ) : ℚ :=
  match rule.buyQuantity, rule.getQuantity with
  | some buy, some free =>
      if rule.appliesToProductId = some productId then
        (Int.fdiv quantity (buy + free) * free : Int) * unitPrice
      else 0
  | _, _ => 0

def tierDiscount (rule : PromotionRule) (productId quantity : Nat) (unitPrice : ℚ) : ℚ :=
  match rule.tierQuantity, rule.tierUnitPrice with
  | some tierQuantity, some tierUnitPrice =>
      if rule.appliesToProductId = some productId ∧ tierQuantity ≤ quantity ∧
          tierUnitPrice.value * quantity < unitPrice * quantity then
        unitPrice * quantity - tierUnitPrice.value * quantity
      else 0
  | _, _ => 0

def orderDiscountOf (rule : PromotionRule) (baseSubtotal : ℚ) : ℚ :=
  if rule.ruleType = PromotionType.spendAndSave.value then spendDiscount rule baseSubtotal else 0

def lineDiscountOf (rule : PromotionRule) (productId quantity : Nat) (unitPrice : ℚ) : ℚ :=
  if rule.ruleType = PromotionType.buyAndGet.value then
    groupDiscount rule productId quantity unitPrice
  else if rule.ruleType = PromotionType.tieredPricing.value then
    tierDiscount rule productId quantity unitPrice
  else 0

def totalQuantity (lines : List (Nat × OrderLine)) (productId : Nat) : Int :=
  ((lines.filter (fun line => line.2.productId == productId)).map
    (fun line => (line.2.quantity : Int))).sum

def LimitExceeded (rule : PromotionRule) (lines : List (Nat × OrderLine)) : Prop :=
  rule.ruleType = PromotionType.purchaseLimit.value ∧
    ∃ limit ∈ rule.purchaseLimitQuantity, ∃ productId ∈ rule.appliesToProductId,
      limit < totalQuantity lines productId

instance (rule : PromotionRule) (lines : List (Nat × OrderLine)) :
    Decidable (LimitExceeded rule lines) :=
  inferInstanceAs (Decidable (_ ∧ _))

def lineDiscounts (rule : PromotionRule) (lines : List (Nat × OrderLine)) : List (Nat × ℚ) :=
  lines.map (fun line =>
    (line.1, lineDiscountOf rule line.2.productId line.2.quantity line.2.unitPrice.value))

def takeIn (lines : List (Nat × OrderLine)) (baseSubtotal : ℚ) (result : PromotionResult)
    (rule : PromotionRule) : PromotionResult where
  orderDiscountAmount := result.orderDiscountAmount + orderDiscountOf rule baseSubtotal
  linePromoDiscounts := fun lineId =>
    result.linePromoDiscounts lineId + tally (lineDiscounts rule lines) lineId

def refusal (lines : List (Nat × OrderLine)) (rule : PromotionRule) : Raised :=
  let productId := rule.appliesToProductId.getD 0
  .validation s!"Purchase limit exceeded for product {productId}: limit={rule.purchaseLimitQuantity.getD 0}, requested={totalQuantity lines productId}"

theorem addLineDiscount_zero (result : PromotionResult) (lineId : Nat) :
    addLineDiscount result lineId 0 = result := by
  simp [addLineDiscount]

theorem foldl_addLineDiscount (amount : Nat × OrderLine → ℚ) (lines : List (Nat × OrderLine))
    (result : PromotionResult) :
    lines.foldl (fun result line => addLineDiscount result line.1 (amount line)) result =
      { result with
        linePromoDiscounts := fun lineId => result.linePromoDiscounts lineId +
          tally (lines.map (fun line => (line.1, amount line))) lineId } := by
  have inDictionary := foldl_update result.linePromoDiscounts
    (lines.map (fun line => (line.1, amount line)))
  rw [List.foldl_map] at inDictionary
  rw [← inDictionary]
  exact List.foldl_hom (PromotionResult.mk result.orderDiscountAmount) (fun _ _ => rfl)

theorem applySpendAndSave_eq (result : PromotionResult) (rule : PromotionRule)
    (baseSubtotal : ℚ) :
    applySpendAndSave result rule baseSubtotal =
      { result with
        orderDiscountAmount := result.orderDiscountAmount + spendDiscount rule baseSubtotal } := by
  unfold applySpendAndSave
  split
  · rename_i threshold discount hasThreshold hasDiscount
    simp only [spendDiscount, hasThreshold, hasDiscount]
    split
    · rfl
    · rw [add_zero]
  · rename_i incomplete
    have nothing : spendDiscount rule baseSubtotal = 0 := by
      unfold spendDiscount
      split
      · rename_i threshold discount hasThreshold hasDiscount
        exact (incomplete threshold discount hasThreshold hasDiscount).elim
      · rfl
    rw [nothing, add_zero]

/-- With both quantities at least 1 a group is never empty, so no division fails. -/
theorem applyBuyAndGet_eq (result : PromotionResult) (rule : PromotionRule)
    (lines : List (Nat × OrderLine)) (valid : rule.Valid) :
    applyBuyAndGet result rule lines =
      .ok (lines.foldl (fun result line => addLineDiscount result line.1
        (groupDiscount rule line.2.productId line.2.quantity line.2.unitPrice.value)) result) := by
  unfold applyBuyAndGet
  split
  · rename_i buy free productId hasBuy hasFree hasProduct
    have group : buy + free ≠ 0 := by
      have buyPositive := valid.buyPositive buy (Option.mem_def.mpr hasBuy)
      have freePositive := valid.getPositive free (Option.mem_def.mpr hasFree)
      omega
    change _ = (pure _ : Except Raised PromotionResult)
    rw [← List.foldlM_pure]
    congr 1
    funext result line
    simp only [groupDiscount, hasBuy, hasFree, hasProduct, Option.some.injEq]
    by_cases here : line.2.productId = productId
    · simp [here, group, raiseIf, bind, Except.bind, pure, Except.pure]
    · simp [here, Ne.symm here, addLineDiscount_zero, pure, Except.pure]
  · rename_i incomplete
    have nothing (line : Nat × OrderLine) :
        groupDiscount rule line.2.productId line.2.quantity line.2.unitPrice.value = 0 := by
      unfold groupDiscount
      split
      · rename_i buy free hasBuy hasFree
        apply if_neg
        intro hasProduct
        exact incomplete buy free _ hasBuy hasFree hasProduct
      · rfl
    simp [nothing, addLineDiscount_zero]

theorem applyTieredPricing_eq (result : PromotionResult) (rule : PromotionRule)
    (lines : List (Nat × OrderLine)) :
    applyTieredPricing result rule lines =
      lines.foldl (fun result line => addLineDiscount result line.1
        (tierDiscount rule line.2.productId line.2.quantity line.2.unitPrice.value)) result := by
  unfold applyTieredPricing
  split
  · rename_i tier price productId hasTier hasPrice hasProduct
    congr 1
    funext result line
    simp only [tierDiscount, hasTier, hasPrice, hasProduct, Option.some.injEq]
    by_cases here : line.2.productId = productId
    · by_cases enough : tier ≤ line.2.quantity
      · simp only [here, enough, ne_eq, not_true_eq_false, if_false, if_true, true_and]
        split
        · rfl
        · exact (addLineDiscount_zero result line.1).symm
      · simp [here, enough, addLineDiscount_zero]
    · simp [here, Ne.symm here, addLineDiscount_zero]
  · rename_i incomplete
    have nothing (line : Nat × OrderLine) :
        tierDiscount rule line.2.productId line.2.quantity line.2.unitPrice.value = 0 := by
      unfold tierDiscount
      split
      · rename_i tier price hasTier hasPrice
        apply if_neg
        intro applies
        exact incomplete tier price _ hasTier hasPrice applies.1
      · rfl
    simp [nothing, addLineDiscount_zero]

theorem validatePurchaseLimit_eq (rule : PromotionRule) (lines : List (Nat × OrderLine))
    (ofKind : rule.ruleType = PromotionType.purchaseLimit.value) :
    validatePurchaseLimit rule lines =
      if LimitExceeded rule lines then .error (refusal lines rule) else .ok () := by
  unfold validatePurchaseLimit
  split
  · rename_i limit productId hasLimit hasProduct
    have exceeded : LimitExceeded rule lines ↔ limit < totalQuantity lines productId := by
      simp [LimitExceeded, ofKind, hasLimit, hasProduct]
    simp only [exceeded, raiseIf, refusal, hasLimit, hasProduct, Option.getD_some]
    rfl
  · rename_i incomplete
    have within : ¬ LimitExceeded rule lines := by
      rintro ⟨_, limit, hasLimit, productId, hasProduct, _⟩
      exact incomplete limit productId hasLimit hasProduct
    rw [if_neg within]

theorem applyRule_eq (lines : List (Nat × OrderLine)) (baseSubtotal : ℚ) (rule : PromotionRule)
    (valid : rule.Valid) (result : PromotionResult) :
    applyRule lines baseSubtotal result rule =
      if decide (LimitExceeded rule lines) then .error (refusal lines rule)
      else .ok (takeIn lines baseSubtotal result rule) := by
  have noLines (amount : Nat × OrderLine → ℚ)
      (zero : ∀ line, amount line = 0) (lineId : Nat) :
      tally (lines.map (fun line => (line.1, amount line))) lineId = 0 := by
    simp only [zero]
    exact tally_zero lines Prod.fst lineId
  have within (kind : PromotionType) (other : kind ≠ .purchaseLimit)
      (ofKind : rule.ruleType = kind.value) : ¬ LimitExceeded rule lines := by
    rintro ⟨isLimit, _⟩
    exact other ((PromotionType.value_inj _ _).mp (ofKind.symm.trans isLimit))
  by_cases spend : rule.ruleType = PromotionType.spendAndSave.value
  · have plain (productId quantity : Nat) (unitPrice : ℚ) :
        lineDiscountOf rule productId quantity unitPrice = 0 := by
      simp [lineDiscountOf, spend]
    rw [applyRule, if_pos spend, applySpendAndSave_eq,
      if_neg (by simpa using within _ (by decide) spend)]
    simp only [takeIn, lineDiscounts, orderDiscountOf, if_pos spend]
    simp [noLines _ (fun line => plain _ _ _)]
  by_cases buy : rule.ruleType = PromotionType.buyAndGet.value
  · rw [applyRule, if_neg spend, if_pos buy, applyBuyAndGet_eq result rule lines valid,
      foldl_addLineDiscount, if_neg (by simpa using within _ (by decide) buy)]
    simp [takeIn, lineDiscounts, lineDiscountOf, orderDiscountOf, buy]
  by_cases tiered : rule.ruleType = PromotionType.tieredPricing.value
  · rw [applyRule, if_neg spend, if_neg buy, if_pos tiered, applyTieredPricing_eq,
      foldl_addLineDiscount, if_neg (by simpa using within _ (by decide) tiered)]
    simp [takeIn, lineDiscounts, lineDiscountOf, orderDiscountOf, tiered]
  have unchanged : takeIn lines baseSubtotal result rule = result := by
    have plain (productId quantity : Nat) (unitPrice : ℚ) :
        lineDiscountOf rule productId quantity unitPrice = 0 := by
      simp [lineDiscountOf, buy, tiered]
    simp [takeIn, lineDiscounts, orderDiscountOf, spend, noLines _ (fun line => plain _ _ _)]
  rw [unchanged, applyRule, if_neg spend, if_neg buy, if_neg tiered]
  by_cases limit : rule.ruleType = PromotionType.purchaseLimit.value
  · rw [if_pos limit, validatePurchaseLimit_eq rule lines limit]
    by_cases exceeded : LimitExceeded rule lines
    · simp [exceeded, bind, Except.bind]
    · simp [exceeded, bind, Except.bind, pure, Except.pure]
  · rw [if_neg limit, if_neg]
    simp [LimitExceeded, limit]

def orderPromotion (rules : List PromotionRule) (baseSubtotal : ℚ) : ℚ :=
  (rules.map (fun rule => orderDiscountOf rule baseSubtotal)).sum

def promotionAt (rules : List PromotionRule) (lines : List (Nat × OrderLine)) (lineId : Nat) : ℚ :=
  (rules.map (fun rule => tally (lineDiscounts rule lines) lineId)).sum

theorem foldl_takeIn (lines : List (Nat × OrderLine)) (baseSubtotal : ℚ)
    (rules : List PromotionRule) (result : PromotionResult) :
    rules.foldl (takeIn lines baseSubtotal) result =
      { orderDiscountAmount := result.orderDiscountAmount + orderPromotion rules baseSubtotal
        linePromoDiscounts := fun lineId =>
          result.linePromoDiscounts lineId + promotionAt rules lines lineId } := by
  induction rules generalizing result with
  | nil => simp [orderPromotion, promotionAt]
  | cons rule rules ih =>
      rw [List.foldl_cons, ih]
      simp only [takeIn, orderPromotion, promotionAt, List.map_cons, List.sum_cons, add_assoc]

theorem apply_eq (rules : List PromotionRule) (lines : List (Nat × OrderLine)) (baseSubtotal : ℚ)
    (valid : ∀ rule ∈ rules, rule.Valid) :
    apply rules lines baseSubtotal =
      match rules.find? (fun rule => decide (LimitExceeded rule lines)) with
      | some rule => .error (refusal lines rule)
      | none => .ok
          { orderDiscountAmount := money (orderPromotion rules baseSubtotal)
            linePromoDiscounts := fun lineId => money (promotionAt rules lines lineId) } := by
  rw [PromotionEngine.apply, foldlM_guarded (applyRule lines baseSubtotal)
    (takeIn lines baseSubtotal) (fun rule => decide (LimitExceeded rule lines)) (refusal lines)
    rules (fun rule member result => applyRule_eq lines baseSubtotal rule (valid rule member) result),
    foldl_takeIn]
  cases rules.find? (fun rule => decide (LimitExceeded rule lines)) with
  | some rule => rfl
  | none => simp [emptyResult, bind, Except.bind, pure, Except.pure]

theorem apply_ok (rules : List PromotionRule) (lines : List (Nat × OrderLine)) (baseSubtotal : ℚ)
    (valid : ∀ rule ∈ rules, rule.Valid) (result : PromotionResult) :
    apply rules lines baseSubtotal = .ok result ↔
      (∀ rule ∈ rules, ¬ LimitExceeded rule lines) ∧
        result = { orderDiscountAmount := money (orderPromotion rules baseSubtotal)
                   linePromoDiscounts := fun lineId => money (promotionAt rules lines lineId) } := by
  have noneExceeded : rules.find? (fun rule => decide (LimitExceeded rule lines)) = none ↔
      ∀ rule ∈ rules, ¬ LimitExceeded rule lines := by simp
  rw [apply_eq rules lines baseSubtotal valid, ← noneExceeded]
  cases rules.find? (fun rule => decide (LimitExceeded rule lines)) with
  | some rule => simp
  | none => simp [eq_comm]

def linePromotion (rules : List PromotionRule) (line : OrderLine) : ℚ :=
  (rules.map (fun rule =>
    lineDiscountOf rule line.productId line.quantity line.unitPrice.value)).sum

theorem promotionAt_line (rules : List PromotionRule) (lines : List (Nat × OrderLine))
    (distinct : (lines.map Prod.fst).Nodup) (line : Nat × OrderLine) (member : line ∈ lines) :
    promotionAt rules lines line.1 = linePromotion rules line.2 := by
  have each (rule : PromotionRule) : tally (lineDiscounts rule lines) line.1 =
      lineDiscountOf rule line.2.productId line.2.quantity line.2.unitPrice.value := by
    have keys : (lineDiscounts rule lines).map Prod.fst = lines.map Prod.fst := by
      simp [lineDiscounts]
    exact tally_of_distinct (lineDiscounts rule lines) (keys ▸ distinct) (line.1, _)
      (List.mem_map_of_mem member)
  simp only [promotionAt, linePromotion, each]

theorem lineDiscountOf_onGrid (rule : PromotionRule) (productId quantity : Nat)
    (unitPrice : Amount) :
    OnGrid 100 (lineDiscountOf rule productId quantity unitPrice.value) := by
  have whole (amount : Amount) : OnGrid 100 (amount.value * quantity) := by
    have grid := amount.onGrid_scaled quantity
    rwa [Int.cast_natCast] at grid
  unfold lineDiscountOf groupDiscount tierDiscount
  split
  · split
    · split
      · rw [mul_comm]
        exact unitPrice.onGrid_scaled _
      · exact onGrid_zero 100
    · exact onGrid_zero 100
  · split
    · split
      · split
        · exact (whole unitPrice).sub (whole _)
        · exact onGrid_zero 100
      · exact onGrid_zero 100
    · exact onGrid_zero 100

theorem linePromotion_onGrid (rules : List PromotionRule) (line : OrderLine) :
    OnGrid 100 (linePromotion rules line) := by
  apply OnGrid.sum
  intro discount member
  obtain ⟨rule, _, rfl⟩ := List.mem_map.mp member
  exact lineDiscountOf_onGrid rule line.productId line.quantity line.unitPrice

theorem orderPromotion_onGrid (rules : List PromotionRule) (baseSubtotal : ℚ) :
    OnGrid 100 (orderPromotion rules baseSubtotal) := by
  apply OnGrid.sum
  intro discount member
  obtain ⟨rule, _, rfl⟩ := List.mem_map.mp member
  unfold orderDiscountOf spendDiscount
  split
  · split
    · rename_i amount _ _
      split
      · exact amount.cents
      · exact onGrid_zero 100
    · exact onGrid_zero 100
  · exact onGrid_zero 100

theorem lineDiscountOf_nonneg (rule : PromotionRule) (valid : rule.Valid)
    (productId quantity : Nat) (unitPrice : ℚ) (nonneg : 0 ≤ unitPrice) :
    0 ≤ lineDiscountOf rule productId quantity unitPrice := by
  unfold lineDiscountOf groupDiscount tierDiscount
  split
  · split
    · rename_i buy free hasBuy hasFree
      split
      · have buyPositive := valid.buyPositive buy (Option.mem_def.mpr hasBuy)
        have freePositive := valid.getPositive free (Option.mem_def.mpr hasFree)
        have groups : 0 ≤ Int.fdiv quantity (buy + free) :=
          Int.fdiv_nonneg (Int.natCast_nonneg quantity) (by omega)
        have items : 0 ≤ Int.fdiv quantity (buy + free) * free := mul_nonneg groups (by omega)
        exact mul_nonneg (Int.cast_nonneg items) nonneg
      · exact le_rfl
    · exact le_rfl
  · split
    · split
      · split
        · rename_i applies
          linarith [applies.2.2]
        · exact le_rfl
      · exact le_rfl
    · exact le_rfl

theorem orderDiscountOf_nonneg (rule : PromotionRule) (valid : rule.Valid) (baseSubtotal : ℚ) :
    0 ≤ orderDiscountOf rule baseSubtotal := by
  unfold orderDiscountOf spendDiscount
  split
  · split
    · rename_i discount _ hasDiscount
      split
      · exact valid.discountNonneg discount (Option.mem_def.mpr hasDiscount)
      · exact le_rfl
    · exact le_rfl
  · exact le_rfl

theorem linePromotion_nonneg (rules : List PromotionRule) (valid : ∀ rule ∈ rules, rule.Valid)
    (line : OrderLine) (nonneg : 0 ≤ line.unitPrice.value) : 0 ≤ linePromotion rules line := by
  apply List.sum_nonneg
  intro discount member
  obtain ⟨rule, inside, rfl⟩ := List.mem_map.mp member
  exact lineDiscountOf_nonneg rule (valid rule inside) _ _ _ nonneg

theorem orderPromotion_nonneg (rules : List PromotionRule) (valid : ∀ rule ∈ rules, rule.Valid)
    (baseSubtotal : ℚ) : 0 ≤ orderPromotion rules baseSubtotal := by
  apply List.sum_nonneg
  intro discount member
  obtain ⟨rule, inside, rfl⟩ := List.mem_map.mp member
  exact orderDiscountOf_nonneg rule (valid rule inside) baseSubtotal

theorem totalQuantity_perm (lines lines' : List (Nat × OrderLine)) (perm : lines'.Perm lines)
    (productId : Nat) : totalQuantity lines' productId = totalQuantity lines productId :=
  ((perm.filter _).map _).sum_eq

theorem limitExceeded_perm (rule : PromotionRule) (lines lines' : List (Nat × OrderLine))
    (perm : lines'.Perm lines) : LimitExceeded rule lines' ↔ LimitExceeded rule lines := by
  unfold LimitExceeded
  simp only [totalQuantity_perm lines lines' perm]

theorem orderPromotion_perm (rules rules' : List PromotionRule) (perm : rules'.Perm rules)
    (baseSubtotal : ℚ) : orderPromotion rules' baseSubtotal = orderPromotion rules baseSubtotal :=
  (perm.map _).sum_eq

theorem promotionAt_perm (rules rules' : List PromotionRule) (lines lines' : List (Nat × OrderLine))
    (rulesPerm : rules'.Perm rules) (linesPerm : lines'.Perm lines) (lineId : Nat) :
    promotionAt rules' lines' lineId = promotionAt rules lines lineId := by
  have each (rule : PromotionRule) :
      tally (lineDiscounts rule lines') lineId = tally (lineDiscounts rule lines) lineId :=
    congrFun (tally_perm _ _ (linesPerm.map _)) lineId
  unfold promotionAt
  simp only [each]
  exact (rulesPerm.map _).sum_eq

def Refused (outcome : Except Raised PromotionResult) : Prop :=
  ∃ message, outcome = .error (.validation message)

/-- Both raise a ValidationException, or both give the same discounts. -/
def SameOutcome (first second : Except Raised PromotionResult) : Prop :=
  (Refused first ∧ Refused second) ∨
    ∃ result result', first = .ok result ∧ second = .ok result' ∧
      result.orderDiscountAmount = result'.orderDiscountAmount ∧
      ∀ lineId, result.linePromoDiscounts lineId = result'.linePromoDiscounts lineId

theorem refused_iff (rules : List PromotionRule) (lines : List (Nat × OrderLine))
    (baseSubtotal : ℚ) (valid : ∀ rule ∈ rules, rule.Valid) :
    Refused (apply rules lines baseSubtotal) ↔ ∃ rule ∈ rules, LimitExceeded rule lines := by
  rw [Refused, apply_eq rules lines baseSubtotal valid]
  cases found : rules.find? (fun rule => decide (LimitExceeded rule lines)) with
  | some rule =>
      have exceeded : ∃ rule ∈ rules, LimitExceeded rule lines :=
        ⟨rule, List.mem_of_find?_eq_some found, by simpa using List.find?_some found⟩
      exact iff_of_true ⟨_, rfl⟩ exceeded
  | none =>
      rw [List.find?_eq_none] at found
      constructor
      · rintro ⟨message, impossible⟩
        cases impossible
      · rintro ⟨rule, member, exceeded⟩
        exact (found rule member (decide_eq_true exceeded)).elim

theorem apply_any_order (rules rules' : List PromotionRule) (lines lines' : List (Nat × OrderLine))
    (baseSubtotal : ℚ) (valid : ∀ rule ∈ rules, rule.Valid) (rulesPerm : rules'.Perm rules)
    (linesPerm : lines'.Perm lines) :
    SameOutcome (apply rules lines baseSubtotal) (apply rules' lines' baseSubtotal) ∧
      (Refused (apply rules lines baseSubtotal) ↔ ∃ rule ∈ rules, LimitExceeded rule lines) := by
  have valid' : ∀ rule ∈ rules', rule.Valid :=
    fun rule member => valid rule (rulesPerm.mem_iff.mp member)
  refine ⟨?_, refused_iff rules lines baseSubtotal valid⟩
  by_cases exceeded : ∃ rule ∈ rules, LimitExceeded rule lines
  · have exceeded' : ∃ rule ∈ rules', LimitExceeded rule lines' := by
      obtain ⟨rule, member, tooMany⟩ := exceeded
      exact ⟨rule, rulesPerm.mem_iff.mpr member,
        (limitExceeded_perm rule lines lines' linesPerm).mpr tooMany⟩
    exact .inl ⟨(refused_iff rules lines baseSubtotal valid).mpr exceeded,
      (refused_iff rules' lines' baseSubtotal valid').mpr exceeded'⟩
  · have within : ∀ rule ∈ rules, ¬ LimitExceeded rule lines :=
      fun rule member tooMany => exceeded ⟨rule, member, tooMany⟩
    have within' : ∀ rule ∈ rules', ¬ LimitExceeded rule lines' := by
      intro rule member tooMany
      exact within rule (rulesPerm.mem_iff.mp member)
        ((limitExceeded_perm rule lines lines' linesPerm).mp tooMany)
    refine .inr ⟨_, _, (apply_ok rules lines baseSubtotal valid _).mpr ⟨within, rfl⟩,
      (apply_ok rules' lines' baseSubtotal valid' _).mpr ⟨within', rfl⟩, ?_, ?_⟩
    · simp only [orderPromotion_perm rules rules' rulesPerm]
    · intro lineId
      simp only [promotionAt_perm rules rules' lines lines' rulesPerm linesPerm]

/-! A shop that sells soda at 10.00 and gives one of three away. -/

theorem sodaPrice_onGrid : OnGrid 100 10 := ⟨1000, by norm_num⟩

theorem sodaPrice_fits : |(10 : ℚ)| < 10 ^ 10 := by norm_num

def sodaPrice : Amount := ⟨10, sodaPrice_onGrid, sodaPrice_fits⟩

def buyTwoGetOne : PromotionRule where
  name := "Buy2Get1 Soda"
  ruleType := "buy_and_get"
  thresholdAmount := none
  discountAmount := none
  buyQuantity := some 2
  getQuantity := some 1
  tierQuantity := none
  tierUnitPrice := none
  purchaseLimitQuantity := none
  appliesToProductId := some 1
  isActive := true
  priority := 100
  details := none

theorem buyTwoGetOne_valid : buyTwoGetOne.Valid := by
  constructor <;> simp [buyTwoGetOne]

def fiveSodas : PromotionRule :=
  { buyTwoGetOne with
    name := "Five sodas"
    ruleType := "purchase_limit"
    buyQuantity := none
    getQuantity := none
    purchaseLimitQuantity := some 5 }

theorem fiveSodas_valid : fiveSodas.Valid := by
  constructor <;> simp [fiveSodas, buyTwoGetOne]

def sodaLine (quantity : Nat) : OrderLine :=
  ⟨1, 1, "Soda", "6909999999999", quantity, sodaPrice, sodaPrice, Amount.zero, Amount.zero,
    sodaPrice⟩

theorem apply_any_order_sodas :
    SameOutcome (apply [buyTwoGetOne, fiveSodas] [(1, sodaLine 3), (2, sodaLine 1)] 40)
        (apply [fiveSodas, buyTwoGetOne] [(2, sodaLine 1), (1, sodaLine 3)] 40) ∧
      (Refused (apply [buyTwoGetOne, fiveSodas] [(1, sodaLine 3), (2, sodaLine 1)] 40) ↔
        ∃ rule ∈ [buyTwoGetOne, fiveSodas],
          LimitExceeded rule [(1, sodaLine 3), (2, sodaLine 1)]) :=
  apply_any_order [buyTwoGetOne, fiveSodas] [fiveSodas, buyTwoGetOne]
    [(1, sodaLine 3), (2, sodaLine 1)] [(2, sodaLine 1), (1, sodaLine 3)] 40
    (by simp [buyTwoGetOne_valid, fiveSodas_valid]) (List.Perm.swap _ _ _) (List.Perm.swap _ _ _)

end Pricing

end RetailApp
