import RetailApp.Session

namespace RetailApp

open Transaction

inductive PromotionType where
  | spendAndSave
  | buyAndGet
  | tieredPricing
  | purchaseLimit
  deriving DecidableEq, Repr

def PromotionType.value : PromotionType → String
  | .spendAndSave => "spend_and_save"
  | .buyAndGet => "buy_and_get"
  | .tieredPricing => "tiered_pricing"
  | .purchaseLimit => "purchase_limit"

/-- `line_promo_discounts` is a defaultdict of `Decimal("0")`: a function with default 0. -/
structure PromotionResult where
  orderDiscountAmount : ℚ
  linePromoDiscounts : Nat → ℚ

namespace PromotionEngine

def emptyResult : PromotionResult := ⟨0, fun _ => 0⟩

def addLineDiscount (result : PromotionResult) (lineId : Nat) (discount : ℚ) : PromotionResult :=
  { result with
    linePromoDiscounts := Function.update result.linePromoDiscounts lineId
      (result.linePromoDiscounts lineId + discount) }

def activeRules (db : Db) : List PromotionRule :=
  ((db.promotionRules.entries.filter (fun entry => entry.2.isActive)).insertionSort
    (fun first second => first.2.priority < second.2.priority ∨
      (first.2.priority = second.2.priority ∧ first.1 ≤ second.1))).map Prod.snd

def applySpendAndSave (result : PromotionResult) (rule : PromotionRule) (currentSubtotal : ℚ) :
    PromotionResult :=
  match rule.thresholdAmount, rule.discountAmount with
  | some threshold, some discount =>
      if threshold.value ≤ currentSubtotal then
        { result with orderDiscountAmount := result.orderDiscountAmount + discount.value }
      else result
  | _, _ => result

def applyBuyAndGet (result : PromotionResult) (rule : PromotionRule)
    (lines : List (Nat × OrderLine)) : Except Raised PromotionResult :=
  match rule.buyQuantity, rule.getQuantity, rule.appliesToProductId with
  | some buy, some free, some productId =>
      lines.foldlM (fun result line =>
        if line.2.productId ≠ productId then .ok result
        else do
          let group := buy + free
          raiseIf (group = 0) .zeroDivisionError
          let eligibleGroups := Int.fdiv line.2.quantity group
          let freeQty := eligibleGroups * free
          return addLineDiscount result line.1 (freeQty * line.2.unitPrice.value)) result
  | _, _, _ => .ok result

def applyTieredPricing (result : PromotionResult) (rule : PromotionRule)
    (lines : List (Nat × OrderLine)) : PromotionResult :=
  match rule.tierQuantity, rule.tierUnitPrice, rule.appliesToProductId with
  | some tierQuantity, some tierUnitPrice, some productId =>
      lines.foldl (fun result line =>
        if line.2.productId ≠ productId then result
        else if tierQuantity ≤ line.2.quantity then
          let normalTotal := line.2.unitPrice.value * (line.2.quantity : ℚ)
          let tierTotal := tierUnitPrice.value * (line.2.quantity : ℚ)
          if tierTotal < normalTotal then
            addLineDiscount result line.1 (normalTotal - tierTotal)
          else result
        else result) result
  | _, _, _ => result

def validatePurchaseLimit (rule : PromotionRule) (lines : List (Nat × OrderLine)) :
    Except Raised Unit :=
  match rule.purchaseLimitQuantity, rule.appliesToProductId with
  | some limit, some productId =>
      let quantity : Int :=
        ((lines.filter (fun line => line.2.productId == productId)).map
          (fun line => (line.2.quantity : Int))).sum
      raiseIf (limit < quantity)
        (.validation s!"Purchase limit exceeded for product {productId}: limit={limit}, requested={quantity}")
  | _, _ => .ok ()

def applyRule (lines : List (Nat × OrderLine)) (baseSubtotal : ℚ) (result : PromotionResult)
    (rule : PromotionRule) : Except Raised PromotionResult :=
  if rule.ruleType = PromotionType.spendAndSave.value then
    .ok (applySpendAndSave result rule baseSubtotal)
  else if rule.ruleType = PromotionType.buyAndGet.value then applyBuyAndGet result rule lines
  else if rule.ruleType = PromotionType.tieredPricing.value then
    .ok (applyTieredPricing result rule lines)
  else if rule.ruleType = PromotionType.purchaseLimit.value then do
    validatePurchaseLimit rule lines
    return result
  else .ok result

/-- `PromotionEngine.apply`, over the rules `_active_rules` returns. -/
def apply (rules : List PromotionRule) (lines : List (Nat × OrderLine)) (baseSubtotal : ℚ) :
    Except Raised PromotionResult := do
  let result ← rules.foldlM (applyRule lines baseSubtotal) emptyResult
  return { orderDiscountAmount := money result.orderDiscountAmount
           linePromoDiscounts := fun lineId => money (result.linePromoDiscounts lineId) }

end PromotionEngine

end RetailApp
