import RetailApp.Pricing.Totals

/-! A promotion rule added to the active ones: when the same request is still accepted, and
what it then costs. -/

namespace RetailApp.Pricing

open Transaction PromotionEngine Accumulate FixedPoint

def discountOf (rule : PromotionRule) (rows : List OrderLine) : ℚ :=
  (rows.map (fun line =>
    lineDiscountOf rule line.productId line.quantity line.unitPrice.value)).sum +
    orderDiscountOf rule (subtotalOf rows - itemDiscountOf rows)

theorem integer_ok (column : String) (given stored : Int)
    (returned : integer column given = .ok stored) : stored = given := by
  unfold integer at returned
  split at returned
  · cases returned
    rfl
  · cases returned

theorem amount_nonneg (column : String) (given : Option ℚ) (stored : Option Amount)
    (returned : given.mapM (Amount.store column) = .ok stored)
    (nonneg : ∀ value ∈ given, 0 ≤ value) : ∀ amount ∈ stored, 0 ≤ amount.value := by
  intro amount member
  obtain ⟨value, inside, gave⟩ := mapM_option_origin _ given stored returned amount member
  rw [((Amount.store_ok column value amount).mp gave).1]
  exact money_nonneg value (nonneg value inside)

theorem integer_positive (column : String) (given stored : Option Int)
    (returned : given.mapM (integer column) = .ok stored) (positive : ∀ value ∈ given, 1 ≤ value) :
    ∀ value ∈ stored, 1 ≤ value := by
  intro value member
  obtain ⟨input, inside, gave⟩ := mapM_option_origin _ given stored returned value member
  rw [integer_ok column input value gave]
  exact positive input inside

theorem storeRule_valid (payload : PromotionRuleCreateRequest) (rule : PromotionRule)
    (stored : storeRule payload = .ok rule) : rule.Valid ∧ rule.isActive = true := by
  simp only [storeRule, bind_except_ok, pure_except_ok] at stored
  obtain ⟨_, _, _, _, _, threshold, _, discount, _, buy, _, free, _, tier, _, price, _, limit, rfl⟩ :=
    stored
  refine ⟨⟨?_, ?_, ?_, ?_, ?_, ?_, ?_, payload.priorityBounds⟩, rfl⟩
  · exact amount_nonneg _ _ _ threshold payload.thresholdNonneg
  · exact amount_nonneg _ _ _ discount payload.discountNonneg
  · exact integer_positive _ _ _ buy payload.buyPositive
  · exact integer_positive _ _ _ free payload.getPositive
  · exact integer_positive _ _ _ tier payload.tierPositive
  · exact amount_nonneg _ _ _ price payload.tierPriceNonneg
  · exact integer_positive _ _ _ limit payload.limitPositive

theorem storeRule_type (payload : PromotionRuleCreateRequest) (rule : PromotionRule)
    (kind : PromotionType) (ofKind : payload.ruleType = kind.value)
    (stored : storeRule payload = .ok rule) : rule.ruleType = kind.value := by
  simp only [storeRule, bind_except_ok, pure_except_ok] at stored
  obtain ⟨_, _, _, ruleType, _, _, _, _, _, _, _, _, _, _, _, _, _, _, rfl⟩ := stored
  have short : kind.value.length ≤ 32 := by cases kind <;> decide
  rw [ofKind, varchar, if_pos short] at ruleType
  exact (Except.ok.inj ruleType).symm

theorem createPromotionRule_ok (payload : PromotionRuleCreateRequest) (db db' : Db) (ruleId : Nat)
    (rule : PromotionRule) (created : createPromotionRule payload db = .ok (ruleId, rule) db') :
    storeRule payload = .ok rule ∧
      db' = { db with promotionRules := db.promotionRules.insert rule } := by
  simp only [createPromotionRule, transactional_ok, bind_ok, attempt_ok, pure_ok] at created
  obtain ⟨stored, _, ⟨isStored, rfl⟩, inserted, _, insertion, same, rfl⟩ := created
  obtain ⟨rfl, rfl⟩ := Prod.mk.inj same
  exact ⟨isStored, (insertPromotionRule_ok stored db _ inserted insertion).2⟩

theorem activeRules_insert (db : Db) (rule : PromotionRule) (active : rule.isActive = true) :
    (activeRules { db with promotionRules := db.promotionRules.insert rule }).Perm
      (rule :: activeRules db) := by
  let inForce := db.promotionRules.entries.filter (fun entry => entry.2.isActive)
  have selected : (db.promotionRules.insert rule).entries.filter (fun entry => entry.2.isActive) =
      inForce ++ [(db.promotionRules.nextKey, rule)] := by
    rw [Table.entries_insert, List.filter_append, List.filter_singleton]
    simp [active, inForce]
  have before : (activeRules db).Perm (inForce.map Prod.snd) :=
    (List.perm_insertionSort _ inForce).map Prod.snd
  calc
    (activeRules { db with promotionRules := db.promotionRules.insert rule }).Perm
        ((inForce ++ [(db.promotionRules.nextKey, rule)]).map Prod.snd) := by
      rw [← selected]
      exact (List.perm_insertionSort _ _).map Prod.snd
    _ = inForce.map Prod.snd ++ [rule] := by rw [List.map_append]; rfl
    List.Perm _ (rule :: inForce.map Prod.snd) := List.perm_append_singleton _ _
    List.Perm _ (rule :: activeRules db) := (before.symm).cons rule

section

variable (rule : PromotionRule) (rules rules' : List PromotionRule)

theorem linePromotion_more (line : OrderLine) (perm : rules'.Perm (rule :: rules)) :
    linePromotion rules' line =
      lineDiscountOf rule line.productId line.quantity line.unitPrice.value +
        linePromotion rules line := by
  rw [linePromotion, (perm.map _).sum_eq, List.map_cons, List.sum_cons, linePromotion]

theorem lineFinal_more (line : OrderLine) (perm : rules'.Perm (rule :: rules)) :
    lineFinal rules' line = lineFinal rules line -
      lineDiscountOf rule line.productId line.quantity line.unitPrice.value := by
  rw [lineFinal, lineFinal, linePromotion_more rule rules rules' line perm]
  ring

theorem promotionOf_more (lines : List OrderLine) (perm : rules'.Perm (rule :: rules)) :
    promotionOf rules' lines = (lines.map (fun line =>
      lineDiscountOf rule line.productId line.quantity line.unitPrice.value)).sum +
        promotionOf rules lines := by
  have each : linePromotion rules' = fun line =>
      lineDiscountOf rule line.productId line.quantity line.unitPrice.value +
        linePromotion rules line := by
    funext line
    exact linePromotion_more rule rules rules' line perm
  rw [promotionOf, each, List.sum_map_add, promotionOf]

theorem orderFinal_more (manualDiscount : ℚ) (lines : List OrderLine)
    (perm : rules'.Perm (rule :: rules)) :
    orderFinal rules' manualDiscount lines =
      orderFinal rules manualDiscount lines - discountOf rule lines := by
  have engine : orderPromotion rules' (subtotalOf lines - itemDiscountOf lines) =
      orderDiscountOf rule (subtotalOf lines - itemDiscountOf lines) +
        orderPromotion rules (subtotalOf lines - itemDiscountOf lines) := by
    rw [orderPromotion, (perm.map _).sum_eq, List.map_cons, List.sum_cons, orderPromotion]
  rw [orderFinal, orderFinal, orderDiscount, orderDiscount, engine,
    promotionOf_more rule rules rules' lines perm, discountOf]
  ring

end

theorem accepted_more_iff (env : Env) (payload : OrderCreateRequest) (db db' : Db)
    (rule : PromotionRule) (lines lines' : List OrderLine)
    (unlimited : ∀ lines, ¬ LimitExceeded rule lines)
    (added : db' = { db with promotionRules := db.promotionRules.insert rule })
    (active : rule.isActive = true) (accepted : Accepted db env payload lines) :
    Accepted db' env payload lines' ↔ lines' = lines ∧
      (∀ line ∈ lines, lineDiscountOf rule line.productId line.quantity line.unitPrice.value ≤
        lineFinal (activeRules db) line) ∧
      discountOf rule lines ≤ orderFinal (activeRules db) (statedDiscount payload) lines := by
  subst added
  have perm := activeRules_insert db rule active
  have products := catalogue_congr db
    { db with promotionRules := db.promotionRules.insert rule } rfl env
  constructor
  · intro accepted'
    have priced := accepted'.priced
    rw [products] at priced
    obtain rfl := priced_unique db env _ payload.lines lines' lines priced accepted.priced
    refine ⟨rfl, ?_, ?_⟩
    · intro line member
      have covered := accepted'.linesCovered line member
      rw [lineFinal_more rule _ _ line perm] at covered
      linarith
    · have covered := accepted'.orderCovered
      rw [orderFinal_more rule _ _ _ _ perm] at covered
      linarith
  · rintro ⟨rfl, linesCovered, orderCovered⟩
    refine ⟨accepted.stated, accepted.orderNo, ?_, ?_, ?_, ?_, accepted.fits⟩
    · rw [products]
      exact accepted.priced
    · intro other member
      rcases List.mem_cons.mp (perm.mem_iff.mp member) with rfl | before
      · exact unlimited _
      · exact accepted.limits other before
    · intro line member
      have covered := linesCovered line member
      rw [lineFinal_more rule _ _ line perm]
      linarith
    · rw [orderFinal_more rule _ _ _ _ perm]
      linarith

theorem discountOf_discounted (rule : PromotionRule) (rules : List PromotionRule)
    (lines rows : List OrderLine) (discounted : List.Forall₂ (Discounted rules) lines rows) :
    discountOf rule rows = discountOf rule lines := by
  obtain ⟨subtotal, item, _, _⟩ := sums_of_discounted rules lines rows discounted
  have column := related_map (Discounted rules)
    (fun line => lineDiscountOf rule line.productId line.quantity line.unitPrice.value)
    (fun line => lineDiscountOf rule line.productId line.quantity line.unitPrice.value) ?_ lines
    rows discounted
  · rw [discountOf, discountOf, column, subtotal, item]
  · intro line row one
    obtain ⟨product, quantity, unitPrice, _, _⟩ := Discounted.fields rules line row one
    rw [product, quantity, unitPrice]

theorem discountOf_nonneg (rule : PromotionRule) (valid : rule.Valid) (lines : List OrderLine)
    (unitPrices : ∀ line ∈ lines, 0 ≤ line.unitPrice.value) : 0 ≤ discountOf rule lines := by
  apply add_nonneg
  · apply List.sum_nonneg
    intro discount member
    obtain ⟨line, inside, rfl⟩ := List.mem_map.mp member
    exact lineDiscountOf_nonneg rule valid _ _ _ (unitPrices line inside)
  · exact orderDiscountOf_nonneg rule valid _

theorem rows_covered_iff (rule : PromotionRule) (rules : List PromotionRule)
    (lines rows : List OrderLine) (discounted : List.Forall₂ (Discounted rules) lines rows) :
    (∀ row ∈ rows, lineDiscountOf rule row.productId row.quantity row.unitPrice.value ≤
        row.finalLineAmount.value) ↔
      ∀ line ∈ lines, lineDiscountOf rule line.productId line.quantity line.unitPrice.value ≤
        lineFinal rules line := by
  induction discounted with
  | nil => simp
  | cons one _ ih =>
      obtain ⟨product, quantity, unitPrice, _, _⟩ := Discounted.fields rules _ _ one
      rw [List.forall_mem_cons, List.forall_mem_cons, ih, product, quantity, unitPrice, one.amount]

theorem insertAll_injective (table : Table OrderLine) (rows rows' : List OrderLine)
    (same : table.insertAll rows = table.insertAll rows') : rows = rows' :=
  List.append_cancel_left (congrArg Table.rows same)

theorem createOrder_oneMoreRule (env : Env) (actor : User) (payload : OrderCreateRequest)
    (db db₁ db₂ : Db) (response : OrderResponse) (rows : List OrderLine)
    (rulePayload : PromotionRuleCreateRequest) (ruleId : Nat) (rule : PromotionRule)
    (kind : PromotionType) (valid : ∀ rule ∈ activeRules db, rule.Valid)
    (created : createOrder env actor payload db = .ok response db₁)
    (stored : db₁.orderLines = db.orderLines.insertAll rows) (discounts : kind ≠ .purchaseLimit)
    (ofKind : rulePayload.ruleType = kind.value)
    (added : createPromotionRule rulePayload db = .ok (ruleId, rule) db₂) :
    ((∃ response' db', createOrder env actor payload db₂ = .ok response' db') ↔
      (∀ row ∈ rows, lineDiscountOf rule row.productId row.quantity row.unitPrice.value ≤
        row.finalLineAmount.value) ∧
      discountOf rule rows ≤ response.finalAmount) ∧
    ∀ response' db', createOrder env actor payload db₂ = .ok response' db' →
      response'.finalAmount = response.finalAmount - discountOf rule rows ∧
        response'.finalAmount ≤ response.finalAmount := by
  obtain ⟨lines, finals, order, sold⟩ :=
    createOrder_sold env actor payload db db₁ response valid created
  obtain rfl := insertAll_injective db.orderLines finals rows (sold.orderLines.symm.trans stored)
  obtain ⟨isStored, isAdded⟩ := createPromotionRule_ok rulePayload db db₂ ruleId rule added
  obtain ⟨validRule, active⟩ := storeRule_valid rulePayload rule isStored
  have ruleType := storeRule_type rulePayload rule kind ofKind isStored
  have unlimited (lines : List (Nat × OrderLine)) : ¬ LimitExceeded rule lines := by
    rintro ⟨isLimit, _⟩
    exact discounts ((PromotionType.value_inj _ _).mp (ruleType.symm.trans isLimit))
  have perm := activeRules_insert db rule active
  have valid₂ : ∀ rule ∈ activeRules db₂, rule.Valid := by
    intro other member
    rw [isAdded] at member
    rcases List.mem_cons.mp (perm.mem_iff.mp member) with rfl | before
    · exact validRule
    · exact valid other before
  have more (lines' : List OrderLine) := accepted_more_iff env payload db db₂ rule lines lines'
    unlimited isAdded active sold.accepted
  have final : response.finalAmount =
      orderFinal (activeRules db) (statedDiscount payload) lines := by
    rw [sold.response]
    exact sold.totalled.final
  have sameDiscount := discountOf_discounted rule _ lines finals sold.discounted
  have sameRows : (∀ row ∈ finals,
      lineDiscountOf rule row.productId row.quantity row.unitPrice.value ≤
        row.finalLineAmount.value) ↔
      ∀ line ∈ lines, lineDiscountOf rule line.productId line.quantity line.unitPrice.value ≤
        lineFinal (activeRules db) line :=
    rows_covered_iff rule (activeRules db) lines finals sold.discounted
  rw [sameRows, sameDiscount, final]
  constructor
  · constructor
    · rintro ⟨response', db', created'⟩
      obtain ⟨lines', _, _, sold'⟩ :=
        createOrder_sold env actor payload db₂ db' response' valid₂ created'
      exact ((more lines').mp sold'.accepted).2
    · intro covered
      exact createOrder_accepts env actor payload db₂ lines valid₂ ((more lines).mpr ⟨rfl, covered⟩)
  · intro response' db' created'
    obtain ⟨lines', _, order', sold'⟩ :=
      createOrder_sold env actor payload db₂ db' response' valid₂ created'
    obtain ⟨rfl, _⟩ := (more lines').mp sold'.accepted
    have final' : response'.finalAmount =
        orderFinal (activeRules db) (statedDiscount payload) lines' - discountOf rule lines' := by
      rw [sold'.response]
      refine sold'.totalled.final.trans ?_
      exact orderFinal_more rule (activeRules db) _ _ _ (isAdded ▸ perm)
    have bounded := priced_bounded db env _ payload lines' valid sold.accepted.priced
    have nonneg := discountOf_nonneg rule validRule lines' bounded.unitPrices
    exact ⟨final', by linarith⟩

def oneSoda : OrderCreateRequest := ⟨[aSoda], some 0, by simp, Ledger.zero_discount⟩

def spendAndSave (threshold discount : ℚ) (bounds : 0 ≤ threshold ∧ 0 ≤ discount) :
    PromotionRuleCreateRequest where
  name := "Spend and save"
  ruleType := "spend_and_save"
  thresholdAmount := some threshold
  discountAmount := some discount
  buyQuantity := none
  getQuantity := none
  tierQuantity := none
  tierUnitPrice := none
  purchaseLimitQuantity := none
  appliesToProductId := none
  priority := 100
  nameLength := by decide
  thresholdNonneg := by simpa using bounds.1
  discountNonneg := by simpa using bounds.2
  buyPositive := by simp
  getPositive := by simp
  tierPositive := by simp
  tierPriceNonneg := by simp
  limitPositive := by simp
  priorityBounds := by decide

def fiveOff : PromotionRuleCreateRequest := spendAndSave 10 5 (by norm_num)

def hundredOff : PromotionRuleCreateRequest := spendAndSave 0 100 (by norm_num)

theorem createOrder_oneMoreRule_sodas : ∃ (response : OrderResponse) (rows : List OrderLine)
    (rule : PromotionRule),
    ((∃ response' db', sellSodas threeSodas
        (after (createPromotionRule fiveOff) (sodaShop [buyTwoGetOne])) = .ok response' db') ↔
      (∀ row ∈ rows, lineDiscountOf rule row.productId row.quantity row.unitPrice.value ≤
        row.finalLineAmount.value) ∧
      discountOf rule rows ≤ response.finalAmount) ∧
    ∀ response' db', sellSodas threeSodas
        (after (createPromotionRule fiveOff) (sodaShop [buyTwoGetOne])) = .ok response' db' →
      response'.finalAmount = response.finalAmount - discountOf rule rows ∧
        response'.finalAmount ≤ response.finalAmount := by
  have valid : ∀ rule ∈ activeRules (sodaShop [buyTwoGetOne]), rule.Valid := by
    rw [sodaShop_rules]
    simp [buyTwoGetOne_valid]
  obtain ⟨response, created⟩ := returns_of_isOk (sellSodas threeSodas) (sodaShop [buyTwoGetOne])
    (by decide +kernel)
  obtain ⟨⟨ruleId, rule⟩, added⟩ := returns_of_isOk (createPromotionRule fiveOff)
    (sodaShop [buyTwoGetOne]) (by decide +kernel)
  obtain ⟨_, rows, _, sold⟩ := createOrder_sold _ _ _ _ _ response valid created
  exact ⟨response, _, rule, createOrder_oneMoreRule (Ledger.atTime 0 "ORD-1") Ledger.clerk threeSodas
    (sodaShop [buyTwoGetOne]) _ _ response _ fiveOff ruleId rule .spendAndSave valid created
    sold.orderLines (by decide) rfl added⟩

/-- One soda at 10.00 is sold until 100.00 comes off every order. -/
theorem rule_blocks_sale :
    (reply (sellSodas oneSoda) (sodaShop [])).isOk = true ∧
      (reply (createPromotionRule hundredOff) (sodaShop [])).isOk = true ∧
      reply (sellSodas oneSoda) (after (createPromotionRule hundredOff) (sodaShop [])) =
        .error (.validation "Final order amount cannot be negative") := by
  decide +kernel

end RetailApp.Pricing
