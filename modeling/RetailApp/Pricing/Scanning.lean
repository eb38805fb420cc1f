import RetailApp.Pricing.Totals

/-! Two ways of scanning the same cart: what the total of an order depends on. -/

namespace RetailApp.Pricing

open Transaction PromotionEngine Accumulate FixedPoint

def productOf (db : Db) (env : Env) (query : String) : Option Nat :=
  match catalogue db env query with
  | .ok found => some found.1
  | .error _ => none

def scanned (db : Db) (env : Env) (payload : OrderCreateRequest) : List (Option Nat × Nat) :=
  payload.lines.map (fun inputLine => (productOf db env inputLine.productQuery, inputLine.quantity))

/-- A complete rule of a kind that looks at each line of its product on its own. -/
def LooksAtLines (rule : PromotionRule) (productId : Nat) : Prop :=
  rule.appliesToProductId = some productId ∧
    ((rule.ruleType = PromotionType.buyAndGet.value ∧ rule.buyQuantity.isSome = true ∧
        rule.getQuantity.isSome = true) ∨
      (rule.ruleType = PromotionType.tieredPricing.value ∧ rule.tierQuantity.isSome = true ∧
        rule.tierUnitPrice.isSome = true))

/-- The same cart with item discounts stated as 0: as much of every product, and of the products
whose lines some rule looks at the same line quantities in any order. -/
structure SameCart (db : Db) (env : Env) (payload payload' : OrderCreateRequest) : Prop where
  orderDiscount : payload'.orderDiscountAmount = payload.orderDiscountAmount
  items : ∀ inputLine ∈ payload.lines, inputLine.itemDiscountAmount = some 0
  items' : ∀ inputLine ∈ payload'.lines, inputLine.itemDiscountAmount = some 0
  totals : ∀ key, (under (scanned db env payload') key).sum = (under (scanned db env payload) key).sum
  splits : ∀ rule ∈ activeRules db, ∀ productId, LooksAtLines rule productId →
    (under (scanned db env payload') (some productId)).Perm
      (under (scanned db env payload) (some productId))

theorem SameCart.symm (db : Db) (env : Env) (payload payload' : OrderCreateRequest)
    (same : SameCart db env payload payload') : SameCart db env payload' payload where
  orderDiscount := same.orderDiscount.symm
  items := same.items'
  items' := same.items
  totals := fun key => (same.totals key).symm
  splits := fun rule member productId looks => (same.splits rule member productId looks).symm

theorem catalogue_ok (db : Db) (env : Env) (query : String) (found : Nat × Product)
    (returned : catalogue db env query = .ok found) :
    db.products.get? found.1 = some found.2 := by
  simp only [catalogue, findProductByQuery, bind_except_ok] at returned
  obtain ⟨_, _, returned⟩ := returned
  split at returned
  · cases returned
  · rename_i first rest selected
    simp only [bind_except_ok, pure_except_ok] at returned
    obtain ⟨_, _, rfl⟩ := returned
    have member : first ∈ db.products.select env.rowOrder (fun product =>
        product.barcode == strip query || product.internalCode == strip query ||
          product.namePinyin == env.lower (strip query)) := by
      rw [selected]
      exact List.mem_cons_self
    exact ((Table.mem_select db.products env.rowOrder _ first.1 first.2).mp member).1

theorem productOf_some (db : Db) (env : Env) (query : String) (productId : Nat)
    (named : productOf db env query = some productId) :
    ∃ product, catalogue db env query = .ok (productId, product) := by
  unfold productOf at named
  split at named
  · rename_i found returned
    rw [← Option.some.inj named]
    exact ⟨found.2, returned⟩
  · cases named

def priceAt (db : Db) (productId : Nat) : ℚ :=
  ((db.products.get? productId).map (fun product => product.unitPrice.value)).getD 0

def amountAt (db : Db) (key : Option Nat) (quantity : Nat) : ℚ :=
  key.elim 0 (fun productId => priceAt db productId * quantity)

def offAt (db : Db) (key : Option Nat) (quantity : Nat) : ℚ :=
  key.elim 0 (fun productId => ((activeRules db).map (fun rule =>
    lineDiscountOf rule productId quantity (priceAt db productId))).sum)

structure Plain (db : Db) (line : OrderLine) : Prop where
  unitPrice : line.unitPrice.value = priceAt db line.productId
  subtotal : line.lineSubtotal.value = amountAt db (some line.productId) line.quantity
  item : line.itemDiscountAmount.value = 0
  promotion : linePromotion (activeRules db) line = offAt db (some line.productId) line.quantity

theorem priced_plain (db : Db) (env : Env) (orderId : Nat) (inputLine : OrderLineCreateRequest)
    (line : OrderLine) (priced : Priced (catalogue db env) orderId inputLine line)
    (noDiscount : inputLine.itemDiscountAmount = some 0) :
    Plain db line ∧ productOf db env inputLine.productQuery = some line.productId := by
  obtain ⟨product, found, _, _, _, unitPrice⟩ := priced.product
  have row := catalogue_ok db env _ _ found
  have price : line.unitPrice.value = priceAt db line.productId := by
    simp only [priceAt, row, Option.map_some, Option.getD_some, unitPrice]
  refine ⟨⟨price, ?_, priced_undiscounted _ orderId inputLine line priced noDiscount, ?_⟩, ?_⟩
  · rw [priced.subtotal, price]
    rfl
  · simp only [linePromotion, price]
    rfl
  · rw [productOf, found]

theorem lineDiscountOf_unless (rule : PromotionRule) (productId quantity : Nat) (unitPrice : ℚ)
    (ignores : ¬ LooksAtLines rule productId) :
    lineDiscountOf rule productId quantity unitPrice = 0 := by
  unfold lineDiscountOf groupDiscount tierDiscount
  split
  · rename_i buyAndGet
    split
    · rename_i buy free hasBuy hasFree
      apply if_neg
      intro applies
      exact ignores ⟨applies, .inl ⟨buyAndGet, by simp [hasBuy], by simp [hasFree]⟩⟩
    · rfl
  · split
    · rename_i tiered
      split
      · rename_i tier price hasTier hasPrice
        apply if_neg
        intro applies
        exact ignores ⟨applies.1, .inr ⟨tiered, by simp [hasTier], by simp [hasPrice]⟩⟩
      · rfl
    · rfl

theorem offAt_unless (db : Db) (productId quantity : Nat)
    (ignores : ∀ rule ∈ activeRules db, ¬ LooksAtLines rule productId) :
    offAt db (some productId) quantity = 0 := by
  apply List.sum_eq_zero
  intro discount member
  obtain ⟨rule, inside, rfl⟩ := List.mem_map.mp member
  exact lineDiscountOf_unless rule productId quantity _ (ignores rule inside)

theorem amountAt_sum (db : Db) (key : Option Nat) (quantities : List Nat) :
    (quantities.map (amountAt db key)).sum = amountAt db key quantities.sum := by
  cases key with
  | none =>
      simp only [amountAt, Option.elim_none]
      exact List.sum_map_zero
  | some productId =>
      change (quantities.map (fun quantity : Nat => priceAt db productId * (quantity : ℚ))).sum =
        priceAt db productId * (quantities.sum : ℚ)
      rw [List.sum_map_mul_left, Nat.cast_list_sum]

section

variable (db : Db) (env : Env) (payload payload' : OrderCreateRequest)

theorem amounts_same (same : SameCart db env payload payload') :
    ((scanned db env payload').map (fun entry => amountAt db entry.1 entry.2)).sum =
      ((scanned db env payload).map (fun entry => amountAt db entry.1 entry.2)).sum := by
  apply sum_by_key
  intro key
  rw [amountAt_sum, amountAt_sum, same.totals key]

theorem offs_same (same : SameCart db env payload payload') :
    ((scanned db env payload').map (fun entry => offAt db entry.1 entry.2)).sum =
      ((scanned db env payload).map (fun entry => offAt db entry.1 entry.2)).sum := by
  apply sum_by_key
  intro key
  cases key with
  | none =>
      have nothing : offAt db none = fun _ => 0 := rfl
      rw [nothing, List.sum_map_zero, List.sum_map_zero]
  | some productId =>
      by_cases looks : ∃ rule ∈ activeRules db, LooksAtLines rule productId
      · obtain ⟨rule, member, looks⟩ := looks
        exact ((same.splits rule member productId looks).map _).sum_eq
      · have nothing : offAt db (some productId) = fun _ => 0 := by
          funext quantity
          apply offAt_unless
          intro rule member governs
          exact looks ⟨rule, member, governs⟩
        rw [nothing, List.sum_map_zero, List.sum_map_zero]

variable (orderId : Nat) (lines : List OrderLine)

theorem scanned_of_priced
    (priced : List.Forall₂ (Priced (catalogue db env) orderId) payload.lines lines) :
    scanned db env payload = lines.map (fun line => (some line.productId, line.quantity)) := by
  symm
  apply related_map _ _ _ _ payload.lines lines priced
  intro inputLine line one
  obtain ⟨product, found, _⟩ := one.product
  rw [productOf, found, one.quantity]

theorem plain_of_priced
    (priced : List.Forall₂ (Priced (catalogue db env) orderId) payload.lines lines)
    (items : ∀ inputLine ∈ payload.lines, inputLine.itemDiscountAmount = some 0) :
    ∀ line ∈ lines, Plain db line := by
  intro line member
  obtain ⟨inputLine, inside, one⟩ := related_origin _ _ lines priced line member
  exact (priced_plain db env orderId inputLine line one (items inputLine inside)).1

theorem totals_of_scan
    (priced : List.Forall₂ (Priced (catalogue db env) orderId) payload.lines lines)
    (items : ∀ inputLine ∈ payload.lines, inputLine.itemDiscountAmount = some 0) :
    subtotalOf lines =
        ((scanned db env payload).map (fun entry => amountAt db entry.1 entry.2)).sum ∧
      itemDiscountOf lines = 0 ∧
      promotionOf (activeRules db) lines =
        ((scanned db env payload).map (fun entry => offAt db entry.1 entry.2)).sum ∧
      ∀ productId, tally (quantities lines) productId =
        (under (scanned db env payload) (some productId)).sum := by
  have plain := plain_of_priced db env payload orderId lines priced items
  rw [scanned_of_priced db env payload orderId lines priced, List.map_map, List.map_map]
  refine ⟨?_, ?_, ?_, ?_⟩
  · exact congrArg List.sum (List.map_congr_left (fun line member => (plain line member).subtotal))
  · apply List.sum_eq_zero
    intro amount member
    obtain ⟨line, inside, rfl⟩ := List.mem_map.mp member
    exact (plain line inside).item
  · exact congrArg List.sum (List.map_congr_left (fun line member => (plain line member).promotion))
  · intro productId
    simp [tally, under, quantities, List.filter_map, Function.comp_def, Nat.cast_list_sum]

end

theorem under_mem_of_pos (entries : List (Option Nat × Nat)) (key : Option Nat)
    (positive : 0 < (under entries key).sum) : ∃ quantity, (key, quantity) ∈ entries := by
  have nonempty : under entries key ≠ [] := by
    intro empty
    rw [empty] at positive
    exact absurd positive (lt_irrefl 0)
  obtain ⟨quantity, member⟩ := List.exists_mem_of_ne_nil _ nonempty
  exact ⟨quantity, (mem_under entries key quantity).mp member⟩

theorem product_in_both (db : Db) (env : Env) (payload payload' : OrderCreateRequest)
    (same : SameCart db env payload payload') (inputLine : OrderLineCreateRequest)
    (member : inputLine ∈ payload'.lines) :
    ∃ quantity, (productOf db env inputLine.productQuery, quantity) ∈ scanned db env payload := by
  apply under_mem_of_pos
  rw [← same.totals]
  have inside : inputLine.quantity ∈
      under (scanned db env payload') (productOf db env inputLine.productQuery) :=
    (mem_under _ _ _).mpr (List.mem_map_of_mem member)
  have enough := List.single_le_sum (fun quantity _ => Nat.zero_le quantity) _ inside
  have positive := inputLine.quantityBounds.1
  omega

theorem amountAt_nonneg (db : Db) (productId quantity : Nat) (price : 0 ≤ priceAt db productId) :
    0 ≤ amountAt db (some productId) quantity :=
  mul_nonneg price (Nat.cast_nonneg quantity)

theorem line_exists (db : Db) (env : Env) (orderId : Nat) (inputLine : OrderLineCreateRequest)
    (found : Nat × Product) (noDiscount : inputLine.itemDiscountAmount = some 0)
    (isFound : catalogue db env inputLine.productQuery = .ok found)
    (available : found.2.isAvailableForSale = true)
    (nonneg : 0 ≤ amountAt db (some found.1) inputLine.quantity)
    (small : amountAt db (some found.1) inputLine.quantity < 10 ^ 10) :
    ∃ line, Priced (catalogue db env) orderId inputLine line := by
  have row := catalogue_ok db env _ _ isFound
  have amount : amountAt db (some found.1) inputLine.quantity =
      found.2.unitPrice.value * inputLine.quantity := by
    simp only [amountAt, Option.elim_some, priceAt, row, Option.map_some, Option.getD_some]
  rw [amount] at nonneg small
  apply priced_exists (catalogue db env) orderId inputLine found 0 isFound available noDiscount _
    small
  rw [money_zero]
  exact nonneg

def inputAmount (db : Db) (env : Env) (inputLine : OrderLineCreateRequest) : ℚ :=
  amountAt db (productOf db env inputLine.productQuery) inputLine.quantity

theorem scanned_amounts (db : Db) (env : Env) (payload : OrderCreateRequest) :
    (scanned db env payload).map (fun entry => amountAt db entry.1 entry.2) =
      payload.lines.map (inputAmount db env) := by
  simp only [scanned, List.map_map]
  apply List.map_congr_left
  intro inputLine _
  simp only [Function.comp_apply, inputAmount]

theorem other_priced (db : Db) (env : Env) (payload payload' : OrderCreateRequest)
    (lines : List OrderLine) (valid : ∀ rule ∈ activeRules db, rule.Valid)
    (same : SameCart db env payload payload') (accepted : Accepted db env payload lines) :
    ∃ lines', List.Forall₂ (Priced (catalogue db env) db.orders.nextKey) payload'.lines lines' := by
  have bounded := priced_bounded db env _ payload lines valid accepted.priced
  have plain := plain_of_priced db env payload _ lines accepted.priced same.items
  have scan := scanned_of_priced db env payload _ lines accepted.priced
  -- every line of the other scan is of a product that some priced row is of
  have rows (inputLine : OrderLineCreateRequest) (member : inputLine ∈ payload'.lines) :
      ∃ line ∈ lines, productOf db env inputLine.productQuery = some line.productId := by
    obtain ⟨quantity, inside⟩ := product_in_both db env payload payload' same inputLine member
    rw [scan] at inside
    obtain ⟨line, isLine, isEntry⟩ := List.mem_map.mp inside
    exact ⟨line, isLine, (Prod.mk.inj isEntry).1.symm⟩
  have whole : (payload'.lines.map (inputAmount db env)).sum < 10 ^ 10 := by
    rw [← scanned_amounts, amounts_same db env payload payload' same,
      ← (totals_of_scan db env payload _ lines accepted.priced same.items).1]
    exact accepted.fits
  have amountNonneg (inputLine : OrderLineCreateRequest) (member : inputLine ∈ payload'.lines) :
      0 ≤ inputAmount db env inputLine := by
    obtain ⟨line, isLine, isProduct⟩ := rows inputLine member
    simp only [inputAmount, isProduct]
    apply amountAt_nonneg
    rw [← (plain line isLine).unitPrice]
    exact bounded.unitPrices line isLine
  apply exists_related
  intro inputLine member
  obtain ⟨line, isLine, isProduct⟩ := rows inputLine member
  obtain ⟨origin, _, one⟩ := related_origin _ _ lines accepted.priced line isLine
  obtain ⟨product, found, available, _⟩ := one.product
  obtain ⟨other, isOther⟩ := productOf_some db env _ _ isProduct
  obtain rfl : other = product := Option.some.inj
    ((catalogue_ok db env _ _ isOther).symm.trans (catalogue_ok db env _ _ found))
  have ofProduct : inputAmount db env inputLine =
      amountAt db (some line.productId) inputLine.quantity := by
    simp only [inputAmount, isProduct]
  apply line_exists db env _ inputLine _ (same.items' inputLine member) isOther available
  · rw [← ofProduct]
    exact amountNonneg inputLine member
  · have allNonneg : ∀ amount ∈ payload'.lines.map (inputAmount db env), 0 ≤ amount :=
      List.forall_mem_map.mpr amountNonneg
    have inside : inputAmount db env inputLine ∈ payload'.lines.map (inputAmount db env) :=
      List.mem_map_of_mem member
    have within := List.single_le_sum allNonneg _ inside
    rw [ofProduct] at within
    exact lt_of_le_of_lt within whole

theorem lineFinal_plain (db : Db) (line : OrderLine) (plain : Plain db line) :
    lineFinal (activeRules db) line =
      amountAt db (some line.productId) line.quantity -
        offAt db (some line.productId) line.quantity := by
  rw [lineFinal, plain.item, plain.promotion, plain.subtotal, sub_zero]

theorem mem_scan_of_priced (db : Db) (env : Env) (payload : OrderCreateRequest) (orderId : Nat)
    (lines : List OrderLine)
    (priced : List.Forall₂ (Priced (catalogue db env) orderId) payload.lines lines)
    (productId quantity : Nat) :
    quantity ∈ under (scanned db env payload) (some productId) ↔
      ∃ line ∈ lines, line.productId = productId ∧ line.quantity = quantity := by
  rw [mem_under, scanned_of_priced db env payload orderId lines priced, List.mem_map]
  simp

theorem accepted_same_cart (db : Db) (env : Env) (payload payload' : OrderCreateRequest)
    (lines : List OrderLine) (valid : ∀ rule ∈ activeRules db, rule.Valid)
    (same : SameCart db env payload payload') (accepted : Accepted db env payload lines) :
    ∃ lines', Accepted db env payload' lines' ∧
      orderFinal (activeRules db) (statedDiscount payload') lines' =
        orderFinal (activeRules db) (statedDiscount payload) lines := by
  obtain ⟨lines', priced'⟩ := other_priced db env payload payload' lines valid same accepted
  have bounded := priced_bounded db env _ payload lines valid accepted.priced
  have bounded' := priced_bounded db env _ payload' lines' valid priced'
  have plain := plain_of_priced db env payload _ lines accepted.priced same.items
  have plain' := plain_of_priced db env payload' _ lines' priced' same.items'
  obtain ⟨isSubtotal, isItem, isPromotion, isQuantity⟩ :=
    totals_of_scan db env payload _ lines accepted.priced same.items
  obtain ⟨isSubtotal', isItem', isPromotion', isQuantity'⟩ :=
    totals_of_scan db env payload' _ lines' priced' same.items'
  have subtotal : subtotalOf lines' = subtotalOf lines := by
    rw [isSubtotal, isSubtotal', amounts_same db env payload payload' same]
  have scan := mem_scan_of_priced db env payload _ lines accepted.priced
  have scan' := mem_scan_of_priced db env payload' _ lines' priced'
  have final : orderFinal (activeRules db) (statedDiscount payload') lines' =
      orderFinal (activeRules db) (statedDiscount payload) lines := by
    rw [orderFinal, orderFinal, orderDiscount, orderDiscount, subtotal, isItem, isItem', isPromotion,
      isPromotion', offs_same db env payload payload' same, statedDiscount, statedDiscount,
      same.orderDiscount]
  refine ⟨lines', ⟨same.orderDiscount ▸ accepted.stated, accepted.orderNo, priced', ?_, ?_, ?_, ?_⟩, final⟩
  · intro rule member
    have totals : tally (quantities lines') = tally (quantities lines) := by
      funext productId
      rw [isQuantity, isQuantity', same.totals]
    rw [limitExceeded_congr rule db.orderLines db.orderLines lines lines' totals]
    exact accepted.limits rule member
  · intro line member
    rw [lineFinal_plain db line (plain' line member)]
    by_cases looks : ∃ rule ∈ activeRules db, LooksAtLines rule line.productId
    · -- some rule looks at the lines of this product, so the other cart has such a line
      obtain ⟨rule, isRule, looks⟩ := looks
      have inside' := (scan' line.productId line.quantity).mpr ⟨line, member, rfl, rfl⟩
      have inside := (same.splits rule isRule line.productId looks).mem_iff.mp inside'
      obtain ⟨other, isOther, product, quantity⟩ := (scan _ _).mp inside
      have covered := accepted.linesCovered other isOther
      rwa [lineFinal_plain db other (plain other isOther), product, quantity] at covered
    · rw [offAt_unless db line.productId line.quantity
        (fun rule isRule governs => looks ⟨rule, isRule, governs⟩), sub_zero]
      apply amountAt_nonneg
      rw [← (plain' line member).unitPrice]
      exact bounded'.unitPrices line member
  · rw [final]
    exact accepted.orderCovered
  · rw [subtotal]
    exact accepted.fits

theorem createOrder_same_cart (env : Env) (actor : User) (db : Db)
    (payload payload' : OrderCreateRequest) (valid : ∀ rule ∈ activeRules db, rule.Valid)
    (same : SameCart db env payload payload') :
    (∃ response response' db₁ db₂, createOrder env actor payload db = .ok response db₁ ∧
        createOrder env actor payload' db = .ok response' db₂ ∧
        response'.finalAmount = response.finalAmount) ∨
      ((∀ response db', createOrder env actor payload db ≠ .ok response db') ∧
        ∀ response db', createOrder env actor payload' db ≠ .ok response db') := by
  have other (payload payload' : OrderCreateRequest) (same : SameCart db env payload payload')
      (response : OrderResponse) (db₁ : Db)
      (created : createOrder env actor payload db = .ok response db₁) :
      ∃ response' db₂, createOrder env actor payload' db = .ok response' db₂ ∧
        response'.finalAmount = response.finalAmount := by
    obtain ⟨lines, _, order, sold⟩ :=
      createOrder_sold env actor payload db db₁ response valid created
    obtain ⟨lines', accepted', final⟩ :=
      accepted_same_cart db env payload payload' lines valid same sold.accepted
    obtain ⟨response', db₂, created'⟩ :=
      createOrder_accepts env actor payload' db lines' valid accepted'
    obtain ⟨lines₂, _, order', sold'⟩ :=
      createOrder_sold env actor payload' db db₂ response' valid created'
    obtain rfl := priced_unique db env _ _ lines₂ lines' sold'.accepted.priced accepted'.priced
    refine ⟨response', db₂, created', ?_⟩
    rw [sold.response, sold'.response]
    exact sold'.totalled.final.trans (final.trans sold.totalled.final.symm)
  by_cases accepts : ∃ response db₁, createOrder env actor payload db = .ok response db₁
  · obtain ⟨response, db₁, created⟩ := accepts
    obtain ⟨response', db₂, created', final⟩ := other payload payload' same response db₁ created
    exact .inl ⟨response, response', db₁, db₂, created, created', final⟩
  · refine .inr ⟨?_, ?_⟩
    · intro response db' created
      exact accepts ⟨response, db', created⟩
    · intro response' db' created'
      obtain ⟨response, db₁, created, _⟩ :=
        other payload' payload (same.symm db env payload payload') response' db' created'
      exact accepts ⟨response, db₁, created⟩

def twoThenOne : OrderCreateRequest :=
  ⟨[sodas 2 (by decide), aSoda], some 0, by simp, Ledger.zero_discount⟩

def oneThenTwo : OrderCreateRequest :=
  ⟨[aSoda, sodas 2 (by decide)], some 0, by simp, Ledger.zero_discount⟩

theorem oneThenTwo_same_cart (db : Db) (env : Env) : SameCart db env twoThenOne oneThenTwo := by
  have perm : (scanned db env oneThenTwo).Perm (scanned db env twoThenOne) := List.Perm.swap _ _ _
  have lines (key : Option Nat) :
      (under (scanned db env oneThenTwo) key).Perm (under (scanned db env twoThenOne) key) :=
    (perm.filter _).map _
  refine ⟨rfl, ?_, ?_, fun key => (lines key).sum_eq, fun _ _ productId _ => lines (some productId)⟩
  · simp [twoThenOne, aSoda, sodas]
  · simp [oneThenTwo, aSoda, sodas]

theorem createOrder_same_cart_sodas :
    (∃ response response' db₁ db₂,
        sellSodas twoThenOne (sodaShop [buyTwoGetOne]) = .ok response db₁ ∧
        sellSodas oneThenTwo (sodaShop [buyTwoGetOne]) = .ok response' db₂ ∧
        response'.finalAmount = response.finalAmount) ∨
      ((∀ response db', sellSodas twoThenOne (sodaShop [buyTwoGetOne]) ≠ .ok response db') ∧
        ∀ response db', sellSodas oneThenTwo (sodaShop [buyTwoGetOne]) ≠ .ok response db') := by
  refine createOrder_same_cart (Ledger.atTime 0 "ORD-1") Ledger.clerk (sodaShop [buyTwoGetOne])
    twoThenOne oneThenTwo ?_ (oneThenTwo_same_cart _ _)
  rw [sodaShop_rules]
  simp [buyTwoGetOne_valid]

def oneByOne : OrderCreateRequest :=
  ⟨[aSoda, aSoda, aSoda], some 0, by simp, Ledger.zero_discount⟩

def finalAmountOf (payload : OrderCreateRequest) (db : Db) : Option ℚ :=
  (reply (sellSodas payload) db).toOption.map (·.finalAmount)

/-- Three sodas on one line are one group of three and cost 20.00; on three lines no line is a
group and they cost 30.00. -/
theorem scan_changes_price :
    scanned (sodaShop [buyTwoGetOne]) (Ledger.atTime 0 "ORD-1") threeSodas = [(some 1, 3)] ∧
      scanned (sodaShop [buyTwoGetOne]) (Ledger.atTime 0 "ORD-1") oneByOne =
        [(some 1, 1), (some 1, 1), (some 1, 1)] ∧
      finalAmountOf threeSodas (sodaShop [buyTwoGetOne]) = some 20 ∧
      finalAmountOf oneByOne (sodaShop [buyTwoGetOne]) = some 30 := by
  decide +kernel

end RetailApp.Pricing
