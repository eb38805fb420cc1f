import RetailApp.Pricing.Overflow

/-! Whether the item shown before checkout is the line that checkout then sells. -/

namespace RetailApp.Pricing

open Transaction PromotionEngine Accumulate FixedPoint

/-- No discount: one of 0, or the field left out. -/
def noDiscount (stated : Bool) : Option ℚ := if stated then some 0 else none

theorem noDiscount_nonneg (stated : Bool) : ∀ discount ∈ noDiscount stated, 0 ≤ discount := by
  cases stated <;> simp [noDiscount]

def singleLine (request : AddToCartRequest) (itemStated orderStated : Bool) :
    OrderCreateRequest :=
  ⟨[⟨request.query, request.quantity, noDiscount itemStated, request.queryLength,
      request.quantityBounds, noDiscount_nonneg itemStated⟩],
    noDiscount orderStated, List.cons_ne_nil _ _, noDiscount_nonneg orderStated⟩

structure CheckoutAgrees (env : Env) (actor : User) (request : AddToCartRequest)
    (itemStated orderStated : Bool) (db : Db) : Prop where
  together : (∃ item, buildPrecheckoutItem db env actor request = .ok item) ↔
    ∃ response db',
      createOrder env actor (singleLine request itemStated orderStated) db = .ok response db'
  same : ∀ item response db', buildPrecheckoutItem db env actor request = .ok item →
    createOrder env actor (singleLine request itemStated orderStated) db = .ok response db' →
    ∃ order line, db'.orders = db.orders.insert order ∧
      db'.orderLines = db.orderLines.insert line ∧ line.productId = item.productId ∧
      item.lineTotal = line.lineSubtotal.value ∧ item.lineTotal = order.finalAmount.value ∧
      item.lineTotal = response.finalAmount

theorem buildPrecheckoutItem_ok (db : Db) (env : Env) (actor : User) (request : AddToCartRequest)
    (item : PreCheckoutItem) :
    buildPrecheckoutItem db env actor request = .ok item ↔
      ∃ productId product, catalogue db env request.query = .ok (productId, product) ∧
        product.isAvailableForSale = true ∧ product.isPosVisible = true ∧
        item = ⟨productId, product.barcode, product.internalCode, product.name, request.quantity,
          product.unitPrice.value, product.unitPrice.value * request.quantity⟩ := by
  have policy : ProductPolicy.canAccessStoreProduct (ProductPolicy.scopeContext actor) none = true := by
    simp [ProductPolicy.canAccessStoreProduct]
  simp only [buildPrecheckoutItem, bind_except_ok, raiseIf_ok, pure_except_ok, policy,
    Bool.true_eq_false, not_false_eq_true, Bool.not_eq_false, catalogue]
  constructor
  · rintro ⟨⟨productId, product⟩, found, _, _, _, available, _, visible, rfl⟩
    exact ⟨productId, product, found, available, visible, rfl⟩
  · rintro ⟨productId, product, found, available, visible, rfl⟩
    exact ⟨(productId, product), found, (), trivial, (), available, (), visible, rfl⟩

theorem noDiscount_zero (stated : Bool) (amount : ℚ) :
    (noDiscount stated).map money = some amount ↔ stated = true ∧ amount = 0 := by
  cases stated <;> simp [noDiscount, money_zero, eq_comm]

theorem passes_single (env : Env) (request : AddToCartRequest) (itemStated orderStated : Bool)
    (db : Db) (quotes : List Quote) (noRules : activeRules db = []) :
    Passes db env (singleLine request itemStated orderStated) quotes ↔
      itemStated = true ∧ orderStated = true ∧
        db.orders.rows.any (·.orderNo == env.orderNo) = false ∧
        ∃ productId product, catalogue db env request.query = .ok (productId, product) ∧
          product.isAvailableForSale = true ∧
          0 ≤ product.unitPrice.value * request.quantity ∧
          quotes = [⟨productId, request.quantity, product.unitPrice, 0⟩] := by
  constructor
  · intro passes
    obtain ⟨quote, quoted, rfl⟩ := related_singleton _ _ quotes passes.quoted
    obtain ⟨product, found, available, unitPrice⟩ := quoted.product
    obtain ⟨itemStated, free⟩ := (noDiscount_zero itemStated _).mp quoted.itemDiscount
    have orderStated : orderStated = true := by
      have stated := passes.stated
      cases orderStated with
      | true => rfl
      | false => exact stated
    have covered := passes.discounts quote List.mem_cons_self
    rw [free, Quote.subtotal, unitPrice, quoted.quantity] at covered
    refine ⟨itemStated, orderStated, passes.orderNo, quote.productId, product, found, available,
      covered, ?_⟩
    have isQuantity : quote.quantity = request.quantity := quoted.quantity
    rw [← isQuantity, ← unitPrice, ← free]
  · rintro ⟨rfl, rfl, orderNo, productId, product, found, available, nonneg, rfl⟩
    constructor
    · rfl
    · exact orderNo
    · exact List.Forall₂.cons ⟨⟨product, found, available, rfl⟩, rfl,
        (noDiscount_zero true 0).mpr ⟨rfl, rfl⟩⟩ List.Forall₂.nil
    · simpa [Quote.subtotal] using nonneg
    · simp [noRules]
    · simpa [Quote.subtotal, Quote.promotion, noRules] using nonneg
    · simpa [quoteFinal, quoteOrderDiscount, quoteSubtotal, quoteItems, quotePromotion,
        Quote.subtotal, Quote.promotion, noRules, orderPromotion, money_zero, singleLine,
        statedDiscount, noDiscount] using nonneg

theorem single_sold (env : Env) (actor : User) (request : AddToCartRequest)
    (itemStated orderStated : Bool) (db db' : Db) (response : OrderResponse)
    (noRules : activeRules db = [])
    (created :
      createOrder env actor (singleLine request itemStated orderStated) db = .ok response db') :
    ∃ order line product, db'.orders = db.orders.insert order ∧
      db'.orderLines = db.orderLines.insert line ∧
      catalogue db env request.query = .ok (line.productId, product) ∧
      line.lineSubtotal.value = product.unitPrice.value * request.quantity ∧
      order.finalAmount.value = line.lineSubtotal.value ∧
      response.finalAmount = order.finalAmount.value := by
  have valid : ∀ rule ∈ activeRules db, rule.Valid := by simp [noRules]
  obtain ⟨quotes, passes, _⟩ :=
    (createOrder_returns_iff env actor _ db valid).mp ⟨response, db', created⟩
  obtain ⟨rfl, rfl, _⟩ := (passes_single env request _ _ db quotes noRules).mp passes
  obtain ⟨lines, finals, order, sold⟩ := createOrder_sold env actor _ db db' response valid created
  obtain ⟨line, priced, rfl⟩ := related_singleton _ _ lines sold.accepted.priced
  obtain ⟨final, discounted, rfl⟩ := related_singleton _ _ finals sold.discounted
  obtain ⟨productId, quantity, unitPrice, subtotal, item⟩ := Discounted.fields _ line final discounted
  obtain ⟨product, found, _, _, _, price⟩ := priced.product
  have free := priced_undiscounted _ _ _ line priced rfl
  have noPromotion : linePromotion (activeRules db) line = 0 := by simp [linePromotion, noRules]
  have total := sold.totalled.final
  simp only [orderFinal, subtotalOf, itemDiscountOf, promotionOf, orderDiscount, orderPromotion,
    List.map_cons, List.map_nil, List.sum_cons, List.sum_nil, noRules, free, singleLine,
    statedDiscount, noDiscount, if_true, Option.getD_some, money_zero, noRules ▸ noPromotion,
    add_zero, sub_zero] at total
  refine ⟨order, final, product, sold.orders, ?_, ?_, ?_, ?_, ?_⟩
  · rw [sold.orderLines, Table.insertAll_cons, Table.insertAll_nil]
  · rw [productId]
    exact found
  · rw [subtotal, priced.subtotal, price, priced.quantity]
  · rw [subtotal]
    exact total
  · rw [sold.response]
    rfl

theorem single_sells_iff (env : Env) (actor : User) (request : AddToCartRequest)
    (itemStated orderStated : Bool) (db : Db) (noRules : activeRules db = []) :
    (∃ response db',
        createOrder env actor (singleLine request itemStated orderStated) db = .ok response db') ↔
      itemStated = true ∧ orderStated = true ∧
        ∃ productId product, catalogue db env request.query = .ok (productId, product) ∧
          product.isAvailableForSale = true ∧ 0 ≤ product.unitPrice.value ∧
          product.unitPrice.value * request.quantity < 10 ^ 10 ∧
          db.orders.rows.any (·.orderNo == env.orderNo) = false := by
  have valid : ∀ rule ∈ activeRules db, rule.Valid := by simp [noRules]
  have quantity : (0 : ℚ) < request.quantity := by exact_mod_cast request.quantityBounds.1
  rw [createOrder_returns_iff env actor _ db valid]
  constructor
  · rintro ⟨quotes, passes, small⟩
    obtain ⟨isItem, isOrder, orderNo, productId, product, found, available, nonneg, rfl⟩ :=
      (passes_single env request _ _ db quotes noRules).mp passes
    refine ⟨isItem, isOrder, productId, product, found, available,
      (mul_nonneg_iff_of_pos_right quantity).mp nonneg, ?_, orderNo⟩
    simpa [quoteSubtotal, Quote.subtotal] using small
  · rintro ⟨isItem, isOrder, productId, product, found, available, nonneg, small, orderNo⟩
    refine ⟨_, (passes_single env request _ _ db _ noRules).mpr ⟨isItem, isOrder, orderNo,
      productId, product, found, available, mul_nonneg nonneg quantity.le, rfl⟩, ?_⟩
    simpa [quoteSubtotal, Quote.subtotal] using small

/-- The item before checkout and the order agree exactly when a product for sale is visible just
in case the discounts are stated, its price is not negative, the line fits its column and the order
number is new. -/
theorem checkout_agrees_iff (env : Env) (actor : User) (request : AddToCartRequest)
    (itemStated orderStated : Bool) (db : Db) (noRules : activeRules db = []) :
    CheckoutAgrees env actor request itemStated orderStated db ↔
      ∀ productId product, findProductByQuery db env request.query false = .ok (productId, product) →
        product.isAvailableForSale = true →
        (product.isPosVisible = true ↔ itemStated = true ∧ orderStated = true ∧
          0 ≤ product.unitPrice.value ∧ product.unitPrice.value * request.quantity < 10 ^ 10 ∧
          db.orders.rows.any (·.orderNo == env.orderNo) = false) := by
  have sells := single_sells_iff env actor request itemStated orderStated db noRules
  constructor
  · intro agrees productId product found available
    constructor
    · intro visible
      obtain ⟨isItem, isOrder, other, product', found', _, fits⟩ := sells.mp
        (agrees.together.mp ⟨_, (buildPrecheckoutItem_ok db env actor request _).mpr
          ⟨productId, product, found, available, visible, rfl⟩⟩)
      obtain ⟨rfl, rfl⟩ := found_once _ _ _ _ _ found found'
      exact ⟨isItem, isOrder, fits⟩
    · rintro ⟨isItem, isOrder, fits⟩
      obtain ⟨item, built⟩ := agrees.together.mpr
        (sells.mpr ⟨isItem, isOrder, productId, product, found, available, fits⟩)
      obtain ⟨other, product', found', _, visible, _⟩ :=
        (buildPrecheckoutItem_ok db env actor request item).mp built
      obtain ⟨rfl, rfl⟩ := found_once _ _ _ _ _ found found'
      exact visible
  · intro condition
    constructor
    · rw [sells]
      constructor
      · rintro ⟨item, built⟩
        obtain ⟨productId, product, found, available, visible, _⟩ :=
          (buildPrecheckoutItem_ok db env actor request item).mp built
        obtain ⟨isItem, isOrder, fits⟩ := (condition productId product found available).mp visible
        exact ⟨isItem, isOrder, productId, product, found, available, fits⟩
      · rintro ⟨isItem, isOrder, productId, product, found, available, fits⟩
        exact ⟨_, (buildPrecheckoutItem_ok db env actor request _).mpr
          ⟨productId, product, found, available,
            (condition productId product found available).mpr ⟨isItem, isOrder, fits⟩, rfl⟩⟩
    · intro item response db' built created
      obtain ⟨order, line, product, orders, orderLines, found, subtotal, final, answered⟩ :=
        single_sold env actor request itemStated orderStated db db' response noRules created
      obtain ⟨productId, product', found', _, _, rfl⟩ :=
        (buildPrecheckoutItem_ok db env actor request item).mp built
      obtain ⟨rfl, rfl⟩ := found_once _ _ _ _ _ found found'
      exact ⟨order, line, orders, orderLines, rfl, subtotal.symm, (final.trans subtotal).symm,
        (answered.trans (final.trans subtotal)).symm⟩

def scanTea : AddToCartRequest := ⟨"690001", 1, Ledger.tea_scannable, one_orderable⟩

theorem checkout_agrees_iff_tea :
    CheckoutAgrees (Ledger.atTime 0 "ORD-1") Ledger.clerk scanTea true true Ledger.teaShop ↔
      ∀ productId product,
        findProductByQuery Ledger.teaShop (Ledger.atTime 0 "ORD-1") "690001" false =
          .ok (productId, product) → product.isAvailableForSale = true →
        (product.isPosVisible = true ↔ true = true ∧ true = true ∧ 0 ≤ product.unitPrice.value ∧
          product.unitPrice.value * (1 : Nat) < 10 ^ 10 ∧
          Ledger.teaShop.orders.rows.any (·.orderNo == "ORD-1") = false) :=
  checkout_agrees_iff (Ledger.atTime 0 "ORD-1") Ledger.clerk scanTea true true Ledger.teaShop rfl

def hiddenTeaShop : Db := Db.start ⟨[{ Ledger.tea with isPosVisible := false }]⟩ Table.empty

/-- Tea that the till must not show is refused before checkout and sold at checkout. Tea that it
shows passes before checkout; at checkout it is sold at discounts of 0, and not at all when the
request leaves the discounts out. -/
theorem hidden_tea_sold :
    buildPrecheckoutItem hiddenTeaShop (Ledger.atTime 0 "ORD-1") Ledger.clerk scanTea =
        .error (.security "Product is not visible in POS") ∧
      (reply (createOrder (Ledger.atTime 0 "ORD-1") Ledger.clerk (singleLine scanTea true true))
        hiddenTeaShop).isOk = true ∧
      ¬ CheckoutAgrees (Ledger.atTime 0 "ORD-1") Ledger.clerk scanTea true true hiddenTeaShop ∧
      (buildPrecheckoutItem Ledger.teaShop (Ledger.atTime 0 "ORD-1") Ledger.clerk scanTea).isOk =
        true ∧
      reply (createOrder (Ledger.atTime 0 "ORD-1") Ledger.clerk (singleLine scanTea false false))
        Ledger.teaShop = .error .attributeError ∧
      ¬ CheckoutAgrees (Ledger.atTime 0 "ORD-1") Ledger.clerk scanTea false false
        Ledger.teaShop := by
  have refused : buildPrecheckoutItem hiddenTeaShop (Ledger.atTime 0 "ORD-1") Ledger.clerk scanTea =
      .error (.security "Product is not visible in POS") := by decide +kernel
  have sold : (reply (createOrder (Ledger.atTime 0 "ORD-1") Ledger.clerk
      (singleLine scanTea true true)) hiddenTeaShop).isOk = true := by decide +kernel
  have shown : (buildPrecheckoutItem Ledger.teaShop (Ledger.atTime 0 "ORD-1") Ledger.clerk
      scanTea).isOk = true := by decide +kernel
  have failed : reply (createOrder (Ledger.atTime 0 "ORD-1") Ledger.clerk
      (singleLine scanTea false false)) Ledger.teaShop = .error .attributeError := by decide +kernel
  refine ⟨refused, sold, fun agrees => ?_, shown, failed, fun agrees => ?_⟩
  · obtain ⟨response, created⟩ := returns_of_isOk _ _ sold
    obtain ⟨item, built⟩ := agrees.together.mpr ⟨response, _, created⟩
    rw [refused] at built
    cases built
  · cases built : buildPrecheckoutItem Ledger.teaShop (Ledger.atTime 0 "ORD-1") Ledger.clerk
        scanTea with
    | error raised =>
        rw [built] at shown
        cases shown
    | ok item =>
        obtain ⟨response, db', created⟩ := agrees.together.mp ⟨item, built⟩
        rw [reply, created] at failed
        cases failed

end RetailApp.Pricing
