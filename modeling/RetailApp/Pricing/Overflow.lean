import RetailApp.Pricing.Totals

/-! Whether the amounts of a new order fit their columns. The checks of `create_order` compare
amounts with each other and with zero; none of them looks at the width of a column. -/

namespace RetailApp.Pricing

open Transaction PromotionEngine Accumulate FixedPoint

/-- What one line of a request is worth, before any column has to hold it. -/
structure Quote where
  productId : Nat
  quantity : Nat
  unitPrice : Amount
  itemDiscount : ℚ

namespace Quote

def subtotal (quote : Quote) : ℚ := quote.unitPrice.value * quote.quantity

def promotion (rules : List PromotionRule) (quote : Quote) : ℚ :=
  (rules.map (fun rule =>
    lineDiscountOf rule quote.productId quote.quantity quote.unitPrice.value)).sum

end Quote

def quoteSubtotal (quotes : List Quote) : ℚ := (quotes.map Quote.subtotal).sum

def quoteItems (quotes : List Quote) : ℚ := (quotes.map Quote.itemDiscount).sum

def quotePromotion (rules : List PromotionRule) (quotes : List Quote) : ℚ :=
  (quotes.map (Quote.promotion rules)).sum

def quoteQuantities (quotes : List Quote) : List (Nat × Int) :=
  quotes.map (fun quote => (quote.productId, (quote.quantity : Int)))

/-- Every amount of the row of a line, as it is inserted and as it is updated. -/
def Quote.amounts (rules : List PromotionRule) (quote : Quote) : List ℚ :=
  [quote.unitPrice.value, quote.subtotal, quote.itemDiscount, quote.subtotal - quote.itemDiscount,
    quote.promotion rules, quote.subtotal - quote.itemDiscount - quote.promotion rules]

def quoteOrderDiscount (rules : List PromotionRule) (manualDiscount : ℚ) (quotes : List Quote) :
    ℚ :=
  money manualDiscount + orderPromotion rules (quoteSubtotal quotes - quoteItems quotes)

def quoteFinal (rules : List PromotionRule) (manualDiscount : ℚ) (quotes : List Quote) : ℚ :=
  quoteSubtotal quotes - quoteItems quotes - quotePromotion rules quotes -
    quoteOrderDiscount rules manualDiscount quotes

def quoteAmounts (rules : List PromotionRule) (manualDiscount : ℚ) (quotes : List Quote) :
    List ℚ :=
  [money manualDiscount, quoteSubtotal quotes, quoteItems quotes,
    quoteOrderDiscount rules manualDiscount quotes, quotePromotion rules quotes,
    quoteFinal rules manualDiscount quotes]

structure Quoted (find : String → Except Raised (Nat × Product))
    (inputLine : OrderLineCreateRequest) (quote : Quote) : Prop where
  product : ∃ product, find inputLine.productQuery = .ok (quote.productId, product) ∧
    product.isAvailableForSale = true ∧ quote.unitPrice = product.unitPrice
  quantity : quote.quantity = inputLine.quantity
  itemDiscount : inputLine.itemDiscountAmount.map money = some quote.itemDiscount

/-- A request that the checks of `create_order` let through, with an order number that is new. -/
structure Passes (db : Db) (env : Env) (payload : OrderCreateRequest) (quotes : List Quote) :
    Prop where
  stated : payload.orderDiscountAmount.isSome = true
  orderNo : db.orders.rows.any (·.orderNo == env.orderNo) = false
  quoted : List.Forall₂ (Quoted (catalogue db env)) payload.lines quotes
  discounts : ∀ quote ∈ quotes, quote.itemDiscount ≤ quote.subtotal
  limits : ∀ rule ∈ activeRules db, rule.ruleType = PromotionType.purchaseLimit.value →
    ∀ limit ∈ rule.purchaseLimitQuantity, ∀ productId ∈ rule.appliesToProductId,
      tally (quoteQuantities quotes) productId ≤ limit
  lines : ∀ quote ∈ quotes,
    0 ≤ quote.subtotal - quote.itemDiscount - quote.promotion (activeRules db)
  order : 0 ≤ quoteFinal (activeRules db) (statedDiscount payload) quotes

def Overflows (raised : Raised) : Prop := ∃ column, raised = .dataError column

/-- The row of a line holds what the line was quoted at. -/
structure Holds (quote : Quote) (line : OrderLine) : Prop where
  productId : line.productId = quote.productId
  quantity : line.quantity = quote.quantity
  unitPrice : line.unitPrice = quote.unitPrice
  subtotal : line.lineSubtotal.value = quote.subtotal
  itemDiscount : line.itemDiscountAmount.value = quote.itemDiscount

theorem holds_of_priced (find : String → Except Raised (Nat × Product)) (orderId : Nat)
    (inputLine : OrderLineCreateRequest) (quote : Quote) (line : OrderLine)
    (quoted : Quoted find inputLine quote) (priced : Priced find orderId inputLine line) :
    Holds quote line := by
  obtain ⟨product, found, _, unitPrice⟩ := quoted.product
  obtain ⟨product', found', _, _, _, unitPrice'⟩ := priced.product
  obtain ⟨same, rfl⟩ := found_once _ _ _ _ _ found found'
  have quantity : line.quantity = quote.quantity := priced.quantity.trans quoted.quantity.symm
  have price : line.unitPrice = quote.unitPrice := unitPrice'.trans unitPrice.symm
  refine ⟨same, quantity, price, ?_,
    Option.some.inj (priced.itemDiscount.symm.trans quoted.itemDiscount)⟩
  rw [priced.subtotal, price, quantity, Quote.subtotal]

theorem holds_all (find : String → Except Raised (Nat × Product)) (orderId : Nat)
    (inputs : List OrderLineCreateRequest) (quotes : List Quote) (lines : List OrderLine)
    (quoted : List.Forall₂ (Quoted find) inputs quotes)
    (priced : List.Forall₂ (Priced find orderId) inputs lines) :
    List.Forall₂ Holds quotes lines := by
  apply related_trans _ _ _ _ quotes inputs lines quoted.flip priced
  intro quote inputLine line isQuoted isPriced
  exact holds_of_priced find orderId inputLine quote line isQuoted isPriced

theorem sums_of_holds (rules : List PromotionRule) (quotes : List Quote) (lines : List OrderLine)
    (holds : List.Forall₂ Holds quotes lines) :
    subtotalOf lines = quoteSubtotal quotes ∧ itemDiscountOf lines = quoteItems quotes ∧
      promotionOf rules lines = quotePromotion rules quotes ∧
      quantities lines = quoteQuantities quotes := by
  refine ⟨congrArg List.sum ?_, congrArg List.sum ?_, congrArg List.sum ?_, ?_⟩
  · exact related_map _ _ _ (fun _ _ one => one.subtotal) quotes lines holds
  · exact related_map _ _ _ (fun _ _ one => one.itemDiscount) quotes lines holds
  · apply related_map _ _ _ _ quotes lines holds
    intro quote line one
    rw [linePromotion, one.productId, one.quantity, one.unitPrice, Quote.promotion]
  · apply related_map _ _ _ _ quotes lines holds
    intro quote line one
    rw [one.productId, one.quantity]

theorem quote_nonneg (db : Db) (env : Env) (payload : OrderCreateRequest) (quotes : List Quote)
    (passes : Passes db env payload quotes) (quote : Quote) (member : quote ∈ quotes) :
    0 ≤ quote.subtotal := by
  obtain ⟨inputLine, _, quoted⟩ := related_origin _ _ _ passes.quoted quote member
  have discount : 0 ≤ quote.itemDiscount := by
    obtain ⟨asked, stated, is⟩ := Option.map_eq_some_iff.mp quoted.itemDiscount
    rw [← is]
    exact money_nonneg asked (inputLine.discountNonneg asked stated)
  exact discount.trans (passes.discounts quote member)

theorem quote_small (db : Db) (env : Env) (payload : OrderCreateRequest) (quotes : List Quote)
    (passes : Passes db env payload quotes) (small : quoteSubtotal quotes < 10 ^ 10)
    (quote : Quote) (member : quote ∈ quotes) : quote.subtotal < 10 ^ 10 := by
  have nonneg : ∀ amount ∈ quotes.map Quote.subtotal, 0 ≤ amount :=
    List.forall_mem_map.mpr (quote_nonneg db env payload quotes passes)
  exact (List.single_le_sum nonneg _ (List.mem_map_of_mem member)).trans_lt small

theorem passes_priced (db : Db) (env : Env) (payload : OrderCreateRequest) (quotes : List Quote)
    (passes : Passes db env payload quotes) (small : quoteSubtotal quotes < 10 ^ 10) :
    ∃ lines, List.Forall₂ (Priced (catalogue db env) db.orders.nextKey) payload.lines lines := by
  apply exists_related
  intro inputLine member
  obtain ⟨quote, inside, quoted⟩ :=
    related_origin _ quotes payload.lines passes.quoted.flip inputLine member
  obtain ⟨product, found, available, unitPrice⟩ := quoted.product
  have subtotal : quote.subtotal = product.unitPrice.value * inputLine.quantity := by
    rw [Quote.subtotal, unitPrice, quoted.quantity]
  obtain ⟨asked, stated, is⟩ := Option.map_eq_some_iff.mp quoted.itemDiscount
  apply priced_exists _ _ inputLine (quote.productId, product) asked found available stated
  · rw [← subtotal, is]
    exact passes.discounts quote inside
  · rw [← subtotal]
    exact quote_small db env payload quotes passes small quote inside

theorem passes_rows (db : Db) (env : Env) (payload : OrderCreateRequest) (quotes : List Quote)
    (lines : List OrderLine) (passes : Passes db env payload quotes)
    (holds : List.Forall₂ Holds quotes lines) :
    (∀ rule ∈ activeRules db, ¬ LimitExceeded rule (db.orderLines.numbered lines)) ∧
      (∀ line ∈ lines, 0 ≤ lineFinal (activeRules db) line) ∧
      0 ≤ orderFinal (activeRules db) (statedDiscount payload) lines := by
  obtain ⟨subtotal, items, promotion, isQuantities⟩ :=
    sums_of_holds (activeRules db) quotes lines holds
  refine ⟨?_, ?_, ?_⟩
  · rintro rule member ⟨ofKind, limit, hasLimit, productId, hasProduct, exceeded⟩
    rw [totalQuantity_numbered, isQuantities] at exceeded
    exact absurd exceeded
      (not_lt.mpr (passes.limits rule member ofKind limit hasLimit productId hasProduct))
  · intro line member
    obtain ⟨quote, inside, one⟩ := related_origin _ quotes lines holds line member
    rw [lineFinal, one.subtotal, one.itemDiscount, linePromotion, one.productId, one.quantity,
      one.unitPrice]
    exact passes.lines quote inside
  · rw [orderFinal, orderDiscount, subtotal, items, promotion]
    have order := passes.order
    rwa [quoteFinal, quoteOrderDiscount] at order

theorem accepted_of_passes (db : Db) (env : Env) (payload : OrderCreateRequest)
    (quotes : List Quote) (passes : Passes db env payload quotes)
    (small : quoteSubtotal quotes < 10 ^ 10) : ∃ lines, Accepted db env payload lines := by
  obtain ⟨lines, priced⟩ := passes_priced db env payload quotes passes small
  have holds := holds_all _ _ payload.lines quotes lines passes.quoted priced
  obtain ⟨limits, linesCovered, orderCovered⟩ := passes_rows db env payload quotes lines passes holds
  refine ⟨lines, passes.stated, passes.orderNo, priced, limits, linesCovered, orderCovered, ?_⟩
  rw [(sums_of_holds (activeRules db) quotes lines holds).1]
  exact small

def quoteOf (line : OrderLine) : Quote :=
  ⟨line.productId, line.quantity, line.unitPrice, line.itemDiscountAmount.value⟩

theorem quotes_of_accepted (db : Db) (env : Env) (payload : OrderCreateRequest)
    (lines : List OrderLine) (accepted : Accepted db env payload lines) :
    List.Forall₂ (Quoted (catalogue db env)) payload.lines (lines.map quoteOf) ∧
      List.Forall₂ Holds (lines.map quoteOf) lines := by
  constructor
  · rw [List.forall₂_map_right_iff]
    apply accepted.priced.imp
    intro inputLine line priced
    obtain ⟨product, found, available, _, _, unitPrice⟩ := priced.product
    exact ⟨⟨product, found, available, unitPrice⟩, priced.quantity, priced.itemDiscount⟩
  · rw [List.forall₂_map_left_iff, List.forall₂_same]
    intro line member
    obtain ⟨inputLine, _, priced⟩ := related_origin _ _ lines accepted.priced line member
    exact ⟨rfl, rfl, rfl, priced.subtotal, rfl⟩

theorem createOrder_returns_iff (env : Env) (actor : User) (payload : OrderCreateRequest) (db : Db)
    (valid : ∀ rule ∈ activeRules db, rule.Valid) :
    (∃ response db', createOrder env actor payload db = .ok response db') ↔
      ∃ quotes, Passes db env payload quotes ∧ quoteSubtotal quotes < 10 ^ 10 := by
  constructor
  · rintro ⟨response, db', created⟩
    obtain ⟨lines, _, _, sold⟩ := createOrder_sold env actor payload db db' response valid created
    have accepted := sold.accepted
    obtain ⟨quoted, holds⟩ := quotes_of_accepted db env payload lines accepted
    obtain ⟨subtotal, items, promotion, isQuantities⟩ :=
      sums_of_holds (activeRules db) (lines.map quoteOf) lines holds
    refine ⟨lines.map quoteOf, ⟨accepted.stated, accepted.orderNo, quoted, ?_, ?_, ?_, ?_⟩, ?_⟩
    · intro quote member
      obtain ⟨line, inside, one⟩ := related_origin _ lines _ holds.flip quote member
      obtain ⟨_, _, priced⟩ := related_origin _ _ lines accepted.priced line inside
      rw [← one.subtotal, ← one.itemDiscount]
      exact priced.covered
    · intro rule member ofKind limit hasLimit productId hasProduct
      rw [← isQuantities, ← totalQuantity_numbered db.orderLines]
      by_contra exceeded
      exact accepted.limits rule member
        ⟨ofKind, limit, hasLimit, productId, hasProduct, not_le.mp exceeded⟩
    · intro quote member
      obtain ⟨line, inside, one⟩ := related_origin _ lines _ holds.flip quote member
      have covered := accepted.linesCovered line inside
      rwa [lineFinal, one.subtotal, one.itemDiscount, linePromotion, one.productId, one.quantity,
        one.unitPrice] at covered
    · have covered := accepted.orderCovered
      rwa [orderFinal, orderDiscount, subtotal, items, promotion] at covered
    · rw [← subtotal]
      exact accepted.fits
  · rintro ⟨quotes, passes, small⟩
    obtain ⟨lines, accepted⟩ := accepted_of_passes db env payload quotes passes small
    exact createOrder_accepts env actor payload db lines valid accepted

theorem store_overflows (column : String) (given : ℚ) (raised : Raised)
    (failed : Amount.store column given = .error raised) : Overflows raised := by
  unfold Amount.store at failed
  split at failed
  · cases failed
  · cases failed
    exact ⟨column, rfl⟩

theorem addLine_overflows (env : Env) (orderId : Nat) (cart : Cart)
    (inputLine : OrderLineCreateRequest) (quote : Quote) (db : Db)
    (quoted : Quoted (catalogue db env) inputLine quote)
    (discount : quote.itemDiscount ≤ quote.subtotal) :
    RaisesOnly Overflows (addLine env orderId cart inputLine) db := by
  obtain ⟨product, found, available, unitPrice⟩ := quoted.product
  have covered : ¬ money (product.unitPrice.value * (inputLine.quantity : ℚ)) <
      quote.itemDiscount := by
    rw [lineSubtotal_exact, ← quoted.quantity, ← unitPrice]
    exact not_lt.mpr discount
  unfold addLine
  refine raisesOnly_after _ _ _ _ db db (run_get db) ?_
  refine raisesOnly_after _ _ _ _ (quote.productId, product) db ?_ ?_
  · exact (attempt_ok _ _ _ _).mpr ⟨found, rfl⟩
  refine raisesOnly_after _ _ _ _ () db ?_ ?_
  · simp [available]
  refine raisesOnly_after _ _ _ _ quote.itemDiscount db ?_ ?_
  · exact (attempt_ok _ _ _ _).mpr ⟨(moneyOf_ok _ _).mpr quoted.itemDiscount, rfl⟩
  refine raisesOnly_after _ _ _ _ () db ?_ ?_
  · rw [raiseIf_neg _ _ covered, run_attempt_ok]
  refine raisesOnly_bind_attempt _ _ _ _ (store_overflows _ _) (fun subtotal _ => ?_)
  refine raisesOnly_bind_attempt _ _ _ _ (store_overflows _ _) (fun discount _ => ?_)
  refine raisesOnly_bind_attempt _ _ _ _ (store_overflows _ _) (fun final _ => ?_)
  exact raisesOnly_after _ _ _ _ _ _ (insertOrderLine_eq _ db) (raisesOnly_pure _ _ _)

theorem addLines_overflows (env : Env) (orderId : Nat)
    (find : String → Except Raised (Nat × Product)) (inputs : List OrderLineCreateRequest)
    (quotes : List Quote) (cart : Cart) (db : Db) (lookup : catalogue db env = find)
    (quoted : List.Forall₂ (Quoted find) inputs quotes)
    (discounts : ∀ quote ∈ quotes, quote.itemDiscount ≤ quote.subtotal) :
    RaisesOnly Overflows (inputs.foldlM (addLine env orderId) cart) db := by
  induction quoted generalizing cart db with
  | nil => exact raisesOnly_pure _ _ _
  | cons head tail ih =>
      obtain ⟨discount, others⟩ := List.forall_mem_cons.mp discounts
      rw [List.foldlM_cons]
      refine raisesOnly_bind _ _ _ _
        (addLine_overflows env orderId cart _ _ db (lookup ▸ head) discount) ?_
      intro cart' written added
      obtain ⟨line, _, _, rfl⟩ := (addLine_ok env orderId cart cart' _ db written).mp added
      exact ih cart' { db with orderLines := db.orderLines.insert line }
        ((catalogue_congr db { db with orderLines := db.orderLines.insert line } rfl env).trans
          lookup) others

theorem flushLine_overflows (discounted : DiscountedLine) (db : Db) :
    RaisesOnly Overflows (flushLine discounted) db := by
  unfold flushLine
  refine raisesOnly_bind_attempt _ _ _ _ (store_overflows _ _) (fun promotion _ => ?_)
  refine raisesOnly_bind_attempt _ _ _ _ (store_overflows _ _) (fun final _ => ?_)
  intro raised written failed
  cases failed

theorem flushLines_overflows (outputs : List DiscountedLine) (db : Db) :
    RaisesOnly Overflows (outputs.forM flushLine) db := by
  induction outputs generalizing db with
  | nil => exact raisesOnly_pure _ _ _
  | cons output outputs ih =>
      exact raisesOnly_bind _ _ _ _ (flushLine_overflows output db) (fun _ written _ => ih written)

theorem placeOrder_overflows (env : Env) (actor : User) (payload : OrderCreateRequest) (db : Db)
    (quotes : List Quote) (valid : ∀ rule ∈ activeRules db, rule.Valid)
    (passes : Passes db env payload quotes) :
    RaisesOnly Overflows (placeOrder env actor payload) db := by
  unfold placeOrder
  refine raisesOnly_after _ _ _ _ (money (statedDiscount payload)) db
    ((attempt_ok _ _ _ _).mpr ⟨(moneyOf_stated payload _).mpr ⟨passes.stated, rfl⟩, rfl⟩) ?_
  refine raisesOnly_bind_attempt _ _ _ _ (store_overflows _ _) (fun manual isManual => ?_)
  refine raisesOnly_after _ _ _ _ db.orders.nextKey _
    ((insertOrder_ok_iff _ _ _ _).mpr ⟨passes.orderNo, rfl, rfl⟩) ?_
  refine raisesOnly_bind _ _ _ _
    (addLines_overflows env _ (catalogue db env) payload.lines quotes _ _ rfl passes.quoted
      passes.discounts) ?_
  intro cart written added
  obtain ⟨lines, priced, rfl, rfl⟩ := (addLines_ok _ _ _ _ _ _ _).mp added
  have holds := holds_all (catalogue db env) _ payload.lines quotes lines passes.quoted priced
  obtain ⟨limits, linesCovered, orderCovered⟩ := passes_rows db env payload quotes lines passes holds
  have manualValue : manual.value = money (statedDiscount payload) := by
    rw [((Amount.store_ok _ _ _).mp isManual).1, money_money]
  rw [cart_numbered]
  refine raisesOnly_after _ _ _ _ _ _ (run_get _) ?_
  refine raisesOnly_after _ _ _ _ (promotionsOf (activeRules db) db.orderLines lines) _
    ((attempt_ok _ _ _ _).mpr ⟨(engine_ok (activeRules db) _ _ valid _).mpr ⟨limits, rfl⟩, rfl⟩) ?_
  refine raisesOnly_after _ _ _ _
    ((db.orderLines.numbered lines).map (discountedLine (activeRules db))) _
    ((attempt_ok _ _ _ _).mpr ⟨(discountLines_ok (activeRules db) _ _ _
      (promotionsOf_line (activeRules db) db.orderLines lines)).mpr
        ⟨(forall_numbered db.orderLines lines _).mpr linesCovered, rfl⟩, rfl⟩) ?_
  dsimp only
  rw [orderTotal (activeRules db) (statedDiscount payload) manual db.orderLines lines manualValue,
    promotionTotal, finalTotal, raiseIf_neg _ _ (not_lt.mpr orderCovered)]
  refine raisesOnly_after _ _ _ _ () _ (run_attempt_ok _ _) ?_
  refine raisesOnly_bind_attempt _ _ _ _ (store_overflows _ _) (fun subtotal _ => ?_)
  refine raisesOnly_bind_attempt _ _ _ _ (store_overflows _ _) (fun items _ => ?_)
  refine raisesOnly_bind_attempt _ _ _ _ (store_overflows _ _) (fun order _ => ?_)
  refine raisesOnly_bind_attempt _ _ _ _ (store_overflows _ _) (fun promotion _ => ?_)
  refine raisesOnly_bind_attempt _ _ _ _ (store_overflows _ _) (fun final _ => ?_)
  refine raisesOnly_after _ _ _ _ _ _ (updateOrder_eq _ _ _) ?_
  refine raisesOnly_bind _ _ _ _ (flushLines_overflows _ _) (fun _ written _ => ?_)
  exact raisesOnly_after _ _ _ _ _ _ (writeAuditLog_eq _ _ _ _ _ _) (raisesOnly_pure _ _ _)

theorem createOrder_overflows (env : Env) (actor : User) (payload : OrderCreateRequest) (db : Db)
    (quotes : List Quote) (valid : ∀ rule ∈ activeRules db, rule.Valid)
    (passes : Passes db env payload quotes) :
    RaisesOnly Overflows (createOrder env actor payload) db := by
  unfold createOrder
  refine raisesOnly_after _ _ _ _ () db ?_ ?_
  · rw [raiseIf_neg _ _ payload.someLine, run_attempt_ok]
  refine raisesOnly_bind _ _ _ _ (raisesOnly_transactional _ _ _
    (placeOrder_overflows env actor payload db quotes valid passes)) ?_
  intro orderId written committed
  obtain ⟨order, placed⟩ := placeOrder_ok env actor payload db written orderId
    ((transactional_ok _ _ _ _).mp committed)
  refine raisesOnly_after _ _ _ _ _ _ (run_get _) ?_
  rw [placed.key, placed.orders, Table.get?_insert_self]
  exact raisesOnly_pure _ _ _

theorem amounts_fit (env : Env) (actor : User) (payload : OrderCreateRequest) (db : Db)
    (quotes : List Quote) (valid : ∀ rule ∈ activeRules db, rule.Valid)
    (passes : Passes db env payload quotes) (small : quoteSubtotal quotes < 10 ^ 10) :
    ∀ amount ∈ quoteAmounts (activeRules db) (statedDiscount payload) quotes ++
      quotes.flatMap (Quote.amounts (activeRules db)), |amount| < 10 ^ 10 := by
  obtain ⟨lines, accepted⟩ := accepted_of_passes db env payload quotes passes small
  have holds := holds_all _ _ payload.lines quotes lines passes.quoted accepted.priced
  have bounded := priced_bounded db env _ payload lines valid accepted.priced
  obtain ⟨subtotal, items, promotion, _⟩ := sums_of_holds (activeRules db) quotes lines holds
  have totals (manual : Amount) (order : Order)
      (isManual : manual.value = money (statedDiscount payload))
      (totalled : Totalled env actor payload (activeRules db) lines order) :
      quoteAmounts (activeRules db) (statedDiscount payload) quotes =
        [manual.value, order.subtotalAmount.value, order.itemDiscountTotal.value,
          order.orderDiscountTotal.value, order.promotionDiscountTotal.value,
          order.finalAmount.value] := by
    rw [totalled.subtotal, totalled.itemDiscount, totalled.orderDiscount, totalled.promotion,
      totalled.final, orderFinal, orderDiscount, subtotal, items, promotion, isManual]
    rfl
  intro amount member
  rcases List.mem_append.mp member with ofOrder | ofLine
  · -- the amounts of the order fit because an order that holds them exists
    obtain ⟨manual, isManual, order, totalled⟩ :=
      totals_exist env actor payload db lines valid accepted
    rw [totals manual order isManual totalled] at ofOrder
    simp only [List.mem_cons, List.not_mem_nil, or_false] at ofOrder
    rcases ofOrder with rfl | rfl | rfl | rfl | rfl | rfl <;> exact Amount.fits _
  · obtain ⟨quote, inside, ofLine⟩ := List.mem_flatMap.mp ofLine
    obtain ⟨line, isLine, one⟩ := related_origin _ lines quotes holds.flip quote inside
    obtain ⟨inputLine, _, priced⟩ := related_origin _ _ lines accepted.priced line isLine
    obtain ⟨final, discounted⟩ := discounted_exists (activeRules db) line (bounded.items line isLine)
      (bounded.promotions line isLine) (accepted.linesCovered line isLine)
    have promotion : final.promotionDiscountAmount.value = quote.promotion (activeRules db) := by
      rw [discounted.promotion, linePromotion, one.productId, one.quantity, one.unitPrice,
        Quote.promotion]
    have left : final.finalLineAmount.value =
        quote.subtotal - quote.itemDiscount - quote.promotion (activeRules db) := by
      rw [discounted.amount, lineFinal, one.subtotal, one.itemDiscount, ← discounted.promotion,
        promotion]
    have inserted : line.finalLineAmount.value = quote.subtotal - quote.itemDiscount := by
      rw [priced.final, one.subtotal, one.itemDiscount]
    rw [Quote.amounts, ← left, ← promotion, ← inserted, ← one.subtotal, ← one.itemDiscount] at ofLine
    simp only [List.mem_cons, List.not_mem_nil, or_false] at ofLine
    rcases ofLine with rfl | rfl | rfl | rfl | rfl | rfl <;> exact Amount.fits _

theorem createOrder_too_wide (env : Env) (actor : User) (payload : OrderCreateRequest) (db : Db)
    (quotes : List Quote) (valid : ∀ rule ∈ activeRules db, rule.Valid)
    (passes : Passes db env payload quotes) (wide : 10 ^ 10 ≤ quoteSubtotal quotes) :
    ∃ column written, createOrder env actor payload db = .error (.dataError column) written := by
  cases outcome : createOrder env actor payload db with
  | error raised written =>
      obtain ⟨column, rfl⟩ :=
        createOrder_overflows env actor payload db quotes valid passes raised written outcome
      exact ⟨column, written, rfl⟩
  | ok response written =>
      obtain ⟨lines, _, order, sold⟩ :=
        createOrder_sold env actor payload db written response valid outcome
      have holds := holds_all _ _ payload.lines quotes lines passes.quoted sold.accepted.priced
      have fits := sold.accepted.fits
      rw [(sums_of_holds (activeRules db) quotes lines holds).1] at fits
      exact absurd fits (not_lt.mpr wide)

/-- Of a request that passes the checks, the amounts all fit their columns, and no column refuses
one, exactly when the prices of its lines, discounts aside, come to less than 10^10. -/
theorem createOrder_fits_iff (env : Env) (actor : User) (payload : OrderCreateRequest) (db : Db)
    (quotes : List Quote) (valid : ∀ rule ∈ activeRules db, rule.Valid)
    (passes : Passes db env payload quotes) :
    ((∀ amount ∈ quoteAmounts (activeRules db) (statedDiscount payload) quotes ++
        quotes.flatMap (Quote.amounts (activeRules db)), |amount| < 10 ^ 10) ↔
      quoteSubtotal quotes < 10 ^ 10) ∧
    ((∀ column written, createOrder env actor payload db ≠ .error (.dataError column) written) ↔
      quoteSubtotal quotes < 10 ^ 10) := by
  refine ⟨⟨?_, amounts_fit env actor payload db quotes valid passes⟩, ?_, ?_⟩
  · intro amounts
    have listed : quoteSubtotal quotes ∈
        quoteAmounts (activeRules db) (statedDiscount payload) quotes :=
      List.mem_cons_of_mem _ List.mem_cons_self
    exact (abs_lt.mp (amounts _ (List.mem_append_left _ listed))).2
  · intro fits
    by_contra wide
    obtain ⟨column, written, failed⟩ :=
      createOrder_too_wide env actor payload db quotes valid passes (not_lt.mp wide)
    exact fits column written failed
  · intro small column written failed
    obtain ⟨lines, accepted⟩ := accepted_of_passes db env payload quotes passes small
    obtain ⟨response, db', created⟩ := createOrder_accepts env actor payload db lines valid accepted
    rw [created] at failed
    cases failed

theorem passes_tea : Passes Ledger.teaShop (Ledger.atTime 0 "ORD-1") Ledger.teaOrder
    [⟨1, 1, Ledger.tenUnits, 0⟩] := by
  constructor
  · rfl
  · decide +kernel
  · exact List.Forall₂.cons ⟨⟨Ledger.tea, by decide +kernel, rfl, rfl⟩, rfl, by decide +kernel⟩
      List.Forall₂.nil
  · decide +kernel
  · exact fun rule member => (List.not_mem_nil member).elim
  · decide +kernel
  · decide +kernel

theorem createOrder_fits_iff_tea :
    ((∀ amount ∈ quoteAmounts (activeRules Ledger.teaShop) 0 [⟨1, 1, Ledger.tenUnits, 0⟩] ++
        [(⟨1, 1, Ledger.tenUnits, 0⟩ : Quote)].flatMap
          (Quote.amounts (activeRules Ledger.teaShop)), |amount| < 10 ^ 10) ↔
      quoteSubtotal [⟨1, 1, Ledger.tenUnits, 0⟩] < 10 ^ 10) ∧
    ((∀ column written,
        createOrder (Ledger.atTime 0 "ORD-1") Ledger.clerk Ledger.teaOrder Ledger.teaShop ≠
          .error (.dataError column) written) ↔
      quoteSubtotal [⟨1, 1, Ledger.tenUnits, 0⟩] < 10 ^ 10) :=
  createOrder_fits_iff (Ledger.atTime 0 "ORD-1") Ledger.clerk Ledger.teaOrder Ledger.teaShop
    [⟨1, 1, Ledger.tenUnits, 0⟩] (fun _ member => (List.not_mem_nil member).elim) passes_tea

theorem twentyMillion_onGrid : OnGrid 100 20000000 := ⟨2000000000, by norm_num⟩

theorem twentyMillion_fits : |(20000000 : ℚ)| < 10 ^ 10 := by norm_num

def goldPrice : Amount := ⟨20000000, twentyMillion_onGrid, twentyMillion_fits⟩

def goldBar : Product :=
  { Ledger.tea with name := "Gold bar", namePinyin := "jin", unitPrice := goldPrice }

def goldShop : Db := Db.start ⟨[goldBar]⟩ Table.empty

theorem many_orderable : 1 ≤ 999 ∧ 999 ≤ 999 := by decide

def goldBars : OrderCreateRequest :=
  ⟨[⟨"690001", 999, some 0, Ledger.tea_scannable, many_orderable, Ledger.zero_discount⟩], some 0,
    List.cons_ne_nil _ _, Ledger.zero_discount⟩

/-- 999 bars pass every check and come to 19,980,000,000.00, which no column of the line holds. -/
theorem goldBars_refused :
    Passes goldShop (Ledger.atTime 0 "ORD-1") goldBars [⟨1, 999, goldPrice, 0⟩] ∧
      (∃ amount ∈ quoteAmounts (activeRules goldShop) 0 [⟨1, 999, goldPrice, 0⟩],
        10 ^ 10 ≤ |amount|) ∧
      reply (createOrder (Ledger.atTime 0 "ORD-1") Ledger.clerk goldBars) goldShop =
        .error (.dataError "line_subtotal") := by
  refine ⟨?_, by decide +kernel, by decide +kernel⟩
  constructor
  · rfl
  · decide +kernel
  · exact List.Forall₂.cons ⟨⟨goldBar, by decide +kernel, rfl, rfl⟩, rfl, by decide +kernel⟩
      List.Forall₂.nil
  · decide +kernel
  · exact fun rule member => (List.not_mem_nil member).elim
  · decide +kernel
  · decide +kernel

end RetailApp.Pricing
