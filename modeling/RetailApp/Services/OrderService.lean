import RetailApp.Schemas
import RetailApp.Text
import RetailApp.Services.ProductService
import RetailApp.Services.PromotionEngine

namespace RetailApp

open Transaction

def orderExpiryMinutes : Int := 30

def toOrderLineResponse (entry : Nat × OrderLine) : OrderLineResponse where
  id := entry.1
  productId := entry.2.productId
  productNameSnapshot := entry.2.productNameSnapshot
  productBarcodeSnapshot := entry.2.productBarcodeSnapshot
  quantity := entry.2.quantity
  unitPrice := entry.2.unitPrice
  lineSubtotal := entry.2.lineSubtotal
  itemDiscountAmount := entry.2.itemDiscountAmount
  promotionDiscountAmount := entry.2.promotionDiscountAmount
  finalLineAmount := entry.2.finalLineAmount

def toOrderResponse (db : Db) (env : Env) (orderId : Nat) (order : Order) : OrderResponse where
  id := orderId
  orderNo := order.orderNo
  cashierUserId := order.cashierUserId
  status := order.status
  subtotalAmount := order.subtotalAmount
  itemDiscountTotal := order.itemDiscountTotal
  orderDiscountTotal := order.orderDiscountTotal
  promotionDiscountTotal := order.promotionDiscountTotal
  finalAmount := order.finalAmount
  paidAmount := order.paidAmount
  createdAt := order.createdAt
  settledAt := order.settledAt
  voidedAt := order.voidedAt
  voidReason := order.voidReason
  lines := (db.orderLines.select env.lineRows (·.orderId == orderId)).map toOrderLineResponse

/-- `money` of a discount of the schema: the int 0 that stands for one left out has no
`quantize`. -/
def moneyOf (discount : Option ℚ) : Except Raised ℚ := do
  let stated ← orRaise discount .attributeError
  return money stated

/-- The running lists and totals of the line loop of `create_order`. -/
structure Cart where
  lines : List (Nat × OrderLine)
  subtotal : ℚ
  itemDiscountTotal : ℚ

def Cart.empty : Cart := ⟨[], 0, 0⟩

def addLine (env : Env) (orderId : Nat) (cart : Cart) (inputLine : OrderLineCreateRequest) :
    Service Cart := do
  let db ← get
  let (productId, product) ← attempt (findProductByQuery db env inputLine.productQuery false)
  attempt (raiseIf (product.isAvailableForSale = false)
    (.security s!"Product {productId} unavailable for sale"))
  let lineSubtotal := money (product.unitPrice.value * (inputLine.quantity : ℚ))
  let itemDiscount ← attempt (moneyOf inputLine.itemDiscountAmount)
  attempt (raiseIf (lineSubtotal < itemDiscount)
    (.validation "Item discount cannot exceed line subtotal"))
  let storedSubtotal ← attempt (Amount.store "line_subtotal" lineSubtotal)
  let storedDiscount ← attempt (Amount.store "item_discount_amount" itemDiscount)
  let storedFinal ← attempt (Amount.store "final_line_amount" (money (lineSubtotal - itemDiscount)))
  let line : OrderLine :=
    { orderId := orderId
      productId := productId
      productNameSnapshot := product.name
      productBarcodeSnapshot := product.barcode
      quantity := inputLine.quantity
      unitPrice := product.unitPrice
      lineSubtotal := storedSubtotal
      itemDiscountAmount := storedDiscount
      promotionDiscountAmount := Amount.zero
      finalLineAmount := storedFinal }
  let lineId ← insertOrderLine line
  return { lines := cart.lines ++ [(lineId, line)]
           subtotal := cart.subtotal + lineSubtotal
           itemDiscountTotal := cart.itemDiscountTotal + itemDiscount }

/-- A line whose promotion discount is assigned in the session and not yet flushed. -/
structure DiscountedLine where
  id : Nat
  promotionDiscountAmount : ℚ
  finalLineAmount : ℚ

def discountLine (promo : PromotionResult) (entry : Nat × OrderLine) :
    Except Raised DiscountedLine := do
  let promotionDiscount := money (promo.linePromoDiscounts entry.1)
  let finalLine := money (entry.2.lineSubtotal.value - entry.2.itemDiscountAmount.value -
    promotionDiscount)
  raiseIf (finalLine < 0) (.validation "Final line amount cannot be negative")
  return ⟨entry.1, promotionDiscount, finalLine⟩

def flushLine (discounted : DiscountedLine) : Service Unit := do
  let promotionDiscount ←
    attempt (Amount.store "promotion_discount_amount" discounted.promotionDiscountAmount)
  let finalLine ← attempt (Amount.store "final_line_amount" discounted.finalLineAmount)
  modify fun db =>
    { db with orderLines := db.orderLines.modify discounted.id (fun line =>
        { line with promotionDiscountAmount := promotionDiscount, finalLineAmount := finalLine }) }

/-- The body of the transaction of `create_order`. -/
def placeOrder (env : Env) (actor : User) (payload : OrderCreateRequest) : Service Nat := do
  let requestDiscount ← attempt (moneyOf payload.orderDiscountAmount)
  let manualDiscount ← attempt (Amount.store "order_discount_total" requestDiscount)
  let order : Order :=
    { orderNo := env.orderNo
      cashierUserId := actor.id
      status := .pending
      subtotalAmount := Amount.zero
      itemDiscountTotal := Amount.zero
      orderDiscountTotal := manualDiscount
      promotionDiscountTotal := Amount.zero
      finalAmount := Amount.zero
      paidAmount := Amount.zero
      createdAt := env.now
      settledAt := none
      voidedAt := none
      voidReason := none }
  let orderId ← insertOrder order
  let cart ← payload.lines.foldlM (addLine env orderId) Cart.empty
  let db ← get
  let promoResult ← attempt (PromotionEngine.apply (PromotionEngine.activeRules db) cart.lines
    (money (cart.subtotal - cart.itemDiscountTotal)))
  let lines ← attempt (cart.lines.mapM (discountLine promoResult))
  let promotionDiscountTotal := money (lines.map (·.promotionDiscountAmount)).sum
  let subtotalAmount := money cart.subtotal
  let itemDiscountTotal := money cart.itemDiscountTotal
  let orderDiscountTotal :=
    money (order.orderDiscountTotal.value + promoResult.orderDiscountAmount)
  let finalAmount :=
    money (subtotalAmount - itemDiscountTotal - promotionDiscountTotal - orderDiscountTotal)
  attempt (raiseIf (finalAmount < 0) (.validation "Final order amount cannot be negative"))
  let storedSubtotal ← attempt (Amount.store "subtotal_amount" subtotalAmount)
  let storedItem ← attempt (Amount.store "item_discount_total" itemDiscountTotal)
  let storedOrder ← attempt (Amount.store "order_discount_total" orderDiscountTotal)
  let storedPromotion ←
    attempt (Amount.store "promotion_discount_total" promotionDiscountTotal)
  let storedFinal ← attempt (Amount.store "final_amount" finalAmount)
  updateOrder orderId (Order.flush order
    { order with
      subtotalAmount := storedSubtotal
      itemDiscountTotal := storedItem
      orderDiscountTotal := storedOrder
      promotionDiscountTotal := storedPromotion
      finalAmount := storedFinal })
  lines.forM flushLine
  writeAuditLog (some actor.id) "order.create" "order" orderId
    (.orderCreate order.orderNo finalAmount)
  return orderId

def createOrder (env : Env) (actor : User) (payload : OrderCreateRequest) :
    Service OrderResponse := do
  attempt (raiseIf (payload.lines = []) (.validation "Order must contain at least one line"))
  let orderId ← transactional (placeOrder env actor payload)
  let db ← get
  match db.orders.get? orderId with
  | none => attempt (.error (.notFound "Order not found after creation"))
  | some loaded => return toOrderResponse db env orderId loaded

def getOrder (db : Db) (env : Env) (orderId : Nat) : Except Raised OrderResponse := do
  let order ← orRaise (db.orders.get? orderId) (.notFound "Order not found")
  return toOrderResponse db env orderId order

def listOrders (db : Db) (env : Env) (limit : Nat) : List OrderResponse :=
  (db.orders.entries.reverse.take limit).map (fun entry =>
    toOrderResponse db env entry.1 entry.2)

def storeRule (payload : PromotionRuleCreateRequest) : Except Raised PromotionRule := do
  let name ← varchar "name" 120 payload.name
  let ruleType ← varchar "rule_type" 32 payload.ruleType
  let thresholdAmount ← payload.thresholdAmount.mapM (Amount.store "threshold_amount")
  let discountAmount ← payload.discountAmount.mapM (Amount.store "discount_amount")
  let buyQuantity ← payload.buyQuantity.mapM (integer "buy_quantity")
  let getQuantity ← payload.getQuantity.mapM (integer "get_quantity")
  let tierQuantity ← payload.tierQuantity.mapM (integer "tier_quantity")
  let tierUnitPrice ← payload.tierUnitPrice.mapM (Amount.store "tier_unit_price")
  let purchaseLimitQuantity ←
    payload.purchaseLimitQuantity.mapM (integer "purchase_limit_quantity")
  return { name := name
           ruleType := ruleType
           thresholdAmount := thresholdAmount
           discountAmount := discountAmount
           buyQuantity := buyQuantity
           getQuantity := getQuantity
           tierQuantity := tierQuantity
           tierUnitPrice := tierUnitPrice
           purchaseLimitQuantity := purchaseLimitQuantity
           appliesToProductId := payload.appliesToProductId
           isActive := true
           priority := payload.priority
           details := none }

def createPromotionRule (payload : PromotionRuleCreateRequest) :
    Service (Nat × PromotionRule) := do
  transactional do
    let rule ← attempt (storeRule payload)
    let ruleId ← insertPromotionRule rule
    return (ruleId, rule)

def isUnsettled (order : Order) : Bool :=
  order.status == .pending || order.status == .partiallyPaid

/-- The orders `expire_unpaid_orders` loads before it opens its transaction. -/
def unpaidOrders (db : Db) (env : Env) : List (Nat × Order) :=
  db.orders.select env.orderRows isUnsettled

def voidReasonTimeout : String := "auto_void_unsettled_timeout"

def overdue (now : Time) (order : Order) : Bool :=
  order.createdAt + timedeltaMinutes orderExpiryMinutes ≤ now

def voided (now : Time) (order : Order) : Order :=
  { order with status := .void, voidedAt := some now, voidReason := some voidReasonTimeout }

def expireLoaded (now : Time) : List (Nat × Order) → Service (Nat × Nat)
  | [] => return (0, 0)
  | (orderId, order) :: rest => do
      if overdue now order then
        updateOrder orderId (Order.flush order (voided now order))
        writeAuditLog none "order.auto_void" "order" orderId (.autoVoid order.orderNo)
        let (checked, voidedCount) ← expireLoaded now rest
        return (checked + 1, voidedCount + 1)
      else
        let (checked, voidedCount) ← expireLoaded now rest
        return (checked + 1, voidedCount)

def expireUnpaidOrders (env : Env) : Service (Nat × Nat) := do
  let db ← get
  transactional (expireLoaded env.now (unpaidOrders db env))

theorem isUnsettled_iff (order : Order) :
    isUnsettled order = true ↔ order.status = .pending ∨ order.status = .partiallyPaid := by
  simp [isUnsettled]

theorem unsettled_alive (order : Order) (unsettled : isUnsettled order = true) :
    order.status ≠ .void := by
  intro void
  simp [isUnsettled, void] at unsettled

/-- The tables that hold what a sale owes, what was paid and what was given back. -/
def ledgerTables (db : Db) : Table Order × Table PaymentRecord × Table AfterSalesOrder :=
  (db.orders, db.paymentRecords, db.afterSalesOrders)

theorem moneyOf_ok (discount : Option ℚ) (amount : ℚ) :
    moneyOf discount = .ok amount ↔ discount.map money = some amount := by
  cases discount <;> simp [moneyOf, orRaise]

theorem addLine_keeps (env : Env) (orderId : Nat) (cart : Cart)
    (inputLine : OrderLineCreateRequest) :
    Keeps ledgerTables (addLine env orderId cart inputLine) := by
  intro db cart' db' added
  simp only [addLine, bind_ok, get_ok, attempt_ok, insertOrderLine_eq, pure_ok] at added
  obtain ⟨_, _, ⟨rfl, rfl⟩, _, _, ⟨_, rfl⟩, _, _, ⟨_, rfl⟩, _, _, ⟨_, rfl⟩, _, _, ⟨_, rfl⟩,
    _, _, ⟨_, rfl⟩, _, _, ⟨_, rfl⟩, _, _, ⟨_, rfl⟩, _, _, inserted, _, rfl⟩ := added
  obtain ⟨_, rfl⟩ := EStateM.Result.ok.inj inserted
  rfl

theorem flushLine_keeps (discounted : DiscountedLine) :
    Keeps ledgerTables (flushLine discounted) := by
  intro db value db' flushed
  simp only [flushLine, bind_ok, attempt_ok, modify_ok] at flushed
  obtain ⟨_, _, ⟨_, rfl⟩, _, _, ⟨_, rfl⟩, rfl⟩ := flushed
  rfl

structure Placed (env : Env) (orderId : Nat) (order : Order) (db db' : Db) : Prop where
  key : orderId = db.orders.nextKey
  orders : db'.orders = db.orders.insert order
  payments : db'.paymentRecords = db.paymentRecords
  afterSales : db'.afterSalesOrders = db.afterSalesOrders
  pending : order.status = .pending
  unpaid : order.paidAmount = Amount.zero
  nonneg : 0 ≤ order.finalAmount.value
  created : order.createdAt = env.now
  unsettled : order.settledAt = none
  unvoided : order.voidedAt = none ∧ order.voidReason = none

theorem placeOrder_ok (env : Env) (actor : User) (payload : OrderCreateRequest) (db db' : Db)
    (orderId : Nat) (placed : placeOrder env actor payload db = .ok orderId db') :
    ∃ order, Placed env orderId order db db' := by
  simp only [placeOrder, bind_ok, get_ok, attempt_ok, raiseIf_ok, not_lt, updateOrder_eq,
    writeAuditLog_eq, pure_ok, EStateM.Result.ok.injEq, and_assoc, exists_and_left,
    exists_eq_left'] at placed
  obtain ⟨_, _, _, _, key, _, inserted, cart, dbLines, added, promo, _, lines, _, nonneg, _, _, _, _, _,
    _, _, _, _, final, storedFinal, _, _, _, dbFlushed, flushed, _, rfl, _, rfl⟩ := placed
  obtain ⟨rfl, rfl⟩ := insertOrder_ok _ db _ key inserted
  have keptLines := keeps_foldlM ledgerTables _ (addLine_keeps env _) payload.lines Cart.empty _ _ _
    added
  have keptFlush := keeps_forM ledgerTables _ flushLine_keeps lines _ _ _ flushed
  simp only [ledgerTables, Prod.mk.injEq] at keptLines keptFlush
  obtain ⟨linesOrders, linesPayments, linesAfterSales⟩ := keptLines
  obtain ⟨flushOrders, flushPayments, flushAfterSales⟩ := keptFlush
  rw [linesOrders, Table.insert_modify_nextKey, Order.flush_loaded] at flushOrders
  have finalNonneg : 0 ≤ final.value := by
    rw [((Amount.store_ok _ _ final).mp storedFinal).1]
    exact money_nonneg _ nonneg
  exact ⟨_, rfl, flushOrders, flushPayments.trans linesPayments,
    flushAfterSales.trans linesAfterSales, rfl, rfl, finalNonneg, rfl, rfl, rfl, rfl⟩

theorem createOrder_ok (env : Env) (actor : User) (payload : OrderCreateRequest) (db db' : Db)
    (response : OrderResponse) (created : createOrder env actor payload db = .ok response db') :
    ∃ orderId order, Placed env orderId order db db' ∧
      response = toOrderResponse db' env orderId order := by
  simp only [createOrder, bind_ok, get_ok, attempt_ok, transactional_ok] at created
  obtain ⟨_, _, ⟨_, rfl⟩, orderId, _, committed, _, _, ⟨rfl, rfl⟩, answered⟩ := created
  obtain ⟨order, placed⟩ := placeOrder_ok env actor payload db _ orderId committed
  rw [placed.key, placed.orders, Table.get?_insert_self] at answered
  obtain ⟨rfl, rfl⟩ := (pure_ok _ _ _ _).mp answered
  exact ⟨orderId, order, placed, by rw [placed.key]⟩

theorem createOrder_allOrNothing (env : Env) (actor : User) (payload : OrderCreateRequest) :
    AllOrNothing (createOrder env actor payload) := by
  intro db db' raised failed
  rcases (bind_error _ _ _ _ _).mp failed with empty | ⟨_, _, passed, failed⟩
  · exact allOrNothing_attempt _ db db' raised empty
  obtain ⟨_, rfl⟩ := (attempt_ok _ _ _ _).mp passed
  rcases (bind_error _ _ _ _ _).mp failed with rolledBack | ⟨orderId, between, committed, failed⟩
  · exact transactional_error _ _ _ _ rolledBack
  -- the row just committed is there to be read back, so nothing is left to raise
  obtain ⟨order, placed⟩ := placeOrder_ok env actor payload _ _ orderId
    ((transactional_ok _ _ _ _).mp committed)
  rcases (bind_error _ _ _ _ _).mp failed with impossible | ⟨_, _, seen, failed⟩
  · cases impossible
  obtain ⟨rfl, rfl⟩ := (get_ok _ _ _).mp seen
  rw [placed.key, placed.orders, Table.get?_insert_self] at failed
  cases failed

def sweepEntry (now : Time) (db : Db) (entry : Nat × Order) : Db :=
  if overdue now entry.2 then
    { db with
      orders := db.orders.modify entry.1 (Order.flush entry.2 (voided now entry.2))
      auditLogs := db.auditLogs.insert
        ⟨none, "order.auto_void", "order", entry.1, .autoVoid entry.2.orderNo⟩ }
  else db

def swept (now : Time) (loaded : List (Nat × Order)) (db : Db) : Db :=
  loaded.foldl (sweepEntry now) db

theorem expireLoaded_eq (now : Time) (loaded : List (Nat × Order)) (db : Db) :
    expireLoaded now loaded db =
      .ok (loaded.length, (loaded.filter (fun entry => overdue now entry.2)).length)
        (swept now loaded db) := by
  induction loaded generalizing db with
  | nil => rfl
  | cons entry rest ih =>
      obtain ⟨orderId, order⟩ := entry
      by_cases late : overdue now order = true
      · simp [expireLoaded, late, run_bind, run_map, ih, swept, sweepEntry]
      · simp [expireLoaded, late, run_bind, ih, swept, sweepEntry]

theorem expireUnpaidOrders_eq (env : Env) (db : Db) :
    expireUnpaidOrders env db =
      .ok ((unpaidOrders db env).length,
          ((unpaidOrders db env).filter (fun entry => overdue env.now entry.2)).length)
        (swept env.now (unpaidOrders db env) db) := by
  simp [expireUnpaidOrders, transactional, run_bind, expireLoaded_eq]

theorem sweepEntry_keeps (now : Time) (db : Db) (entry : Nat × Order) :
    (sweepEntry now db entry).paymentRecords = db.paymentRecords ∧
      (sweepEntry now db entry).afterSalesOrders = db.afterSalesOrders := by
  unfold sweepEntry
  split <;> exact ⟨rfl, rfl⟩

theorem swept_keeps (now : Time) (loaded : List (Nat × Order)) (db : Db) :
    (swept now loaded db).paymentRecords = db.paymentRecords ∧
      (swept now loaded db).afterSalesOrders = db.afterSalesOrders := by
  induction loaded generalizing db with
  | nil => exact ⟨rfl, rfl⟩
  | cons entry rest ih =>
      obtain ⟨payments, afterSales⟩ := ih (sweepEntry now db entry)
      obtain ⟨entryPayments, entryAfterSales⟩ := sweepEntry_keeps now db entry
      exact ⟨payments.trans entryPayments, afterSales.trans entryAfterSales⟩

def sweepOne (now : Time) (order current : Order) : Order :=
  if overdue now order then Order.flush order (voided now order) current else current

def sweepRow (now : Time) (loaded : List (Nat × Order)) (orderId : Nat) (current : Order) : Order :=
  (loaded.lookup orderId).elim current (fun order => sweepOne now order current)

theorem get?_sweepEntry (now : Time) (db : Db) (entry : Nat × Order) (orderId : Nat) :
    (sweepEntry now db entry).orders.get? orderId =
      if orderId = entry.1 then (db.orders.get? orderId).map (sweepOne now entry.2)
      else db.orders.get? orderId := by
  by_cases late : overdue now entry.2 = true
  · have row : sweepOne now entry.2 = Order.flush entry.2 (voided now entry.2) := by
      funext current
      rw [sweepOne, if_pos late]
    simp only [sweepEntry, late, if_true, Table.get?_modify, row]
  · have row : sweepOne now entry.2 = id := by
      funext current
      rw [sweepOne, if_neg late, id]
    simp [sweepEntry, late, row]

theorem sweepRow_hit (now : Time) (entry : Nat × Order) (rest : List (Nat × Order)) :
    sweepRow now (entry :: rest) entry.1 = sweepOne now entry.2 := by
  funext current
  simp [sweepRow, List.lookup]

theorem sweepRow_miss (now : Time) (entry : Nat × Order) (rest : List (Nat × Order))
    (orderId : Nat) (other : orderId ≠ entry.1) :
    sweepRow now (entry :: rest) orderId = sweepRow now rest orderId := by
  funext current
  simp [sweepRow, List.lookup, beq_false_of_ne other]

theorem sweepRow_absent (now : Time) (loaded : List (Nat × Order)) (orderId : Nat)
    (absent : orderId ∉ loaded.map Prod.fst) : sweepRow now loaded orderId = id := by
  funext current
  have missing : loaded.lookup orderId = none := by
    rw [List.lookup_eq_none_iff]
    intro entry member
    have differs : orderId ≠ entry.1 := fun same => absent (same ▸ List.mem_map_of_mem member)
    exact bne_iff_ne.mpr differs
  rw [sweepRow, missing]
  rfl

theorem get?_swept (now : Time) (loaded : List (Nat × Order)) (db : Db) (orderId : Nat)
    (distinct : (loaded.map Prod.fst).Nodup) :
    (swept now loaded db).orders.get? orderId =
      (db.orders.get? orderId).map (sweepRow now loaded orderId) := by
  induction loaded generalizing db with
  | nil => rw [sweepRow_absent now [] orderId (by simp), Option.map_id, id, swept, List.foldl_nil]
  | cons entry rest ih =>
      obtain ⟨fresh, distinct⟩ := List.nodup_cons.mp distinct
      have step := (ih (sweepEntry now db entry) distinct).trans
        (congrArg _ (get?_sweepEntry now db entry orderId))
      refine step.trans ?_
      by_cases here : orderId = entry.1
      · subst here
        rw [if_pos rfl, sweepRow_absent now rest entry.1 fresh, Option.map_id, id, sweepRow_hit]
      · rw [if_neg here, sweepRow_miss now entry rest orderId here]

theorem swept_nextKey (now : Time) (loaded : List (Nat × Order)) (db : Db) :
    (swept now loaded db).orders.nextKey = db.orders.nextKey := by
  induction loaded generalizing db with
  | nil => rfl
  | cons entry rest ih =>
      refine (ih (sweepEntry now db entry)).trans ?_
      unfold sweepEntry
      split
      · exact Table.nextKey_modify _ _ _
      · rfl

def expired (now : Time) (order : Order) : Order :=
  if isUnsettled order = true ∧ overdue now order = true then voided now order else order

theorem expireUnpaidOrders_get? (env : Env) (db : Db) (orderId : Nat) :
    (swept env.now (unpaidOrders db env) db).orders.get? orderId =
      (db.orders.get? orderId).map (expired env.now) := by
  rw [unpaidOrders, get?_swept env.now _ db orderId (Table.select_keys db.orders _ _)]
  cases found : db.orders.get? orderId with
  | none => rfl
  | some order =>
      have loaded := Table.lookup_select db.orders env.orderRows isUnsettled orderId
      rw [found] at loaded
      simp only [Option.map_some, Option.some.injEq, sweepRow, loaded, expired]
      by_cases unsettled : isUnsettled order = true
      · simp [Option.filter, unsettled, sweepOne]
      · simp [Option.filter, unsettled]

end RetailApp
