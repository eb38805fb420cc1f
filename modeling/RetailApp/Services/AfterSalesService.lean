import RetailApp.Schemas
import RetailApp.Session
import RetailApp.Text

namespace RetailApp

open FixedPoint Transaction

def returnWindowDays : Int := 7

def toResponse (entry : Nat × AfterSalesOrder) : AfterSalesResponse where
  id := entry.1
  originalOrderId := entry.2.originalOrderId
  staffUserId := entry.2.staffUserId
  afterSalesType := entry.2.afterSalesType
  status := entry.2.status
  requestedAmount := money entry.2.requestedAmount
  approvedAmount := money entry.2.approvedAmount
  idempotencyKey := entry.2.idempotencyKey
  reason := entry.2.reason
  note := entry.2.note
  createdAt := entry.2.createdAt

def getOriginalOrder (db : Db) (orderId : Nat) : Except Raised Order := do
  let order ← orRaise (db.orders.get? orderId) (.notFound "Original order not found")
  raiseIf (order.status = .void) (.validation "Cannot process after-sales for void order")
  return order

def returnDeadline (order : Order) : Time := order.createdAt + timedeltaDays returnWindowDays

def validateReturnWindow (now : Time) (order : Order) : Except Raised Unit :=
  raiseIf (returnDeadline order < now) (.validation "Return window expired (7 days)")

def isCompleted (kind : AfterSalesType) (orderId : Nat) (record : AfterSalesOrder) : Bool :=
  record.originalOrderId == orderId && record.afterSalesType == kind &&
    record.status == .completed

def totalRefunded (db : Db) (orderId : Nat) : ℚ :=
  money (db.afterSalesOrders.total (isCompleted .refund orderId) (·.approvedAmount.value))

def validateRefundCeiling (db : Db) (orderId : Nat) (order : Order) (refundAmount : ℚ) :
    Except Raised Unit :=
  let alreadyRefunded := totalRefunded db orderId
  raiseIf (money order.finalAmount < alreadyRefunded + refundAmount)
    (.validation (s!"Refund exceeds original order amount: refunded={moneyText alreadyRefunded}, " ++
      s!"requested={moneyText refundAmount}, order_total={moneyText order.finalAmount}"))

def validateIdempotentRefundRequest (existing : AfterSalesOrder)
    (payload : ReverseSettlementRequest) : Except Raised Unit :=
  raiseIf (existing.originalOrderId ≠ payload.originalOrderId ∨
      money existing.requestedAmount ≠ money payload.refundAmount)
    (.conflict "Idempotency key already used with different request payload")

/-- The insert and audit row that `create_return` and `create_exchange` share. -/
def recordAfterSales (actor : User) (action : String) (record : AfterSalesOrder)
    (details : AuditDetails) : Service (Nat × AfterSalesOrder) := do
  let recordId ← insertAfterSalesOrder record
  writeAuditLog (some actor.id) action "after_sales_order" recordId details
  return (recordId, record)

def returnChecks (env : Env) (payload : ReturnRequest) (db : Db) : Except Raised ℚ := do
  let order ← getOriginalOrder db payload.originalOrderId
  validateReturnWindow env.now order
  let refundAmount := money payload.refundAmount
  validateRefundCeiling db payload.originalOrderId order refundAmount
  return refundAmount

def toReturnRecord (env : Env) (actor : User) (payload : ReturnRequest) (refundAmount : ℚ) :
    Except Raised AfterSalesOrder := do
  let requested ← Amount.store "requested_amount" refundAmount
  let approved ← Amount.store "approved_amount" refundAmount
  let reason ← nullableVarchar "reason" 255 payload.reason
  return { originalOrderId := payload.originalOrderId
           staffUserId := actor.id
           afterSalesType := .goodsReturn
           status := .completed
           requestedAmount := requested
           approvedAmount := approved
           idempotencyKey := none
           reason := reason
           note := none
           createdAt := env.now }

def returnCommit (env : Env) (actor : User) (payload : ReturnRequest) (refundAmount : ℚ) :
    Service AfterSalesResponse := do
  let entry ← transactional do
    let record ← attempt (toReturnRecord env actor payload refundAmount)
    recordAfterSales actor "after_sales.return" record
      (.afterSalesReturn payload.originalOrderId refundAmount)
  return toResponse entry

def createReturn (env : Env) (actor : User) (payload : ReturnRequest) :
    Service AfterSalesResponse := do
  let db ← get
  let refundAmount ← attempt (returnChecks env payload db)
  returnCommit env actor payload refundAmount

def exchangeChecks (env : Env) (payload : ExchangeRequest) (db : Db) : Except Raised Unit := do
  let order ← getOriginalOrder db payload.originalOrderId
  validateReturnWindow env.now order

def toExchangeRecord (env : Env) (actor : User) (payload : ExchangeRequest) :
    Except Raised AfterSalesOrder := do
  let note ← nullableVarchar "note" 255 payload.note
  return { originalOrderId := payload.originalOrderId
           staffUserId := actor.id
           afterSalesType := .exchange
           status := .completed
           requestedAmount := Amount.zero
           approvedAmount := Amount.zero
           idempotencyKey := none
           reason := none
           note := note
           createdAt := env.now }

def exchangeCommit (env : Env) (actor : User) (payload : ExchangeRequest) :
    Service AfterSalesResponse := do
  let entry ← transactional do
    let record ← attempt (toExchangeRecord env actor payload)
    recordAfterSales actor "after_sales.exchange" record
      (.afterSalesExchange payload.originalOrderId)
  return toResponse entry

def createExchange (env : Env) (actor : User) (payload : ExchangeRequest) :
    Service AfterSalesResponse := do
  let db ← get
  attempt (exchangeChecks env payload db)
  exchangeCommit env actor payload

/-- The row of the idempotency lookup. The unique key leaves at most one to find. -/
def refundByKey (db : Db) (idempotencyKey : String) : Option (Nat × AfterSalesOrder) :=
  db.afterSalesOrders.entries.find? (fun entry =>
    entry.2.idempotencyKey == some idempotencyKey && entry.2.afterSalesType == .refund)

structure RefundPlan where
  orderId : Nat
  order : Order
  refundAmount : ℚ

def refundLookup (payload : ReverseSettlementRequest) (order : Order) :
    Option (Nat × AfterSalesOrder) → Except Raised (AfterSalesResponse ⊕ RefundPlan)
  | some existing => do
      validateIdempotentRefundRequest existing.2 payload
      return .inl (toResponse existing)
  | none => return .inr ⟨payload.originalOrderId, order, money payload.refundAmount⟩

/-- `reverse_settlement_refund` up to its transaction: it only reads, and answers at once
when the key has been used for the same request. -/
def refundChecks (env : Env) (payload : ReverseSettlementRequest) (db : Db) :
    Except Raised (AfterSalesResponse ⊕ RefundPlan) := do
  let order ← getOriginalOrder db payload.originalOrderId
  validateReturnWindow env.now order
  raiseIf (order.status ≠ .partiallyPaid ∧ order.status ≠ .settled)
    (.validation "Reverse settlement requires paid or partially paid order")
  let refundAmount := money payload.refundAmount
  raiseIf (refundAmount ≤ 0) (.validation "Refund amount must be greater than zero")
  raiseIf (money order.paidAmount < refundAmount)
    (.validation s!"Refund amount exceeds paid amount: paid={moneyText order.paidAmount}, requested={moneyText refundAmount}")
  validateRefundCeiling db payload.originalOrderId order refundAmount
  refundLookup payload order (refundByKey db payload.idempotencyKey)

def toRefundRecord (env : Env) (actor : User) (payload : ReverseSettlementRequest)
    (refundAmount : ℚ) : Except Raised AfterSalesOrder := do
  let requested ← Amount.store "requested_amount" refundAmount
  let approved ← Amount.store "approved_amount" refundAmount
  let reason ← nullableVarchar "reason" 255 payload.reason
  return { originalOrderId := payload.originalOrderId
           staffUserId := actor.id
           afterSalesType := .refund
           status := .completed
           requestedAmount := requested
           approvedAmount := approved
           idempotencyKey := some payload.idempotencyKey
           reason := reason
           note := none
           createdAt := env.now }

/-- The flush of a refund and the handler of its IntegrityError. The failed flush has rolled
the session's transaction back, so the SELECT the handler begins with raises
PendingRollbackError and none of its answers is reached. -/
def flushRefund (record : AfterSalesOrder) : Service Nat := fun db =>
  match insertAfterSalesOrder record db with
  | .error (.integrityError _) _ => .error .pendingRollbackError db
  | outcome => outcome

/-- The attributes a refund assigns once `paid_amount` is known. -/
def refundedOrder (order : Order) (paidAmount : Amount) : Order :=
  if paidAmount.value = 0 then
    { order with paidAmount := paidAmount, status := .pending, settledAt := none }
  else if paidAmount.value < money order.finalAmount then
    { order with paidAmount := paidAmount, status := .partiallyPaid, settledAt := none }
  else
    { order with paidAmount := paidAmount, status := .settled }

def refundWrites (env : Env) (actor : User) (payload : ReverseSettlementRequest)
    (plan : RefundPlan) : Service (Nat × AfterSalesOrder) := do
  let record ← attempt (toRefundRecord env actor payload plan.refundAmount)
  let recordId ← flushRefund record
  let newPaidAmount := money (plan.order.paidAmount.value - plan.refundAmount)
  attempt (raiseIf (newPaidAmount < 0) (.security "Internal payment inconsistency detected"))
  let paidAmount ← attempt (Amount.store "paid_amount" newPaidAmount)
  updateOrder plan.orderId (Order.flush plan.order (refundedOrder plan.order paidAmount))
  writeAuditLog (some actor.id) "after_sales.reverse_settlement" "after_sales_order" recordId
    (.reverseSettlement plan.orderId plan.refundAmount payload.idempotencyKey newPaidAmount)
  return (recordId, record)

def refundCommit (env : Env) (actor : User) (payload : ReverseSettlementRequest)
    (plan : RefundPlan) : Service AfterSalesResponse := do
  let entry ← transactional (refundWrites env actor payload plan)
  return toResponse entry

/-- What `reverse_settlement_refund` does with the answer of its checks. -/
def refundFinish (env : Env) (actor : User) (payload : ReverseSettlementRequest) :
    AfterSalesResponse ⊕ RefundPlan → Service AfterSalesResponse
  | .inl existing => pure existing
  | .inr plan => refundCommit env actor payload plan

def reverseSettlementRefund (env : Env) (actor : User) (payload : ReverseSettlementRequest) :
    Service AfterSalesResponse := do
  let db ← get
  let answer ← attempt (refundChecks env payload db)
  refundFinish env actor payload answer

theorem refundedOrder_keeps (order : Order) (paidAmount : Amount) :
    (refundedOrder order paidAmount).paidAmount = paidAmount ∧
      (refundedOrder order paidAmount).finalAmount = order.finalAmount ∧
      (refundedOrder order paidAmount).createdAt = order.createdAt ∧
      (refundedOrder order paidAmount).voidedAt = order.voidedAt ∧
      (refundedOrder order paidAmount).voidReason = order.voidReason := by
  unfold refundedOrder
  split
  · exact ⟨rfl, rfl, rfl, rfl, rfl⟩
  · split <;> exact ⟨rfl, rfl, rfl, rfl, rfl⟩

theorem refundedOrder_status (order : Order) (paidAmount : Amount) :
    (refundedOrder order paidAmount).status =
      if paidAmount.value = 0 then .pending
      else if paidAmount.value < order.finalAmount.value then .partiallyPaid
      else .settled := by
  unfold refundedOrder
  rw [money_amount]
  split
  · rfl
  · split <;> rfl

theorem refundedOrder_alive (order : Order) (paidAmount : Amount) :
    (refundedOrder order paidAmount).status ≠ .void := by
  rw [refundedOrder_status]
  split
  · simp
  · split <;> simp

/-- The third branch of a refund is the one that keeps `settled_at`; an amount below the
order's total never reaches it. -/
theorem refundedOrder_settledAt (order : Order) (paidAmount : Amount)
    (below : paidAmount.value < order.finalAmount.value) :
    (refundedOrder order paidAmount).settledAt = none := by
  unfold refundedOrder
  split
  · rfl
  · rw [money_amount, if_pos below]

theorem getOriginalOrder_ok (db : Db) (orderId : Nat) (order : Order) :
    getOriginalOrder db orderId = .ok order ↔
      db.orders.get? orderId = some order ∧ order.status ≠ .void := by
  simp only [getOriginalOrder, bind_except_ok, orRaise_ok, raiseIf_ok, pure_except_ok]
  constructor
  · rintro ⟨_, found, _, notVoid, rfl⟩
    exact ⟨found, notVoid⟩
  · rintro ⟨found, notVoid⟩
    exact ⟨order, found, (), notVoid, rfl⟩

theorem validateReturnWindow_ok (now : Time) (order : Order) (value : Unit) :
    validateReturnWindow now order = .ok value ↔ now ≤ returnDeadline order := by
  rw [validateReturnWindow, raiseIf_ok, not_lt]

theorem totalRefunded_eq (db : Db) (orderId : Nat) :
    totalRefunded db orderId =
      db.afterSalesOrders.total (isCompleted .refund orderId) (·.approvedAmount.value) := by
  apply money_of_onGrid
  apply OnGrid.sum
  intro amount member
  obtain ⟨record, _, rfl⟩ := List.mem_map.mp member
  exact record.approvedAmount.cents

theorem validateRefundCeiling_ok (db : Db) (orderId : Nat) (order : Order) (refundAmount : ℚ)
    (value : Unit) :
    validateRefundCeiling db orderId order refundAmount = .ok value ↔
      totalRefunded db orderId + refundAmount ≤ order.finalAmount.value := by
  rw [validateRefundCeiling, raiseIf_ok, not_lt, money_amount]

@[simp] theorem keyTaken_none (db : Db) : keyTaken db none = false := rfl

def recorded (actor : User) (action : String) (record : AfterSalesOrder)
    (details : AuditDetails) (db : Db) : Db :=
  { db with
    afterSalesOrders := db.afterSalesOrders.insert record
    auditLogs := db.auditLogs.insert
      ⟨some actor.id, action, "after_sales_order", db.afterSalesOrders.nextKey, details⟩ }

theorem recordAfterSales_ok (actor : User) (action : String) (record : AfterSalesOrder)
    (details : AuditDetails) (db db' : Db) (entry : Nat × AfterSalesOrder) :
    recordAfterSales actor action record details db = .ok entry db' ↔
      keyTaken db record.idempotencyKey = false ∧
        entry = (db.afterSalesOrders.nextKey, record) ∧
        db' = recorded actor action record details db := by
  simp only [recordAfterSales, bind_ok, insertAfterSalesOrder_ok_iff, writeAuditLog_eq, pure_ok]
  constructor
  · rintro ⟨_, _, ⟨free, rfl, rfl⟩, _, _, logged, rfl, rfl⟩
    obtain ⟨_, rfl⟩ := EStateM.Result.ok.inj logged
    exact ⟨free, rfl, rfl⟩
  · rintro ⟨free, rfl, rfl⟩
    exact ⟨_, _, ⟨free, rfl, rfl⟩, _, _, rfl, rfl, rfl⟩

structure ReturnAllowed (env : Env) (payload : ReturnRequest) (db : Db) (order : Order) : Prop where
  loaded : db.orders.get? payload.originalOrderId = some order
  notVoid : order.status ≠ .void
  window : env.now ≤ returnDeadline order
  ceiling : totalRefunded db payload.originalOrderId + money payload.refundAmount ≤
    order.finalAmount.value

theorem returnChecks_ok (env : Env) (payload : ReturnRequest) (db : Db) (refundAmount : ℚ) :
    returnChecks env payload db = .ok refundAmount ↔
      refundAmount = money payload.refundAmount ∧ ∃ order, ReturnAllowed env payload db order := by
  simp only [returnChecks, bind_except_ok, getOriginalOrder_ok, validateReturnWindow_ok,
    validateRefundCeiling_ok, pure_except_ok]
  constructor
  · rintro ⟨order, ⟨loaded, notVoid⟩, _, window, _, ceiling, rfl⟩
    exact ⟨rfl, order, loaded, notVoid, window, ceiling⟩
  · rintro ⟨rfl, order, loaded, notVoid, window, ceiling⟩
    exact ⟨order, ⟨loaded, notVoid⟩, (), window, (), ceiling, rfl⟩

def ReasonFits (reason : Option String) : Prop :=
  ∀ given, reason = some given → fitsVarchar 255 given

theorem record_stored_iff (build : Amount → Amount → Option String → AfterSalesOrder)
    (refundAmount : ℚ) (reason : Option String) (fits : |money refundAmount| < 10 ^ 10) :
    (∃ record, (do
        let requested ← Amount.store "requested_amount" refundAmount
        let approved ← Amount.store "approved_amount" refundAmount
        let stored ← nullableVarchar "reason" 255 reason
        return build requested approved stored) = Except.ok record) ↔ ReasonFits reason := by
  rw [ReasonFits, ← nullableVarchar_ok_iff "reason"]
  simp only [bind_except_ok, pure_except_ok]
  constructor
  · rintro ⟨_, _, _, _, _, stored, given, _⟩
    exact ⟨stored, given⟩
  · rintro ⟨stored, given⟩
    have store (column : String) : Amount.store column refundAmount =
        .ok ⟨money refundAmount, money_onGrid refundAmount, fits⟩ :=
      (Amount.store_ok _ _ _).mpr ⟨rfl, fits⟩
    exact ⟨_, _, store _, _, store _, stored, given, rfl⟩

theorem toReturnRecord_ok (env : Env) (actor : User) (payload : ReturnRequest) (refundAmount : ℚ)
    (record : AfterSalesOrder)
    (stored : toReturnRecord env actor payload refundAmount = .ok record) :
    record.originalOrderId = payload.originalOrderId ∧ record.afterSalesType = .goodsReturn ∧
      record.status = .completed ∧ record.approvedAmount.value = money refundAmount ∧
      record.idempotencyKey = none ∧ ReasonFits payload.reason := by
  simp only [toReturnRecord, bind_except_ok, pure_except_ok, Amount.store_ok] at stored
  obtain ⟨_, _, approved, ⟨value, _⟩, reason, given, rfl⟩ := stored
  exact ⟨rfl, rfl, rfl, value, rfl, (nullableVarchar_ok_iff _ _ _).mp ⟨reason, given⟩⟩

theorem createReturn_ok (env : Env) (actor : User) (payload : ReturnRequest) (db db' : Db)
    (response : AfterSalesResponse) :
    createReturn env actor payload db = .ok response db' ↔
      ∃ order record, ReturnAllowed env payload db order ∧
        toReturnRecord env actor payload (money payload.refundAmount) = .ok record ∧
        response = toResponse (db.afterSalesOrders.nextKey, record) ∧
        db' = recorded actor "after_sales.return" record
          (.afterSalesReturn payload.originalOrderId (money payload.refundAmount)) db := by
  refine (checked_ok (returnChecks env payload) (returnCommit env actor payload) db db'
    response).trans ?_
  simp only [returnChecks_ok, returnCommit, bind_ok, transactional_ok, attempt_ok,
    recordAfterSales_ok, pure_ok]
  constructor
  · rintro ⟨_, ⟨rfl, order, allowed⟩, _, _, ⟨record, _, ⟨stored, rfl⟩, _, rfl, rfl⟩, rfl, rfl⟩
    exact ⟨order, record, allowed, stored, rfl, rfl⟩
  · rintro ⟨order, record, allowed, stored, rfl, rfl⟩
    have keyless := (toReturnRecord_ok env actor payload _ record stored).2.2.2.2.1
    exact ⟨_, ⟨rfl, order, allowed⟩, _, _, ⟨record, db, ⟨stored, rfl⟩, by simp [keyless], rfl, rfl⟩,
      rfl, rfl⟩

theorem createReturn_allOrNothing (env : Env) (actor : User) (payload : ReturnRequest) :
    AllOrNothing (createReturn env actor payload) :=
  allOrNothing_checked (returnChecks env payload) (returnCommit env actor payload)
    (fun db _ _ => allOrNothing_answer _ toResponse (allOrNothing_transactional _) db)

theorem toExchangeRecord_ok (env : Env) (actor : User) (payload : ExchangeRequest)
    (record : AfterSalesOrder) (stored : toExchangeRecord env actor payload = .ok record) :
    record.originalOrderId = payload.originalOrderId ∧ record.afterSalesType = .exchange ∧
      record.idempotencyKey = none := by
  simp only [toExchangeRecord, bind_except_ok, pure_except_ok] at stored
  obtain ⟨_, _, rfl⟩ := stored
  exact ⟨rfl, rfl, rfl⟩

theorem createExchange_ok (env : Env) (actor : User) (payload : ExchangeRequest) (db db' : Db)
    (response : AfterSalesResponse) :
    createExchange env actor payload db = .ok response db' ↔
      ∃ order record, (db.orders.get? payload.originalOrderId = some order ∧
          order.status ≠ .void ∧ env.now ≤ returnDeadline order) ∧
        toExchangeRecord env actor payload = .ok record ∧
        response = toResponse (db.afterSalesOrders.nextKey, record) ∧
        db' = recorded actor "after_sales.exchange" record
          (.afterSalesExchange payload.originalOrderId) db := by
  refine (checked_ok (exchangeChecks env payload) (fun _ => exchangeCommit env actor payload)
    db db' response).trans ?_
  simp only [exchangeChecks, exchangeCommit, bind_except_ok, getOriginalOrder_ok,
    validateReturnWindow_ok, bind_ok, transactional_ok, attempt_ok, recordAfterSales_ok, pure_ok]
  constructor
  · rintro ⟨_, ⟨order, ⟨loaded, notVoid⟩, window⟩, _, _, ⟨record, _, ⟨stored, rfl⟩, _, rfl, rfl⟩,
      rfl, rfl⟩
    exact ⟨order, record, ⟨loaded, notVoid, window⟩, stored, rfl, rfl⟩
  · rintro ⟨order, record, ⟨loaded, notVoid, window⟩, stored, rfl, rfl⟩
    have keyless := (toExchangeRecord_ok env actor payload record stored).2.2
    exact ⟨(), ⟨order, ⟨loaded, notVoid⟩, window⟩, _, _,
      ⟨record, db, ⟨stored, rfl⟩, by simp [keyless], rfl, rfl⟩, rfl, rfl⟩

theorem createExchange_allOrNothing (env : Env) (actor : User) (payload : ExchangeRequest) :
    AllOrNothing (createExchange env actor payload) :=
  allOrNothing_checked (exchangeChecks env payload) (fun _ => exchangeCommit env actor payload)
    (fun db _ _ => allOrNothing_answer _ toResponse (allOrNothing_transactional _) db)

/-- When `reverse_settlement_refund` lets a request through to its key lookup. -/
structure RefundAllowed (env : Env) (payload : ReverseSettlementRequest) (db : Db)
    (order : Order) : Prop where
  loaded : db.orders.get? payload.originalOrderId = some order
  window : env.now ≤ returnDeadline order
  paid : order.status = .partiallyPaid ∨ order.status = .settled
  positive : 0 < money payload.refundAmount
  held : money payload.refundAmount ≤ order.paidAmount.value
  ceiling : totalRefunded db payload.originalOrderId + money payload.refundAmount ≤
    order.finalAmount.value

theorem refundChecks_ok (env : Env) (payload : ReverseSettlementRequest) (db : Db)
    (answer : AfterSalesResponse ⊕ RefundPlan) :
    refundChecks env payload db = .ok answer ↔
      ∃ order, RefundAllowed env payload db order ∧
        refundLookup payload order (refundByKey db payload.idempotencyKey) = .ok answer := by
  have paid_iff (status : OrderStatus) : ¬(status ≠ .partiallyPaid ∧ status ≠ .settled) ↔
      status = .partiallyPaid ∨ status = .settled := by
    cases status <;> simp
  simp only [refundChecks, bind_except_ok, getOriginalOrder_ok, validateReturnWindow_ok,
    validateRefundCeiling_ok, raiseIf_ok, not_le, not_lt, money_amount, paid_iff]
  constructor
  · rintro ⟨order, ⟨loaded, _⟩, _, window, _, paid, _, positive, _, held, _, ceiling, looked⟩
    exact ⟨order, ⟨loaded, window, paid, positive, held, ceiling⟩, looked⟩
  · rintro ⟨order, ⟨loaded, window, paid, positive, held, ceiling⟩, looked⟩
    have notVoid : order.status ≠ .void := by
      rcases paid with status | status <;> simp [status]
    exact ⟨order, ⟨loaded, notVoid⟩, (), window, (), paid, (), positive, (), held, (), ceiling,
      looked⟩

theorem refundByKey_unused (db : Db) (idempotencyKey : String)
    (unused : keyTaken db (some idempotencyKey) = false) :
    refundByKey db idempotencyKey = none := by
  rw [refundByKey, List.find?_eq_none]
  intro entry member matched
  have present := (Table.mem_entries _ entry.1 entry.2).mp member
  have row := (Table.mem_rows _ entry.2).mpr ⟨entry.1, present⟩
  have taken : keyTaken db (some idempotencyKey) = true := by
    rw [keyTaken, Option.isSome_some, Bool.true_and, List.any_eq_true]
    exact ⟨entry.2, row, (Bool.and_eq_true_iff.mp matched).1⟩
  rw [unused] at taken
  cases taken

theorem refundByKey_insert (db db' : Db) (idempotencyKey : String) (record : AfterSalesOrder)
    (unused : keyTaken db (some idempotencyKey) = false)
    (keyed : record.idempotencyKey = some idempotencyKey) (kind : record.afterSalesType = .refund)
    (afterSales : db'.afterSalesOrders = db.afterSalesOrders.insert record) :
    refundByKey db' idempotencyKey = some (db.afterSalesOrders.nextKey, record) := by
  have before := refundByKey_unused db idempotencyKey unused
  rw [refundByKey] at before
  rw [refundByKey, afterSales, Table.entries_insert, List.find?_append, before]
  simp [keyed, kind]

theorem refundLookup_inl (payload : ReverseSettlementRequest) (order : Order)
    (found : Option (Nat × AfterSalesOrder)) (response : AfterSalesResponse) :
    refundLookup payload order found = .ok (.inl response) ↔
      ∃ existing, found = some existing ∧
        existing.2.originalOrderId = payload.originalOrderId ∧
        existing.2.requestedAmount.value = money payload.refundAmount ∧
        response = toResponse existing := by
  cases found with
  | none => simp [refundLookup, pure_except_ok]
  | some existing =>
      simp only [refundLookup, validateIdempotentRefundRequest, bind_except_ok, raiseIf_ok,
        pure_except_ok, Sum.inl.injEq, money_amount, not_or, not_not, Option.some.injEq]
      constructor
      · rintro ⟨_, ⟨sameOrder, sameAmount⟩, rfl⟩
        exact ⟨existing, rfl, sameOrder, sameAmount, rfl⟩
      · rintro ⟨_, rfl, sameOrder, sameAmount, rfl⟩
        exact ⟨(), ⟨sameOrder, sameAmount⟩, rfl⟩

theorem refundLookup_inr (payload : ReverseSettlementRequest) (order : Order)
    (found : Option (Nat × AfterSalesOrder)) (plan : RefundPlan) :
    refundLookup payload order found = .ok (.inr plan) ↔
      found = none ∧ plan = ⟨payload.originalOrderId, order, money payload.refundAmount⟩ := by
  cases found with
  | none =>
      rw [refundLookup, pure_except_ok]
      simp [eq_comm]
  | some existing =>
      simp only [refundLookup, bind_except_ok, pure_except_ok]
      simp

theorem flushRefund_ok (record : AfterSalesOrder) (db db' : Db) (recordId : Nat) :
    flushRefund record db = .ok recordId db' ↔
      keyTaken db record.idempotencyKey = false ∧ recordId = db.afterSalesOrders.nextKey ∧
        db' = { db with afterSalesOrders := db.afterSalesOrders.insert record } := by
  rw [← insertAfterSalesOrder_ok_iff, flushRefund]
  split
  · rename_i failed
    simp [failed]
  · rfl

structure RefundPlan.Stores (env : Env) (actor : User) (payload : ReverseSettlementRequest)
    (plan : RefundPlan) (record : AfterSalesOrder) (paidAmount : Amount) : Prop where
  record : toRefundRecord env actor payload plan.refundAmount = .ok record
  nonneg : 0 ≤ money (plan.order.paidAmount.value - plan.refundAmount)
  paid : Amount.store "paid_amount" (money (plan.order.paidAmount.value - plan.refundAmount)) =
    .ok paidAmount

def RefundPlan.written (actor : User) (payload : ReverseSettlementRequest) (plan : RefundPlan)
    (record : AfterSalesOrder) (paidAmount : Amount) (db : Db) : Db :=
  { db with
    afterSalesOrders := db.afterSalesOrders.insert record
    orders := db.orders.modify plan.orderId
      (Order.flush plan.order (refundedOrder plan.order paidAmount))
    auditLogs := db.auditLogs.insert
      ⟨some actor.id, "after_sales.reverse_settlement", "after_sales_order",
        db.afterSalesOrders.nextKey,
        .reverseSettlement plan.orderId plan.refundAmount payload.idempotencyKey
          (money (plan.order.paidAmount.value - plan.refundAmount))⟩ }

theorem toRefundRecord_ok (env : Env) (actor : User) (payload : ReverseSettlementRequest)
    (refundAmount : ℚ) (record : AfterSalesOrder)
    (stored : toRefundRecord env actor payload refundAmount = .ok record) :
    record.originalOrderId = payload.originalOrderId ∧ record.afterSalesType = .refund ∧
      record.status = .completed ∧ record.requestedAmount.value = money refundAmount ∧
      record.approvedAmount.value = money refundAmount ∧
      record.idempotencyKey = some payload.idempotencyKey ∧ ReasonFits payload.reason := by
  simp only [toRefundRecord, bind_except_ok, pure_except_ok, Amount.store_ok] at stored
  obtain ⟨requested, ⟨asked, _⟩, approved, ⟨value, _⟩, reason, given, rfl⟩ := stored
  exact ⟨rfl, rfl, rfl, asked, value, rfl, (nullableVarchar_ok_iff _ _ _).mp ⟨reason, given⟩⟩

theorem refundWrites_ok (env : Env) (actor : User) (payload : ReverseSettlementRequest)
    (plan : RefundPlan) (db db' : Db) (entry : Nat × AfterSalesOrder) :
    refundWrites env actor payload plan db = .ok entry db' ↔
      ∃ record paidAmount, plan.Stores env actor payload record paidAmount ∧
        keyTaken db (some payload.idempotencyKey) = false ∧
        entry = (db.afterSalesOrders.nextKey, record) ∧
        db' = plan.written actor payload record paidAmount db := by
  simp only [refundWrites, bind_ok, attempt_ok, flushRefund_ok, raiseIf_ok, not_lt,
    updateOrder_eq, writeAuditLog_eq, pure_ok]
  constructor
  · rintro ⟨record, _, ⟨stored, rfl⟩, _, _, ⟨free, rfl, rfl⟩, _, _, ⟨nonneg, rfl⟩, paidAmount, _,
      ⟨paid, rfl⟩, _, _, updated, _, _, logged, rfl, rfl⟩
    obtain ⟨_, rfl⟩ := EStateM.Result.ok.inj updated
    obtain ⟨_, rfl⟩ := EStateM.Result.ok.inj logged
    rw [(toRefundRecord_ok env actor payload _ record stored).2.2.2.2.2.1] at free
    exact ⟨record, paidAmount, ⟨stored, nonneg, paid⟩, free, rfl, rfl⟩
  · rintro ⟨record, paidAmount, ⟨stored, nonneg, paid⟩, free, rfl, rfl⟩
    rw [← (toRefundRecord_ok env actor payload _ record stored).2.2.2.2.2.1] at free
    exact ⟨record, db, ⟨stored, rfl⟩, _, _, ⟨free, rfl, rfl⟩, (), _, ⟨nonneg, rfl⟩, paidAmount, _,
      ⟨paid, rfl⟩, (), _, rfl, (), _, rfl, rfl, rfl⟩

theorem refundCommit_ok (env : Env) (actor : User) (payload : ReverseSettlementRequest)
    (plan : RefundPlan) (db db' : Db) (response : AfterSalesResponse) :
    refundCommit env actor payload plan db = .ok response db' ↔
      ∃ record paidAmount, plan.Stores env actor payload record paidAmount ∧
        keyTaken db (some payload.idempotencyKey) = false ∧
        response = toResponse (db.afterSalesOrders.nextKey, record) ∧
        db' = plan.written actor payload record paidAmount db := by
  simp only [refundCommit, bind_ok, transactional_ok, refundWrites_ok, pure_ok]
  constructor
  · rintro ⟨_, _, ⟨record, paidAmount, stores, free, rfl, rfl⟩, rfl, rfl⟩
    exact ⟨record, paidAmount, stores, free, rfl, rfl⟩
  · rintro ⟨record, paidAmount, stores, free, rfl, rfl⟩
    exact ⟨_, _, ⟨record, paidAmount, stores, free, rfl, rfl⟩, rfl, rfl⟩

theorem reverseSettlementRefund_ok (env : Env) (actor : User) (payload : ReverseSettlementRequest)
    (db db' : Db) (response : AfterSalesResponse) :
    reverseSettlementRefund env actor payload db = .ok response db' ↔
      (refundChecks env payload db = .ok (.inl response) ∧ db' = db) ∨
        ∃ plan, refundChecks env payload db = .ok (.inr plan) ∧
          refundCommit env actor payload plan db = .ok response db' := by
  refine (checked_ok (refundChecks env payload) (refundFinish env actor payload) db db'
    response).trans ?_
  simp only [Sum.exists, refundFinish, pure_ok]
  constructor
  · rintro (⟨_, checked, rfl, rfl⟩ | committed)
    · exact .inl ⟨checked, rfl⟩
    · exact .inr committed
  · rintro (⟨checked, rfl⟩ | committed)
    · exact .inl ⟨response, checked, rfl, rfl⟩
    · exact .inr committed

theorem reverseSettlementRefund_allOrNothing (env : Env) (actor : User)
    (payload : ReverseSettlementRequest) :
    AllOrNothing (reverseSettlementRefund env actor payload) := by
  apply allOrNothing_checked (refundChecks env payload) (refundFinish env actor payload)
  intro db answer _
  cases answer with
  | inl existing => exact allOrNothing_pure existing db
  | inr plan => exact allOrNothing_answer _ toResponse (allOrNothing_transactional _) db

end RetailApp
