import RetailApp.Library.Runs
import RetailApp.Services.AfterSalesService
import RetailApp.Services.OrderService
import RetailApp.Services.PaymentService

/-! Runs of service calls, one after another, and what one call can do to the tables that
hold orders, payments and after-sales records. -/

namespace RetailApp.Ledger

open FixedPoint Transaction

inductive Call where
  | createOrder (env : Env) (actor : User) (payload : OrderCreateRequest)
  | settleOrder (env : Env) (actor : User) (payload : PaymentSettleRequest)
  | createReturn (env : Env) (actor : User) (payload : ReturnRequest)
  | createExchange (env : Env) (actor : User) (payload : ExchangeRequest)
  | reverseSettlementRefund (env : Env) (actor : User) (payload : ReverseSettlementRequest)
  | expireUnpaidOrders (env : Env)

def Call.env : Call → Env
  | .createOrder env _ _ => env
  | .settleOrder env _ _ => env
  | .createReturn env _ _ => env
  | .createExchange env _ _ => env
  | .reverseSettlementRefund env _ _ => env
  | .expireUnpaidOrders env => env

def step (db : Db) : Call → Db
  | .createOrder env actor payload => after (RetailApp.createOrder env actor payload) db
  | .settleOrder env actor payload => after (RetailApp.settleOrder env actor payload) db
  | .createReturn env actor payload => after (RetailApp.createReturn env actor payload) db
  | .createExchange env actor payload => after (RetailApp.createExchange env actor payload) db
  | .reverseSettlementRefund env actor payload =>
      after (RetailApp.reverseSettlementRefund env actor payload) db
  | .expireUnpaidOrders env => after (RetailApp.expireUnpaidOrders env) db

def run (db : Db) (calls : List Call) : Db := Runs.run step db calls

structure Rewritten (orderId : Nat) (assigned : Order) (db db' : Db) : Prop where
  row : ∀ other, db'.orders.get? other =
    if other = orderId then some assigned else db.orders.get? other
  nextKey : db'.orders.nextKey = db.orders.nextKey

structure Settled (env : Env) (payload : PaymentSettleRequest) (order : Order)
    (records : List PaymentRecord) (paidAmount : Amount) (db db' : Db) : Prop where
  loaded : db.orders.get? payload.orderId = some order
  unsettled : order.status = .pending ∨ order.status = .partiallyPaid
  owned : ∀ record ∈ records, record.orderId = payload.orderId
  positive : 0 < (records.map (·.amount.value)).sum
  paid : paidAmount.value = order.paidAmount.value + (records.map (·.amount.value)).sum
  covered : paidAmount.value ≤ order.finalAmount.value
  orders : Rewritten payload.orderId (paidOrder env.now order paidAmount) db db'
  payments : db'.paymentRecords = db.paymentRecords.insertAll records
  afterSales : db'.afterSalesOrders = db.afterSalesOrders

structure Filed (record : AfterSalesOrder) (db db' : Db) : Prop where
  orders : db'.orders = db.orders
  payments : db'.paymentRecords = db.paymentRecords
  afterSales : db'.afterSalesOrders = db.afterSalesOrders.insert record

structure Returned (env : Env) (payload : ReturnRequest) (order : Order)
    (record : AfterSalesOrder) (db db' : Db) : Prop where
  allowed : ReturnAllowed env payload db order
  target : record.originalOrderId = payload.originalOrderId
  kind : record.afterSalesType = .goodsReturn
  completed : record.status = .completed
  amount : record.approvedAmount.value = money payload.refundAmount
  keyless : record.idempotencyKey = none
  fits : ReasonFits payload.reason
  filed : Filed record db db'

structure Exchanged (payload : ExchangeRequest) (order : Order) (record : AfterSalesOrder)
    (db db' : Db) : Prop where
  loaded : db.orders.get? payload.originalOrderId = some order
  target : record.originalOrderId = payload.originalOrderId
  kind : record.afterSalesType = .exchange
  keyless : record.idempotencyKey = none
  filed : Filed record db db'

structure Refunded (env : Env) (payload : ReverseSettlementRequest) (order : Order)
    (record : AfterSalesOrder) (paidAmount : Amount) (db db' : Db) : Prop where
  allowed : RefundAllowed env payload db order
  target : record.originalOrderId = payload.originalOrderId
  kind : record.afterSalesType = .refund
  completed : record.status = .completed
  requested : record.requestedAmount.value = money payload.refundAmount
  amount : record.approvedAmount.value = money payload.refundAmount
  keyed : record.idempotencyKey = some payload.idempotencyKey
  fresh : keyTaken db (some payload.idempotencyKey) = false
  fits : ReasonFits payload.reason
  paid : paidAmount.value = order.paidAmount.value - money payload.refundAmount
  orders : Rewritten payload.originalOrderId (refundedOrder order paidAmount) db db'
  payments : db'.paymentRecords = db.paymentRecords
  afterSales : db'.afterSalesOrders = db.afterSalesOrders.insert record

structure Swept (env : Env) (db db' : Db) : Prop where
  rows : ∀ orderId, db'.orders.get? orderId = (db.orders.get? orderId).map (expired env.now)
  nextKey : db'.orders.nextKey = db.orders.nextKey
  payments : db'.paymentRecords = db.paymentRecords
  afterSales : db'.afterSalesOrders = db.afterSalesOrders

/-- Everything a call can do to the ledger tables: nothing, or the one change of its kind. -/
inductive Change (db db' : Db) : Call → Prop
  | unchanged (call : Call) (same : ledgerTables db' = ledgerTables db) : Change db db' call
  | placed (env : Env) (actor : User) (payload : OrderCreateRequest) (orderId : Nat)
      (order : Order) (change : Placed env orderId order db db') :
      Change db db' (.createOrder env actor payload)
  | settled (env : Env) (actor : User) (payload : PaymentSettleRequest) (order : Order)
      (records : List PaymentRecord) (paidAmount : Amount)
      (change : Settled env payload order records paidAmount db db') :
      Change db db' (.settleOrder env actor payload)
  | returned (env : Env) (actor : User) (payload : ReturnRequest) (order : Order)
      (record : AfterSalesOrder) (change : Returned env payload order record db db') :
      Change db db' (.createReturn env actor payload)
  | exchanged (env : Env) (actor : User) (payload : ExchangeRequest) (order : Order)
      (record : AfterSalesOrder) (change : Exchanged payload order record db db') :
      Change db db' (.createExchange env actor payload)
  | refunded (env : Env) (actor : User) (payload : ReverseSettlementRequest) (order : Order)
      (record : AfterSalesOrder) (paidAmount : Amount)
      (change : Refunded env payload order record paidAmount db db') :
      Change db db' (.reverseSettlementRefund env actor payload)
  | swept (env : Env) (change : Swept env db db') : Change db db' (.expireUnpaidOrders env)

theorem rewritten_of_flush (db db' : Db) (orderId : Nat) (order assigned : Order)
    (loaded : db.orders.get? orderId = some order)
    (orders : db'.orders = db.orders.modify orderId (Order.flush order assigned)) :
    Rewritten orderId assigned db db' := by
  constructor
  · intro other
    rw [orders, Table.get?_modify_of_some _ _ _ order loaded, Order.flush_loaded]
  · rw [orders, Table.nextKey_modify]

theorem records_amounts (env : Env) (actor : User) (orderId : Nat) (lines : List NormalizedLine)
    (records : List PaymentRecord) (cents : ∀ line ∈ lines, OnGrid 100 line.amount)
    (stored : lines.mapM (toPaymentRecord env actor orderId) = .ok records) :
    records.map (·.amount.value) = lines.map (·.amount) := by
  have related := (mapM_except_ok _ lines records).mp stored
  clear stored
  induction related with
  | nil => rfl
  | @cons line record lines records first others ih =>
      have amount := (toPaymentRecord_ok env actor orderId line record first).2
      rw [money_of_onGrid _ (cents line List.mem_cons_self)] at amount
      have rest := ih (fun line member => cents line (List.mem_cons_of_mem _ member))
      rw [List.map_cons, List.map_cons, amount, rest]

structure SettledAmounts (payload : PaymentSettleRequest) (plan : SettlePlan)
    (records : List PaymentRecord) (paidAmount : Amount) : Prop where
  owned : ∀ record ∈ records, record.orderId = payload.orderId
  total : plan.linesTotal = (records.map (·.amount.value)).sum
  paid : paidAmount.value = plan.order.paidAmount.value + plan.linesTotal
  covered : paidAmount.value ≤ plan.order.finalAmount.value

theorem settledAmounts (env : Env) (actor : User) (payload : PaymentSettleRequest) (db : Db)
    (plan : SettlePlan) (records : List PaymentRecord) (paidAmount : Amount)
    (checked : plan.Checked db payload) (stores : plan.Stores env actor records paidAmount) :
    SettledAmounts payload plan records paidAmount := by
  have amounts := records_amounts env actor plan.orderId plan.lines records checked.cents
    stores.records
  have totalCents : OnGrid 100 plan.linesTotal := by
    rw [checked.total]
    apply OnGrid.sum
    intro amount member
    obtain ⟨line, inside, rfl⟩ := List.mem_map.mp member
    exact checked.cents line inside
  have room : plan.linesTotal ≤ plan.order.finalAmount.value - plan.order.paidAmount.value := by
    have covered := checked.covered
    rwa [remaining,
      money_of_onGrid _ (plan.order.finalAmount.cents.sub plan.order.paidAmount.cents)] at covered
  have paid := ((Amount.store_ok _ _ paidAmount).mp stores.paid).1
  rw [money_money, money_of_onGrid _ (plan.order.paidAmount.cents.add totalCents)] at paid
  constructor
  · intro record member
    obtain ⟨line, _, stored⟩ := mapM_except_origin _ plan.lines records stores.records record member
    exact (toPaymentRecord_ok env actor plan.orderId line record stored).1.trans checked.target
  · rw [amounts, checked.total]
  · exact paid
  · linarith

theorem settleOrder_change (env : Env) (actor : User) (payload : PaymentSettleRequest)
    (db db' : Db) (response : PaymentSettleResponse)
    (returned : settleOrder env actor payload db = .ok response db') :
    ∃ order records paidAmount, Settled env payload order records paidAmount db db' := by
  obtain ⟨plan, passed, committed⟩ := (settleOrder_ok env actor payload db db' response).mp returned
  have checked := settleChecks_ok db payload plan passed
  obtain ⟨records, paidAmount, current, stores, present, _, rfl⟩ :=
    (settleCommit_ok env actor plan db db' response).mp committed
  have amounts := settledAmounts env actor payload db plan records paidAmount checked stores
  refine ⟨plan.order, records, paidAmount, ?_⟩
  constructor
  · exact checked.loaded
  · exact checked.unsettled
  · exact amounts.owned
  · exact amounts.total ▸ checked.positive
  · rw [amounts.paid, amounts.total]
  · exact amounts.covered
  · exact rewritten_of_flush db _ payload.orderId plan.order _ checked.loaded
      (by rw [SettlePlan.written, checked.target])
  · rfl
  · rfl

theorem createReturn_change (env : Env) (actor : User) (payload : ReturnRequest)
    (db db' : Db) (response : AfterSalesResponse)
    (returned : createReturn env actor payload db = .ok response db') :
    ∃ order record, Returned env payload order record db db' := by
  obtain ⟨order, record, allowed, stored, _, rfl⟩ :=
    (createReturn_ok env actor payload db db' response).mp returned
  obtain ⟨target, kind, completed, amount, keyless, fits⟩ :=
    toReturnRecord_ok env actor payload _ record stored
  exact ⟨order, record, allowed, target, kind, completed, amount.trans (money_money _), keyless,
    fits, rfl, rfl, rfl⟩

theorem createExchange_change (env : Env) (actor : User) (payload : ExchangeRequest)
    (db db' : Db) (response : AfterSalesResponse)
    (returned : createExchange env actor payload db = .ok response db') :
    ∃ order record, Exchanged payload order record db db' := by
  obtain ⟨order, record, ⟨loaded, _, _⟩, stored, _, rfl⟩ :=
    (createExchange_ok env actor payload db db' response).mp returned
  obtain ⟨target, kind, keyless⟩ := toExchangeRecord_ok env actor payload record stored
  exact ⟨order, record, loaded, target, kind, keyless, rfl, rfl, rfl⟩

theorem refundedAmount (env : Env) (actor : User) (payload : ReverseSettlementRequest)
    (plan : RefundPlan) (record : AfterSalesOrder) (paidAmount : Amount)
    (amount : plan.refundAmount = money payload.refundAmount)
    (stores : plan.Stores env actor payload record paidAmount) :
    paidAmount.value = plan.order.paidAmount.value - money payload.refundAmount := by
  have paid := ((Amount.store_ok _ _ paidAmount).mp stores.paid).1
  rwa [money_money, amount, money_of_onGrid _ (plan.order.paidAmount.cents.sub (money_onGrid _))]
    at paid

theorem refundCommit_change (env : Env) (actor : User) (payload : ReverseSettlementRequest)
    (order : Order) (db db' : Db) (response : AfterSalesResponse)
    (allowed : RefundAllowed env payload db order)
    (committed : refundCommit env actor payload
      ⟨payload.originalOrderId, order, money payload.refundAmount⟩ db = .ok response db') :
    ∃ record paidAmount, response = toResponse (db.afterSalesOrders.nextKey, record) ∧
      Refunded env payload order record paidAmount db db' := by
  obtain ⟨record, paidAmount, stores, fresh, answered, rfl⟩ :=
    (refundCommit_ok env actor payload _ db db' response).mp committed
  obtain ⟨target, kind, completed, requested, amount, keyed, fits⟩ :=
    toRefundRecord_ok env actor payload _ record stores.record
  have paid := refundedAmount env actor payload _ record paidAmount rfl stores
  exact ⟨record, paidAmount, answered, allowed, target, kind, completed,
    requested.trans (money_money _), amount.trans (money_money _), keyed, fresh, fits, paid,
    rewritten_of_flush db _ _ order _ allowed.loaded rfl, rfl, rfl⟩

theorem reverseSettlementRefund_change (env : Env) (actor : User)
    (payload : ReverseSettlementRequest) (db db' : Db) (response : AfterSalesResponse)
    (returned : reverseSettlementRefund env actor payload db = .ok response db') :
    db' = db ∨ ∃ order record paidAmount, Refunded env payload order record paidAmount db db' := by
  rcases (reverseSettlementRefund_ok env actor payload db db' response).mp returned with
    ⟨_, same⟩ | ⟨plan, passed, committed⟩
  · exact .inl same
  · obtain ⟨order, allowed, looked⟩ := (refundChecks_ok env payload db _).mp passed
    obtain ⟨_, rfl⟩ := (refundLookup_inr payload order _ plan).mp looked
    obtain ⟨record, paidAmount, _, change⟩ :=
      refundCommit_change env actor payload order db db' response allowed committed
    exact .inr ⟨order, record, paidAmount, change⟩

theorem expireUnpaidOrders_change (env : Env) (db : Db) :
    Swept env db (after (expireUnpaidOrders env) db) := by
  rw [after_ok _ _ _ _ (expireUnpaidOrders_eq env db)]
  obtain ⟨payments, afterSales⟩ := swept_keeps env.now (unpaidOrders db env) db
  exact ⟨expireUnpaidOrders_get? env db, swept_nextKey env.now _ db, payments, afterSales⟩

/-- What one call can do, from which every invariant of a run is derived. -/
theorem step_change (db : Db) (call : Call) : Change db (step db call) call := by
  cases call with
  | createOrder env actor payload =>
      rcases after_cases _ (createOrder_allOrNothing env actor payload) db with
        ⟨response, returned⟩ | same
      · obtain ⟨orderId, order, change, _⟩ := createOrder_ok env actor payload db _ _ returned
        exact .placed env actor payload orderId order change
      · exact .unchanged _ (congrArg ledgerTables same)
  | settleOrder env actor payload =>
      rcases after_cases _ (settleOrder_allOrNothing env actor payload) db with
        ⟨response, returned⟩ | same
      · obtain ⟨order, records, paidAmount, change⟩ :=
          settleOrder_change env actor payload db _ _ returned
        exact .settled env actor payload order records paidAmount change
      · exact .unchanged _ (congrArg ledgerTables same)
  | createReturn env actor payload =>
      rcases after_cases _ (createReturn_allOrNothing env actor payload) db with
        ⟨response, returned⟩ | same
      · obtain ⟨order, record, change⟩ := createReturn_change env actor payload db _ _ returned
        exact .returned env actor payload order record change
      · exact .unchanged _ (congrArg ledgerTables same)
  | createExchange env actor payload =>
      rcases after_cases _ (createExchange_allOrNothing env actor payload) db with
        ⟨response, returned⟩ | same
      · obtain ⟨order, record, change⟩ := createExchange_change env actor payload db _ _ returned
        exact .exchanged env actor payload order record change
      · exact .unchanged _ (congrArg ledgerTables same)
  | reverseSettlementRefund env actor payload =>
      rcases after_cases _ (reverseSettlementRefund_allOrNothing env actor payload) db with
        ⟨response, returned⟩ | same
      · rcases reverseSettlementRefund_change env actor payload db _ _ returned with
          same | ⟨order, record, paidAmount, change⟩
        · exact .unchanged _ (congrArg ledgerTables same)
        · exact .refunded env actor payload order record paidAmount change
      · exact .unchanged _ (congrArg ledgerTables same)
  | expireUnpaidOrders env => exact .swept env (expireUnpaidOrders_change env db)

end RetailApp.Ledger
