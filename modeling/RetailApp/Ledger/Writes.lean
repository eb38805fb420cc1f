import RetailApp.Ledger.Calls
import RetailApp.Pricing.Acceptance

/-! The tables a call that returns leaves behind, with its order lines and audit rows. -/

namespace RetailApp.Ledger

open Pricing Transaction

/-- A stored line answers its input line, whatever the promotions have taken off it. -/
structure Requested (find : String → Except Raised (Nat × Product)) (orderId : Nat)
    (inputLine : OrderLineCreateRequest) (row : OrderLine) : Prop where
  product : ∃ product, find inputLine.productQuery = .ok (row.productId, product)
  quantity : row.quantity = inputLine.quantity
  owner : row.orderId = orderId

def Repriced (line final : OrderLine) : Prop :=
  final = { line with
    promotionDiscountAmount := final.promotionDiscountAmount
    finalLineAmount := final.finalLineAmount }

theorem requested_of_priced (find : String → Except Raised (Nat × Product)) (orderId : Nat)
    (inputs : List OrderLineCreateRequest) (lines finals : List OrderLine)
    (priced : List.Forall₂ (Priced find orderId) inputs lines)
    (repriced : List.Forall₂ Repriced lines finals) :
    List.Forall₂ (Requested find orderId) inputs finals := by
  induction priced generalizing finals with
  | nil =>
      cases repriced
      exact .nil
  | cons first others ih =>
      cases repriced with
      | cons final rest =>
          refine .cons ?_ (ih _ rest)
          obtain ⟨product, found, _⟩ := first.product
          rw [final]
          exact ⟨⟨product, found⟩, first.quantity, first.orderId⟩

theorem discountLine_id (promo : PromotionResult) (entry : Nat × OrderLine)
    (output : DiscountedLine) (discounts : discountLine promo entry = .ok output) :
    output.id = entry.1 := by
  simp only [discountLine, bind_except_ok, raiseIf_ok, pure_except_ok] at discounts
  obtain ⟨_, _, rfl⟩ := discounts
  rfl

theorem flushLines_writes (table : Table OrderLine) (lines : List OrderLine)
    (outputs : List DiscountedLine) (db db' : Db) (value : PUnit)
    (ids : List.Forall₂ (fun entry output => output.id = entry.1) (table.numbered lines) outputs)
    (rows : db.orderLines = table.insertAll lines)
    (flushed : outputs.forM flushLine db = .ok value db') :
    ∃ finals, List.Forall₂ Repriced lines finals ∧
      db' = { db with orderLines := table.insertAll finals } := by
  induction lines generalizing table db outputs with
  | nil =>
      cases ids
      obtain ⟨_, rfl⟩ := EStateM.Result.ok.inj flushed
      refine ⟨[], .nil, ?_⟩
      rw [← rows]
  | cons line lines ih =>
      rw [Table.numbered_cons] at ids
      cases ids with
      | @cons _ output _ outputs first others =>
          simp only [List.forM_eq_forM, List.forM_cons, bind_ok, flushLine, attempt_ok, modify_ok]
            at flushed
          obtain ⟨_, _, ⟨promotion, _, ⟨_, rfl⟩, final, _, ⟨_, rfl⟩, rfl⟩, flushed⟩ := flushed
          let repriced : OrderLine :=
            { line with promotionDiscountAmount := promotion, finalLineAmount := final }
          have modified : db.orderLines.modify output.id (fun line =>
              { line with promotionDiscountAmount := promotion, finalLineAmount := final }) =
                (table.insert repriced).insertAll lines := by
            rw [rows, first, Table.insertAll_modify_nextKey, Table.insertAll_cons]
          rw [Table.numbered_insert _ _ repriced] at others
          obtain ⟨finals, rest, rfl⟩ := ih _ outputs _ others modified flushed
          refine ⟨repriced :: finals, .cons rfl rest, ?_⟩
          rw [Table.insertAll_cons]

def opened (actor : User) (order : Order) (rows : List OrderLine) (db : Db) : Db :=
  { db with
    orders := db.orders.insert order
    orderLines := db.orderLines.insertAll rows
    auditLogs := db.auditLogs.insert ⟨some actor.id, "order.create", "order", db.orders.nextKey,
      .orderCreate order.orderNo order.finalAmount⟩ }

structure Opens (env : Env) (payload : OrderCreateRequest) (db : Db) (order : Order)
    (rows : List OrderLine) : Prop where
  lines : List.Forall₂ (Requested (catalogue db env) db.orders.nextKey) payload.lines rows
  pending : order.status = .pending
  unpaid : order.paidAmount = Amount.zero

theorem createOrder_writes (env : Env) (actor : User) (payload : OrderCreateRequest) (db db' : Db)
    (response : OrderResponse) (created : createOrder env actor payload db = .ok response db') :
    ∃ order rows, Opens env payload db order rows ∧ db' = opened actor order rows db := by
  simp only [createOrder, bind_ok, get_ok, attempt_ok, transactional_ok] at created
  obtain ⟨_, _, ⟨_, rfl⟩, orderId, between, placed, _, _, ⟨rfl, rfl⟩, answered⟩ := created
  simp only [placeOrder, bind_ok, get_ok, attempt_ok, raiseIf_ok, not_lt, updateOrder_eq,
    writeAuditLog_eq, pure_ok, EStateM.Result.ok.injEq, and_assoc, exists_and_left,
    exists_eq_left', insertOrder_ok_iff, addLines_ok] at placed
  obtain ⟨_, _, manual, _, _, _, _, ⟨lines, priced, rfl, rfl⟩, placed⟩ := placed
  rw [cart_numbered] at placed
  obtain ⟨promo, _, outputs, discounts, _, _, subtotal, _, item, _, order, _, promotion, _, final,
    isFinal, _, _, _, between, flushed, _, rfl, _, rfl⟩ := placed
  have ids : List.Forall₂ (fun entry output => output.id = entry.1)
      (db.orderLines.numbered lines) outputs :=
    ((mapM_except_ok _ _ outputs).mp discounts).imp (discountLine_id promo)
  obtain ⟨finals, repriced, rfl⟩ := flushLines_writes db.orderLines lines outputs _ _ _ ids rfl
    flushed
  rw [Table.insert_modify_nextKey, Table.get?_insert_self] at answered
  obtain ⟨_, rfl⟩ := (pure_ok _ _ _ _).mp answered
  rw [Amount.store_ok] at isFinal
  refine ⟨{ pendingOrder env actor manual with
      subtotalAmount := subtotal
      itemDiscountTotal := item
      orderDiscountTotal := order
      promotionDiscountTotal := promotion
      finalAmount := final }, finals,
    ⟨requested_of_priced _ _ _ lines finals priced repriced, rfl, rfl⟩, ?_⟩
  rw [money_money] at isFinal
  simp only [opened, Order.flush_loaded, isFinal.1]
  rfl

inductive Writes (db : Db) : Call → Db → Prop
  | opened (env : Env) (actor : User) (payload : OrderCreateRequest) (order : Order)
      (rows : List OrderLine) (opens : Opens env payload db order rows) :
      Writes db (.createOrder env actor payload) (opened actor order rows db)
  | settled (env : Env) (actor : User) (payload : PaymentSettleRequest) (plan : SettlePlan)
      (records : List PaymentRecord) (paidAmount : Amount) (checked : plan.Checked db payload)
      (stores : plan.Stores env actor records paidAmount) :
      Writes db (.settleOrder env actor payload) (plan.written env actor records paidAmount db)
  | returned (env : Env) (actor : User) (payload : ReturnRequest) (record : AfterSalesOrder) :
      Writes db (.createReturn env actor payload)
        (recorded actor "after_sales.return" record
          (.afterSalesReturn payload.originalOrderId (money payload.refundAmount)) db)
  | exchanged (env : Env) (actor : User) (payload : ExchangeRequest) (record : AfterSalesOrder) :
      Writes db (.createExchange env actor payload)
        (recorded actor "after_sales.exchange" record
          (.afterSalesExchange payload.originalOrderId) db)
  | repeated (env : Env) (actor : User) (payload : ReverseSettlementRequest) :
      Writes db (.reverseSettlementRefund env actor payload) db
  | refunded (env : Env) (actor : User) (payload : ReverseSettlementRequest) (order : Order)
      (record : AfterSalesOrder) (paidAmount : Amount)
      (allowed : RefundAllowed env payload db order)
      (stores : RefundPlan.Stores env actor payload
        ⟨payload.originalOrderId, order, money payload.refundAmount⟩ record paidAmount) :
      Writes db (.reverseSettlementRefund env actor payload)
        (RefundPlan.written actor payload
          ⟨payload.originalOrderId, order, money payload.refundAmount⟩ record paidAmount db)
  | swept (env : Env) :
      Writes db (.expireUnpaidOrders env) (swept env.now (unpaidOrders db env) db)

theorem settleOrder_writes (env : Env) (actor : User) (payload : PaymentSettleRequest)
    (db db' : Db) (response : PaymentSettleResponse)
    (returned : settleOrder env actor payload db = .ok response db') :
    Writes db (.settleOrder env actor payload) db' := by
  obtain ⟨plan, passed, committed⟩ := (settleOrder_ok env actor payload db db' response).mp returned
  obtain ⟨records, paidAmount, _, stores, _, _, rfl⟩ :=
    (settleCommit_ok env actor plan db db' response).mp committed
  exact .settled env actor payload plan records paidAmount (settleChecks_ok db payload plan passed)
    stores

theorem reverseSettlementRefund_writes (env : Env) (actor : User)
    (payload : ReverseSettlementRequest) (db db' : Db) (response : AfterSalesResponse)
    (returned : reverseSettlementRefund env actor payload db = .ok response db') :
    Writes db (.reverseSettlementRefund env actor payload) db' := by
  rcases (reverseSettlementRefund_ok env actor payload db db' response).mp returned with
    ⟨_, rfl⟩ | ⟨plan, passed, committed⟩
  · exact .repeated env actor payload
  · obtain ⟨order, allowed, looked⟩ := (refundChecks_ok env payload db _).mp passed
    obtain ⟨_, rfl⟩ := (refundLookup_inr payload order _ plan).mp looked
    obtain ⟨record, paidAmount, stores, _, _, rfl⟩ :=
      (refundCommit_ok env actor payload _ db db' response).mp committed
    exact .refunded env actor payload order record paidAmount allowed stores

theorem step_writes (db : Db) (call : Call) : step db call = db ∨ Writes db call (step db call) := by
  cases call with
  | createOrder env actor payload =>
      rcases after_cases _ (createOrder_allOrNothing env actor payload) db with
        ⟨response, returned⟩ | same
      · obtain ⟨order, rows, opens, writes⟩ :=
          createOrder_writes env actor payload db _ response returned
        right
        rw [step, writes]
        exact .opened env actor payload order rows opens
      · exact .inl same
  | settleOrder env actor payload =>
      rcases after_cases _ (settleOrder_allOrNothing env actor payload) db with
        ⟨response, returned⟩ | same
      · exact .inr (settleOrder_writes env actor payload db _ response returned)
      · exact .inl same
  | createReturn env actor payload =>
      rcases after_cases _ (createReturn_allOrNothing env actor payload) db with
        ⟨response, returned⟩ | same
      · obtain ⟨_, record, _, _, _, writes⟩ :=
          (createReturn_ok env actor payload db _ response).mp returned
        right
        rw [step, writes]
        exact .returned env actor payload record
      · exact .inl same
  | createExchange env actor payload =>
      rcases after_cases _ (createExchange_allOrNothing env actor payload) db with
        ⟨response, returned⟩ | same
      · obtain ⟨_, record, _, _, _, writes⟩ :=
          (createExchange_ok env actor payload db _ response).mp returned
        right
        rw [step, writes]
        exact .exchanged env actor payload record
      · exact .inl same
  | reverseSettlementRefund env actor payload =>
      rcases after_cases _ (reverseSettlementRefund_allOrNothing env actor payload) db with
        ⟨response, returned⟩ | same
      · exact .inr (reverseSettlementRefund_writes env actor payload db _ response returned)
      · exact .inl same
  | expireUnpaidOrders env =>
      right
      rw [step, after_ok _ _ _ _ (expireUnpaidOrders_eq env db)]
      exact .swept env

end RetailApp.Ledger
