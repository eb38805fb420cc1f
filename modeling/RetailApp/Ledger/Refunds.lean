import RetailApp.Ledger.Runs

/-! Which refunds are accepted: the retry of one that was, and the one that empties an order. -/

namespace RetailApp.Ledger

open FixedPoint Transaction

theorem amount_fits (order : Order) (amount : ℚ) (nonneg : 0 ≤ amount)
    (within : amount ≤ order.finalAmount.value) : |amount| < 10 ^ 10 := by
  rw [abs_of_nonneg nonneg]
  exact within.trans_lt ((le_abs_self _).trans_lt order.finalAmount.fits)

theorem createReturn_accepted_iff (env : Env) (actor : User) (payload : ReturnRequest) (db : Db)
    (books : Books db) :
    (∃ response db', createReturn env actor payload db = .ok response db') ↔
      (∃ order, ReturnAllowed env payload db order) ∧ ReasonFits payload.reason := by
  have stored (order : Order) (allowed : ReturnAllowed env payload db order) :
      (∃ record, toReturnRecord env actor payload (money payload.refundAmount) = .ok record) ↔
        ReasonFits payload.reason := by
    apply record_stored_iff
    rw [money_money]
    have past := (books.orders _ order allowed.loaded).sound.refunded
    have ceiling := allowed.ceiling
    rw [totalRefunded_refunded] at ceiling
    exact amount_fits order _ (money_nonneg _ payload.positive.le)
      ((le_add_of_nonneg_left past).trans ceiling)
  constructor
  · rintro ⟨response, db', succeeded⟩
    obtain ⟨order, record, allowed, given, _⟩ :=
      (createReturn_ok env actor payload db db' response).mp succeeded
    exact ⟨⟨order, allowed⟩, (stored order allowed).mp ⟨record, given⟩⟩
  · rintro ⟨⟨order, allowed⟩, fits⟩
    obtain ⟨record, given⟩ := (stored order allowed).mpr fits
    exact ⟨_, _, (createReturn_ok env actor payload db _ _).mpr
      ⟨order, record, allowed, given, rfl, rfl⟩⟩

theorem refund_unused (env : Env) (actor : User) (payload : ReverseSettlementRequest)
    (db db' : Db) (response : AfterSalesResponse)
    (unused : keyTaken db (some payload.idempotencyKey) = false)
    (succeeded : reverseSettlementRefund env actor payload db = .ok response db') :
    ∃ order, RefundAllowed env payload db order ∧
      refundCommit env actor payload
        ⟨payload.originalOrderId, order, money payload.refundAmount⟩ db = .ok response db' := by
  have missing := refundByKey_unused db payload.idempotencyKey unused
  rcases (reverseSettlementRefund_ok env actor payload db db' response).mp succeeded with
    ⟨answered, _⟩ | ⟨plan, passed, committed⟩
  · obtain ⟨order, _, looked⟩ := (refundChecks_ok env payload db _).mp answered
    obtain ⟨existing, found, _⟩ := (refundLookup_inl payload order _ response).mp looked
    rw [missing] at found
    cases found
  · obtain ⟨order, allowed, looked⟩ := (refundChecks_ok env payload db _).mp passed
    obtain ⟨_, rfl⟩ := (refundLookup_inr payload order _ plan).mp looked
    exact ⟨order, allowed, committed⟩

theorem refund_stores_iff (env : Env) (actor : User) (payload : ReverseSettlementRequest)
    (db : Db) (order : Order) (books : Books db) (allowed : RefundAllowed env payload db order) :
    (∃ record paidAmount, RefundPlan.Stores env actor payload
        ⟨payload.originalOrderId, order, money payload.refundAmount⟩ record paidAmount) ↔
      ReasonFits payload.reason := by
  have covered := (books.orders _ order allowed.loaded).reconciled.covered
  have held := allowed.held
  have positive := allowed.positive
  have stored : (∃ record, toRefundRecord env actor payload (money payload.refundAmount) =
      .ok record) ↔ ReasonFits payload.reason := by
    apply record_stored_iff
    rw [money_money]
    exact amount_fits order _ positive.le (held.trans covered)
  have left : money (order.paidAmount.value - money payload.refundAmount) =
      order.paidAmount.value - money payload.refundAmount :=
    money_of_onGrid _ (order.paidAmount.cents.sub (money_onGrid _))
  constructor
  · rintro ⟨record, _, stores⟩
    exact stored.mp ⟨record, stores.record⟩
  · intro fits
    obtain ⟨record, given⟩ := stored.mpr fits
    have nonneg : 0 ≤ order.paidAmount.value - money payload.refundAmount := sub_nonneg.mpr held
    have small := amount_fits order _ nonneg (by linarith)
    refine ⟨record, ⟨order.paidAmount.value - money payload.refundAmount,
      order.paidAmount.cents.sub (money_onGrid _), small⟩, given, ?_, ?_⟩
    · rw [left]
      exact nonneg
    · rw [Amount.store_ok, money_money, left]
      exact ⟨rfl, small⟩

theorem refund_accepted_iff (env : Env) (actor : User) (payload : ReverseSettlementRequest)
    (db : Db) (books : Books db) (unused : keyTaken db (some payload.idempotencyKey) = false) :
    (∃ response db', reverseSettlementRefund env actor payload db = .ok response db') ↔
      (∃ order, RefundAllowed env payload db order) ∧ ReasonFits payload.reason := by
  constructor
  · rintro ⟨response, db', succeeded⟩
    obtain ⟨order, allowed, committed⟩ :=
      refund_unused env actor payload db db' response unused succeeded
    obtain ⟨record, paidAmount, stores, _⟩ :=
      (refundCommit_ok env actor payload _ db db' response).mp committed
    exact ⟨⟨order, allowed⟩,
      (refund_stores_iff env actor payload db order books allowed).mp ⟨record, paidAmount, stores⟩⟩
  · rintro ⟨⟨order, allowed⟩, fits⟩
    obtain ⟨record, paidAmount, stores⟩ :=
      (refund_stores_iff env actor payload db order books allowed).mpr fits
    have looked := (refundLookup_inr payload order _ _).mpr
      ⟨refundByKey_unused db payload.idempotencyKey unused, rfl⟩
    have passed := (refundChecks_ok env payload db _).mpr ⟨order, allowed, looked⟩
    have committed := (refundCommit_ok env actor payload _ db _ _).mpr
      ⟨record, paidAmount, stores, unused, rfl, rfl⟩
    exact ⟨_, _, (reverseSettlementRefund_ok env actor payload db _ _).mpr
      (.inr ⟨_, passed, committed⟩)⟩

theorem refund_repeat (env : Env) (actor : User) (payload : ReverseSettlementRequest) (db : Db)
    (order : Order) (existing : Nat × AfterSalesOrder)
    (allowed : RefundAllowed env payload db order)
    (found : refundByKey db payload.idempotencyKey = some existing)
    (sameOrder : existing.2.originalOrderId = payload.originalOrderId)
    (sameAmount : existing.2.requestedAmount.value = money payload.refundAmount) :
    reverseSettlementRefund env actor payload db = .ok (toResponse existing) db := by
  have looked := (refundLookup_inl payload order (refundByKey db payload.idempotencyKey)
    (toResponse existing)).mpr ⟨existing, found, sameOrder, sameAmount, rfl⟩
  have passed := (refundChecks_ok env payload db _).mpr ⟨order, allowed, looked⟩
  exact (reverseSettlementRefund_ok env actor payload db db _).mpr (.inl ⟨passed, rfl⟩)

theorem refundedOrder_paid_iff (order : Order) (paidAmount : Amount)
    (below : paidAmount.value < order.finalAmount.value) :
    ((refundedOrder order paidAmount).status = .partiallyPaid ∨
        (refundedOrder order paidAmount).status = .settled) ↔ paidAmount.value ≠ 0 := by
  rw [refundedOrder_status, if_pos below]
  by_cases empty : paidAmount.value = 0
  · simp [empty]
  · simp [empty]

/-- The retry passes its guards exactly when the order could have borne the refund twice. -/
theorem retry_allowed_iff (first retry : Env) (payload : ReverseSettlementRequest) (order : Order)
    (record : AfterSalesOrder) (paidAmount : Amount) (db db' : Db) (books : Books db)
    (change : Refunded first payload order record paidAmount db db')
    (window : retry.now ≤ returnDeadline order) :
    (∃ order', RefundAllowed retry payload db' order') ↔
      2 * money payload.refundAmount ≤ order.paidAmount.value ∧
        refunded db payload.originalOrderId + 2 * money payload.refundAmount ≤
          order.finalAmount.value := by
  obtain ⟨paid, final, created, _, _⟩ := refundedOrder_keeps order paidAmount
  have row := change.orders.row payload.originalOrderId
  rw [if_pos rfl] at row
  have total : totalRefunded db' payload.originalOrderId =
      refunded db payload.originalOrderId + money payload.refundAmount := by
    have filed := total_filed db db' .refund payload.originalOrderId record change.target
      change.kind change.completed change.afterSales
    rw [totalRefunded_refunded, refunded, filed, change.amount, refunded]
  have positive := change.allowed.positive
  have below : paidAmount.value < order.finalAmount.value := by
    rw [change.paid]
    exact coherent_below db _ order _ (books.orders _ order change.allowed.loaded) positive
  constructor
  · rintro ⟨order', allowed⟩
    obtain rfl := Option.some.inj (row.symm.trans allowed.loaded)
    have held := allowed.held
    have ceiling := allowed.ceiling
    rw [paid, change.paid] at held
    rw [total, final] at ceiling
    constructor <;> linarith
  · rintro ⟨twiceHeld, twiceCeiling⟩
    refine ⟨refundedOrder order paidAmount, row, ?_, ?_, positive, ?_, ?_⟩
    · rw [returnDeadline, created]
      exact window
    · rw [refundedOrder_paid_iff order paidAmount below]
      linarith [change.paid]
    · rw [paid, change.paid]
      linarith
    · rw [total, final]
      linarith

theorem refund_retry_iff (products : Table Product) (promotionRules : Table PromotionRule)
    (calls : List Call) (first retry : Env) (actor : User) (payload : ReverseSettlementRequest)
    (order : Order) (response : AfterSalesResponse) (db' : Db)
    (present : (run (Db.start products promotionRules) calls).orders.get?
      payload.originalOrderId = some order)
    (unused : keyTaken (run (Db.start products promotionRules) calls)
      (some payload.idempotencyKey) = false)
    (succeeded : reverseSettlementRefund first actor payload
      (run (Db.start products promotionRules) calls) = .ok response db')
    (window : retry.now ≤ returnDeadline order) :
    (∃ db'', reverseSettlementRefund retry actor payload db' = .ok response db'' ∧
        ledgerTables db'' = ledgerTables db') ↔
      2 * money payload.refundAmount ≤ order.paidAmount.value ∧
        refunded (run (Db.start products promotionRules) calls) payload.originalOrderId +
          2 * money payload.refundAmount ≤ order.finalAmount.value := by
  have books := run_books products promotionRules calls
  generalize run (Db.start products promotionRules) calls = db at *
  obtain ⟨loaded, allowed, committed⟩ :=
    refund_unused first actor payload db db' response unused succeeded
  obtain rfl := Option.some.inj (present.symm.trans allowed.loaded)
  obtain ⟨record, paidAmount, rfl, change⟩ :=
    refundCommit_change first actor payload order db db' response allowed committed
  rw [← retry_allowed_iff first retry payload order record paidAmount db db' books change window]
  constructor
  · rintro ⟨db'', again, _⟩
    obtain ⟨answer, passed⟩ : ∃ answer, refundChecks retry payload db' = .ok answer := by
      rcases (reverseSettlementRefund_ok retry actor payload db' db'' _).mp again with
        ⟨passed, _⟩ | ⟨plan, passed, _⟩
      · exact ⟨_, passed⟩
      · exact ⟨_, passed⟩
    obtain ⟨order', allowed', _⟩ := (refundChecks_ok retry payload db' answer).mp passed
    exact ⟨order', allowed'⟩
  · rintro ⟨order', allowed'⟩
    have found := refundByKey_insert db db' payload.idempotencyKey record unused change.keyed
      change.kind change.afterSales
    exact ⟨db', refund_repeat retry actor payload db' order' _ allowed' found change.target
      change.requested, rfl⟩

theorem refund_retry_iff_half : ∃ response db',
    reverseSettlementRefund (atTime 2 "") clerk fiveBack paidTea = .ok response db' ∧
      ∃ db'', reverseSettlementRefund (atTime 3 "") clerk fiveBack db' = .ok response db'' ∧
        ledgerTables db'' = ledgerTables db' := by
  obtain ⟨response, returned⟩ := returns_of_isOk
    (reverseSettlementRefund (atTime 2 "") clerk fiveBack) paidTea (by decide +kernel)
  refine ⟨response, _, returned, ?_⟩
  exact (refund_retry_iff ⟨[tea]⟩ Table.empty [sellTea 0 "ORD-1", payTen 1] (atTime 2 "")
    (atTime 3 "") clerk fiveBack paidTeaOrder response _ paidTea_order (by decide +kernel) returned
    (by decide +kernel)).mpr (by decide +kernel)

theorem refund_retry_refused :
    keyTaken paidTea (some tenBack.idempotencyKey) = false ∧
      3 ≤ returnDeadline paidTeaOrder ∧
      (reply (reverseSettlementRefund (atTime 2 "") clerk tenBack) paidTea).isOk = true ∧
      reply (reverseSettlementRefund (atTime 3 "") clerk tenBack)
          (after (reverseSettlementRefund (atTime 2 "") clerk tenBack) paidTea) =
        .error (.validation "Reverse settlement requires paid or partially paid order") := by
  decide +kernel

theorem refund_whole_iff (products : Table Product) (promotionRules : Table PromotionRule)
    (calls : List Call) (env : Env) (actor : User) (payload : ReverseSettlementRequest)
    (order : Order)
    (present : (run (Db.start products promotionRules) calls).orders.get?
      payload.originalOrderId = some order)
    (holding : 0 < order.paidAmount.value)
    (window : env.now ≤ returnDeadline order)
    (unused : keyTaken (run (Db.start products promotionRules) calls)
      (some payload.idempotencyKey) = false)
    (whole : payload.refundAmount = order.paidAmount.value) :
    (∃ response db', reverseSettlementRefund env actor payload
        (run (Db.start products promotionRules) calls) = .ok response db' ∧
      (db'.orders.get? payload.originalOrderId).map (·.paidAmount.value) = some 0) ↔
      order.status ≠ .void ∧
        refunded (run (Db.start products promotionRules) calls) payload.originalOrderId +
          order.paidAmount.value ≤ order.finalAmount.value ∧
        ReasonFits payload.reason := by
  have books := run_books products promotionRules calls
  generalize run (Db.start products promotionRules) calls = db at *
  have amount : money payload.refundAmount = order.paidAmount.value := by
    rw [whole, money_amount]
  constructor
  · rintro ⟨response, db', succeeded, _⟩
    obtain ⟨⟨loaded, allowed⟩, fits⟩ :=
      (refund_accepted_iff env actor payload db books unused).mp ⟨response, db', succeeded⟩
    obtain rfl := Option.some.inj (present.symm.trans allowed.loaded)
    have ceiling := allowed.ceiling
    rw [totalRefunded_refunded, amount] at ceiling
    refine ⟨?_, ceiling, fits⟩
    rcases allowed.paid with status | status <;> simp [status]
  · rintro ⟨notVoid, ceiling, fits⟩
    have status := (books.orders _ order present).status_open db _ order notVoid
    have paid : order.status = .partiallyPaid ∨ order.status = .settled := by
      rw [status, if_neg holding.ne']
      split
      · exact .inl rfl
      · exact .inr rfl
    have allowed : RefundAllowed env payload db order :=
      ⟨present, window, paid, amount.symm ▸ holding, amount.le,
        by rw [totalRefunded_refunded, amount]; exact ceiling⟩
    obtain ⟨response, db', succeeded⟩ :=
      (refund_accepted_iff env actor payload db books unused).mpr ⟨⟨order, allowed⟩, fits⟩
    obtain ⟨loaded, allowed', committed⟩ :=
      refund_unused env actor payload db db' response unused succeeded
    obtain rfl := Option.some.inj (present.symm.trans allowed'.loaded)
    obtain ⟨record, paidAmount, _, change⟩ :=
      refundCommit_change env actor payload order db db' response allowed' committed
    refine ⟨response, db', succeeded, ?_⟩
    rw [change.orders.row, if_pos rfl, Option.map_some, (refundedOrder_keeps order paidAmount).1,
      change.paid, amount, sub_self]

theorem refund_whole_iff_paid_tea : ∃ response db',
    reverseSettlementRefund (atTime 2 "") clerk tenBack paidTea = .ok response db' ∧
      (db'.orders.get? 1).map (·.paidAmount.value) = some 0 :=
  (refund_whole_iff ⟨[tea]⟩ Table.empty [sellTea 0 "ORD-1", payTen 1] (atTime 2 "") clerk tenBack
    paidTeaOrder paidTea_order (by decide +kernel) (by decide +kernel) (by decide +kernel)
    (by decide +kernel)).mpr ⟨by decide +kernel, by decide +kernel, fun _ given => by cases given⟩

def tenBackAgain : ReverseSettlementRequest :=
  refundRequest 1 10 "refund-0003" ten_pos (by decide)

/-- Paid in part and then swept after 31 minutes. -/
def sweptTea : Db :=
  run teaShop [sellTea 0 "ORD-1", payFive 1,
    .expireUnpaidOrders (atTime (timedeltaMinutes 31) "")]

/-- Paid, refunded and paid again. -/
def repaidTea : Db :=
  run teaShop [sellTea 0 "ORD-1", payTen 1,
    .reverseSettlementRefund (atTime 2 "") clerk tenBack, payTen 3]

theorem refund_whole_refused :
    ((sweptTea.orders.get? 1).map (·.paidAmount.value) = some 5 ∧
        (sweptTea.orders.get? 1).map (fun order =>
          decide (timedeltaMinutes 32 ≤ returnDeadline order)) = some true ∧
        keyTaken sweptTea (some fiveBack.idempotencyKey) = false ∧
        reply (reverseSettlementRefund (atTime (timedeltaMinutes 32) "") clerk fiveBack) sweptTea =
          .error (.validation "Cannot process after-sales for void order")) ∧
      (repaidTea.orders.get? 1).map (·.paidAmount.value) = some 10 ∧
        (repaidTea.orders.get? 1).map (fun order =>
          decide (4 ≤ returnDeadline order)) = some true ∧
        keyTaken repaidTea (some tenBackAgain.idempotencyKey) = false ∧
        reply (reverseSettlementRefund (atTime 4 "") clerk tenBackAgain) repaidTea =
          .error (.validation ("Refund exceeds original order amount: refunded=10.00, " ++
            "requested=10.00, order_total=10.00")) := by
  decide +kernel

end RetailApp.Ledger
