import RetailApp.Ledger.Refunds

/-! What is given back on an order, as returned goods and as refunds together, against what
it cost and against what was collected for it. -/

namespace RetailApp.Ledger

open Transaction

def givenBack (db : Db) (orderId : Nat) : ℚ := returned db orderId + refunded db orderId

/-- A call that passes the guards of its service and gives an amount back on an order. -/
inductive Offers (db : Db) : Call → Nat → ℚ → Prop
  | byReturn (env : Env) (actor : User) (payload : ReturnRequest) (order : Order)
      (allowed : ReturnAllowed env payload db order) (fits : ReasonFits payload.reason) :
      Offers db (.createReturn env actor payload) payload.originalOrderId
        (money payload.refundAmount)
  | byRefund (env : Env) (actor : User) (payload : ReverseSettlementRequest) (order : Order)
      (allowed : RefundAllowed env payload db order)
      (unused : keyTaken db (some payload.idempotencyKey) = false)
      (fits : ReasonFits payload.reason) :
      Offers db (.reverseSettlementRefund env actor payload) payload.originalOrderId
        (money payload.refundAmount)

/-- What a call does to the money of an order that was there before it. -/
structure Gives (db db' : Db) (orderId : Nat) (amount : ℚ) : Prop where
  due : (db'.orders.get? orderId).map (·.finalAmount) = (db.orders.get? orderId).map (·.finalAmount)
  more : givenBack db' orderId = givenBack db orderId + amount
  collected : collected db' orderId = collected db orderId

theorem returned_gives (env : Env) (payload : ReturnRequest) (order : Order)
    (record : AfterSalesOrder) (db db' : Db) (change : Returned env payload order record db db') :
    Gives db db' payload.originalOrderId (money payload.refundAmount) := by
  constructor
  · rw [change.filed.orders]
  · have returns := total_filed db db' .goodsReturn payload.originalOrderId record change.target
      change.kind change.completed change.filed.afterSales
    have refunds := total_other db db' .refund payload.originalOrderId record
      (by simp [change.kind]) change.filed.afterSales
    rw [givenBack, givenBack, returned, refunded, returns, refunds, change.amount]
    exact add_right_comm _ _ _
  · exact collected_kept db db' change.filed.payments payload.originalOrderId

theorem refunded_gives (env : Env) (payload : ReverseSettlementRequest) (order : Order)
    (record : AfterSalesOrder) (paidAmount : Amount) (db db' : Db)
    (change : Refunded env payload order record paidAmount db db') :
    Gives db db' payload.originalOrderId (money payload.refundAmount) := by
  constructor
  · rw [change.orders.row, if_pos rfl, change.allowed.loaded, Option.map_some, Option.map_some,
      (refundedOrder_keeps order paidAmount).2.1]
  · have refunds := total_filed db db' .refund payload.originalOrderId record change.target
      change.kind change.completed change.afterSales
    have returns := total_other db db' .goodsReturn payload.originalOrderId record
      (by simp [change.kind]) change.afterSales
    rw [givenBack, givenBack, returned, refunded, returns, refunds, change.amount]
    exact (add_assoc _ _ _).symm
  · exact collected_kept db db' change.payments payload.originalOrderId

theorem offers_gives (db : Db) (call : Call) (orderId : Nat) (amount : ℚ) (books : Books db)
    (offers : Offers db call orderId amount) : Gives db (step db call) orderId amount := by
  cases offers with
  | byReturn env actor payload order allowed fits =>
      obtain ⟨response, db', succeeded⟩ :=
        (createReturn_accepted_iff env actor payload db books).mpr ⟨⟨order, allowed⟩, fits⟩
      obtain ⟨_, record, change⟩ := createReturn_change env actor payload db db' response succeeded
      rw [step, after_ok _ _ _ _ succeeded]
      exact returned_gives env payload _ record db db' change
  | byRefund env actor payload order allowed unused fits =>
      obtain ⟨response, db', succeeded⟩ :=
        (refund_accepted_iff env actor payload db books unused).mpr ⟨⟨order, allowed⟩, fits⟩
      obtain ⟨order, allowed, committed⟩ :=
        refund_unused env actor payload db db' response unused succeeded
      obtain ⟨record, paidAmount, _, change⟩ :=
        refundCommit_change env actor payload order db db' response allowed committed
      rw [step, after_ok _ _ _ _ succeeded]
      exact refunded_gives env payload order record paidAmount db db' change

theorem change_givenBack (db db' : Db) (call : Call) (change : Change db db' call)
    (orderId : Nat) :
    (∃ amount, Offers db call orderId amount) ∨
      givenBack db' orderId = givenBack db orderId ∧
        collected db orderId ≤ collected db' orderId := by
  have kept (payments : db'.paymentRecords = db.paymentRecords) :
      collected db orderId ≤ collected db' orderId :=
    (collected_kept db db' payments orderId).ge
  have same (afterSales : db'.afterSalesOrders = db.afterSalesOrders) :
      givenBack db' orderId = givenBack db orderId := by
    obtain ⟨refunds, returns⟩ := filed_kept db db' afterSales orderId
    rw [givenBack, givenBack, returns, refunds]
  have other (record : AfterSalesOrder)
      (afterSales : db'.afterSalesOrders = db.afterSalesOrders.insert record)
      (elsewhere : ¬(record.originalOrderId = orderId ∧ record.afterSalesType = .goodsReturn) ∧
        ¬(record.originalOrderId = orderId ∧ record.afterSalesType = .refund)) :
      givenBack db' orderId = givenBack db orderId := by
    rw [givenBack, givenBack, returned, refunded,
      total_other db db' .goodsReturn orderId record elsewhere.1 afterSales,
      total_other db db' .refund orderId record elsewhere.2 afterSales, returned,
      refunded]
  cases change with
  | unchanged call tables =>
      simp only [ledgerTables, Prod.mk.injEq] at tables
      exact .inr ⟨same tables.2.2, kept tables.2.1⟩
  | placed env actor payload placedId order change =>
      exact .inr ⟨same change.afterSales, kept change.payments⟩
  | settled env actor payload order records paidAmount change =>
      refine .inr ⟨same change.afterSales, ?_⟩
      rw [collected_insertAll db db' payload.orderId orderId records change.owned change.payments]
      apply le_add_of_nonneg_right
      split
      · exact change.positive.le
      · exact le_rfl
  | returned env actor payload order record change =>
      by_cases here : orderId = payload.originalOrderId
      · subst here
        exact .inl ⟨_, .byReturn env actor payload order change.allowed change.fits⟩
      · refine .inr ⟨other record change.filed.afterSales ?_, kept change.filed.payments⟩
        have away : record.originalOrderId ≠ orderId :=
          fun same => here (same.symm.trans change.target)
        exact ⟨fun both => away both.1, fun both => away both.1⟩
  | exchanged env actor payload order record change =>
      exact .inr ⟨other record change.filed.afterSales (by simp [change.kind]),
        kept change.filed.payments⟩
  | refunded env actor payload order record paidAmount change =>
      by_cases here : orderId = payload.originalOrderId
      · subst here
        exact .inl ⟨_, .byRefund env actor payload order change.allowed change.fresh change.fits⟩
      · refine .inr ⟨other record change.afterSales ?_, kept change.payments⟩
        have away : record.originalOrderId ≠ orderId :=
          fun same => here (same.symm.trans change.target)
        exact ⟨fun both => away both.1, fun both => away both.1⟩
  | swept env change => exact .inr ⟨same change.afterSales, kept change.payments⟩

theorem moved_due (db db' : Db) (orderId : Nat) (order' : Order)
    (moved : Moved db db' orderId order') :
    (db.orders.get? orderId = none ∧ 0 ≤ order'.finalAmount.value ∧ givenBack db' orderId = 0 ∧
        collected db' orderId = 0) ∨
      ∃ order, db.orders.get? orderId = some order ∧
        order'.finalAmount.value = order.finalAmount.value := by
  cases moved with
  | opened absent due fresh =>
      have gave : (tillOf db' orderId order').givenBack = 0 := by
        rw [fresh]
        simp [Till.opening, Till.givenBack]
      have took : (tillOf db' orderId order').collected = 0 := by
        rw [fresh, Till.opening]
      exact .inl ⟨absent, due, gave, took⟩
  | kept order present row same => exact .inr ⟨order, present, by rw [row]⟩
  | stepped order present moved => exact .inr ⟨order, present, Till.step_due _ _ moved⟩

section Limit

/-! A limit on what may be given back, by what is due and what was collected. -/

variable (limit : ℚ → ℚ → ℚ)

def Within (db : Db) : Prop :=
  ∀ orderId order, db.orders.get? orderId = some order →
    givenBack db orderId ≤ limit order.finalAmount.value (collected db orderId)

def Room (db : Db) (call : Call) : Prop :=
  ∀ orderId amount order, Offers db call orderId amount → db.orders.get? orderId = some order →
    givenBack db orderId + amount ≤ limit order.finalAmount.value (collected db orderId)

theorem step_within_iff
    (grows : ∀ due before later, before ≤ later → limit due before ≤ limit due later)
    (opens : ∀ due, 0 ≤ due → 0 ≤ limit due 0)
    (db : Db) (call : Call) (books : Books db) (within : Within limit db) :
    Within limit (step db call) ↔ Room limit db call := by
  constructor
  · intro after orderId amount order offers present
    obtain ⟨due, more, same⟩ := offers_gives db call orderId amount books offers
    rw [present, Option.map_some, Option.map_eq_some_iff] at due
    obtain ⟨order', found, final⟩ := due
    have later := after orderId order' found
    rwa [more, same, final] at later
  · intro room orderId order' found
    have change := step_change db call
    have moved := (change_moved db _ call books change orderId order' found).1
    rcases moved_due db _ orderId order' moved with ⟨_, due, gave, took⟩ | ⟨order, present, final⟩
    · rw [gave, took]
      exact opens _ due
    · rcases change_givenBack db _ call change orderId with ⟨amount, offers⟩ | ⟨same, more⟩
      · have gives := offers_gives db call orderId amount books offers
        rw [gives.more, gives.collected, final]
        exact room orderId amount order offers present
      · rw [same, final]
        exact (within orderId order present).trans (grows _ _ _ more)

theorem run_within_iff
    (grows : ∀ due before later, before ≤ later → limit due before ≤ limit due later)
    (opens : ∀ due, 0 ≤ due → 0 ≤ limit due 0)
    (products : Table Product) (promotionRules : Table PromotionRule) (calls : List Call) :
    Runs.Throughout step (Within limit) (Db.start products promotionRules) calls ↔
      Runs.Along step (Room limit) (Db.start products promotionRules) calls := by
  apply Runs.throughout_iff_along step Books (Within limit) (Room limit) step_books
    (step_within_iff limit grows opens) _ calls (start_books products promotionRules)
  intro orderId order found
  rw [Db.start, Table.get?_empty] at found
  cases found

end Limit

/-- No order gives back more than its total, throughout a run, exactly when each return and
refund that its guards let through fits under the total together with all earlier ones. -/
theorem givenBack_within_total_iff (products : Table Product)
    (promotionRules : Table PromotionRule) (calls : List Call) :
    Runs.Throughout step
        (fun db => ∀ orderId order, db.orders.get? orderId = some order →
          returned db orderId + refunded db orderId ≤ order.finalAmount.value)
        (Db.start products promotionRules) calls ↔
      Runs.Along step
        (fun db call => ∀ orderId amount order, Offers db call orderId amount →
          db.orders.get? orderId = some order →
          returned db orderId + refunded db orderId + amount ≤ order.finalAmount.value)
        (Db.start products promotionRules) calls :=
  run_within_iff (fun due _ => due) (fun _ _ _ _ => le_rfl) (fun _ nonneg => nonneg) products
    promotionRules calls

theorem givenBack_within_collected_iff (products : Table Product)
    (promotionRules : Table PromotionRule) (calls : List Call) :
    Runs.Throughout step
        (fun db => ∀ orderId order, db.orders.get? orderId = some order →
          returned db orderId + refunded db orderId ≤ collected db orderId)
        (Db.start products promotionRules) calls ↔
      Runs.Along step
        (fun db call => ∀ orderId amount order, Offers db call orderId amount →
          db.orders.get? orderId = some order →
          returned db orderId + refunded db orderId + amount ≤ collected db orderId)
        (Db.start products promotionRules) calls :=
  run_within_iff (fun _ collected => collected) (fun _ _ _ more => more) (fun _ _ => le_rfl)
    products promotionRules calls

def returnTen (now : Time) : Call :=
  .createReturn (atTime now "") clerk (returnRequest 1 10 ten_pos)

/-- Two returns of the whole amount: the ceiling adds up refunds only. -/
theorem returns_exceed_total :
    ((run teaShop [sellTea 0 "ORD-1", payTen 1, returnTen 2, returnTen 3]).orders.get? 1).map
        (fun order => (order.finalAmount.value,
          returned (run teaShop [sellTea 0 "ORD-1", payTen 1, returnTen 2, returnTen 3]) 1 +
            refunded (run teaShop [sellTea 0 "ORD-1", payTen 1, returnTen 2, returnTen 3]) 1)) =
      some (10, 20) := by
  decide +kernel

theorem return_exceeds_collected :
    ((run teaShop [sellTea 0 "ORD-1", returnTen 1]).orders.get? 1).map
        (fun order => (order.status, collected (run teaShop [sellTea 0 "ORD-1", returnTen 1]) 1,
          returned (run teaShop [sellTea 0 "ORD-1", returnTen 1]) 1)) =
      some (.pending, 0, 10) := by
  decide +kernel

end RetailApp.Ledger
