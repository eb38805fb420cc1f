import RetailApp.Ledger.Calls
import RetailApp.Library.Till

/-! The books of an order: its till, read off the payment and after-sales tables, and what
has to agree with it in the order row. Every call moves every till by at most one step. -/

namespace RetailApp.Ledger

open Transaction

def forOrder (orderId : Nat) (record : PaymentRecord) : Bool := record.orderId == orderId

def collected (db : Db) (orderId : Nat) : ℚ :=
  db.paymentRecords.total (forOrder orderId) (·.amount.value)

def refunded (db : Db) (orderId : Nat) : ℚ :=
  db.afterSalesOrders.total (isCompleted .refund orderId) (·.approvedAmount.value)

def returned (db : Db) (orderId : Nat) : ℚ :=
  db.afterSalesOrders.total (isCompleted .goodsReturn orderId) (·.approvedAmount.value)

def tillOf (db : Db) (orderId : Nat) (order : Order) : Till ℚ where
  due := order.finalAmount.value
  collected := collected db orderId
  refunded := refunded db orderId
  returned := returned db orderId
  closed := order.status == .void

def statusOf : Till.Phase → OrderStatus
  | .unpaid => .pending
  | .partly => .partiallyPaid
  | .paid => .settled
  | .closed => .void

structure Coherent (db : Db) (orderId : Nat) (order : Order) : Prop where
  balance : order.paidAmount.value = (tillOf db orderId order).balance
  status : order.status = statusOf (tillOf db orderId order).phase
  sound : (tillOf db orderId order).Sound
  settledAt : order.settledAt.isSome ↔ order.status = .settled
  voidedAt : order.voidedAt.isSome ↔ order.status = .void
  voidReason : order.voidReason.isSome ↔ order.status = .void

structure Books (db : Db) : Prop where
  orders : ∀ orderId order, db.orders.get? orderId = some order → Coherent db orderId order
  payments : ∀ record ∈ db.paymentRecords.rows, record.orderId < db.orders.nextKey
  afterSales : ∀ record ∈ db.afterSalesOrders.rows, record.originalOrderId < db.orders.nextKey

theorem collected_kept (db db' : Db) (payments : db'.paymentRecords = db.paymentRecords)
    (orderId : Nat) : collected db' orderId = collected db orderId := by
  rw [collected, collected, payments]

theorem filed_kept (db db' : Db) (afterSales : db'.afterSalesOrders = db.afterSalesOrders)
    (orderId : Nat) :
    refunded db' orderId = refunded db orderId ∧ returned db' orderId = returned db orderId := by
  constructor
  · rw [refunded, refunded, afterSales]
  · rw [returned, returned, afterSales]

theorem totalRefunded_refunded (db : Db) (orderId : Nat) :
    totalRefunded db orderId = refunded db orderId := totalRefunded_eq db orderId

theorem statusOf_phase (till : Till ℚ) (opened : till.closed = false) :
    statusOf till.phase =
      if till.balance = 0 then .pending
      else if till.balance < till.due then .partiallyPaid
      else .settled := by
  simp only [Till.phase, opened, Bool.false_eq_true, if_false]
  split
  · rfl
  · split <;> rfl

theorem tillOf_opened (db : Db) (orderId : Nat) (order : Order) (notVoid : order.status ≠ .void) :
    (tillOf db orderId order).closed = false := by
  simpa [tillOf] using notVoid

theorem tillOf_congr (db db' : Db) (orderId : Nat) (order order' : Order)
    (due : order'.finalAmount = order.finalAmount)
    (closed : (order'.status = .void) ↔ order.status = .void)
    (payments : collected db' orderId = collected db orderId)
    (refunds : refunded db' orderId = refunded db orderId)
    (returns : returned db' orderId = returned db orderId) :
    tillOf db' orderId order' = tillOf db orderId order := by
  have same : (order'.status == .void) = (order.status == .void) := by
    rw [Bool.eq_iff_iff, beq_iff_eq, beq_iff_eq]
    exact closed
  simp only [tillOf, due, same, payments, refunds, returns]

theorem Coherent.of_same_till (db db' : Db) (orderId : Nat) (order : Order)
    (coherent : Coherent db orderId order)
    (same : tillOf db' orderId order = tillOf db orderId order) : Coherent db' orderId order := by
  obtain ⟨balance, status, sound, settledAt, voidedAt, voidReason⟩ := coherent
  constructor
  · rw [same]
    exact balance
  · rw [same]
    exact status
  · rw [same]
    exact sound
  · exact settledAt
  · exact voidedAt
  · exact voidReason

theorem collected_insertAll (db db' : Db) (target orderId : Nat) (records : List PaymentRecord)
    (owned : ∀ record ∈ records, record.orderId = target)
    (payments : db'.paymentRecords = db.paymentRecords.insertAll records) :
    collected db' orderId = collected db orderId +
      if orderId = target then (records.map (·.amount.value)).sum else 0 := by
  rw [collected, payments, Table.total_insertAll]
  by_cases here : orderId = target
  · have all : records.filter (forOrder orderId) = records := by
      rw [List.filter_eq_self]
      intro record member
      simpa [forOrder, here] using owned record member
    rw [if_pos here, all, collected]
  · have none : records.filter (forOrder orderId) = [] := by
      rw [List.filter_eq_nil_iff]
      intro record member
      simp only [forOrder, owned record member, beq_iff_eq]
      exact fun same => here same.symm
    rw [if_neg here, none, collected, List.map_nil, List.sum_nil]

theorem isCompleted_iff (kind : AfterSalesType) (orderId : Nat) (record : AfterSalesOrder) :
    isCompleted kind orderId record = true ↔
      record.originalOrderId = orderId ∧ record.afterSalesType = kind ∧
        record.status = .completed := by
  simp [isCompleted, and_assoc]

theorem total_filed (db db' : Db) (kind : AfterSalesType) (orderId : Nat)
    (record : AfterSalesOrder) (target : record.originalOrderId = orderId)
    (ofKind : record.afterSalesType = kind) (completed : record.status = .completed)
    (afterSales : db'.afterSalesOrders = db.afterSalesOrders.insert record) :
    db'.afterSalesOrders.total (isCompleted kind orderId) (·.approvedAmount.value) =
      db.afterSalesOrders.total (isCompleted kind orderId) (·.approvedAmount.value) +
        record.approvedAmount.value := by
  have counted := (isCompleted_iff kind orderId record).mpr ⟨target, ofKind, completed⟩
  rw [afterSales, Table.total_insert, if_pos counted]

theorem total_other (db db' : Db) (kind : AfterSalesType) (orderId : Nat)
    (record : AfterSalesOrder) (other : ¬(record.originalOrderId = orderId ∧
      record.afterSalesType = kind))
    (afterSales : db'.afterSalesOrders = db.afterSalesOrders.insert record) :
    db'.afterSalesOrders.total (isCompleted kind orderId) (·.approvedAmount.value) =
      db.afterSalesOrders.total (isCompleted kind orderId) (·.approvedAmount.value) := by
  have skipped : ¬isCompleted kind orderId record = true := by
    intro counted
    obtain ⟨target, ofKind, _⟩ := (isCompleted_iff kind orderId record).mp counted
    exact other ⟨target, ofKind⟩
  rw [afterSales, Table.total_insert, if_neg skipped, add_zero]

theorem totals_of_next (db : Db) (books : Books db) :
    collected db db.orders.nextKey = 0 ∧ refunded db db.orders.nextKey = 0 ∧
      returned db db.orders.nextKey = 0 := by
  have completed (kind : AfterSalesType) :
      db.afterSalesOrders.rows.filter (isCompleted kind db.orders.nextKey) = [] := by
    rw [List.filter_eq_nil_iff]
    intro record member complete
    have bound := books.afterSales record member
    exact bound.ne ((isCompleted_iff kind _ record).mp complete).1
  have paid : db.paymentRecords.rows.filter (forOrder db.orders.nextKey) = [] := by
    rw [List.filter_eq_nil_iff]
    intro record member owned
    exact (books.payments record member).ne (beq_iff_eq.mp owned)
  refine ⟨?_, ?_, ?_⟩
  · rw [collected, Table.total, paid, List.map_nil, List.sum_nil]
  · rw [refunded, Table.total, completed, List.map_nil, List.sum_nil]
  · rw [returned, Table.total, completed, List.map_nil, List.sum_nil]

/-- What one call does to the till of an order that it finds or creates. -/
inductive Moved (db db' : Db) (orderId : Nat) (order' : Order) : Prop
  | opened (absent : db.orders.get? orderId = none) (due : 0 ≤ order'.finalAmount.value)
      (fresh : tillOf db' orderId order' = Till.opening order'.finalAmount.value)
  | kept (order : Order) (present : db.orders.get? orderId = some order) (row : order' = order)
      (same : tillOf db' orderId order' = tillOf db orderId order)
  | stepped (order : Order) (present : db.orders.get? orderId = some order)
      (moved : Till.Step (tillOf db orderId order) (tillOf db' orderId order'))

theorem coherent_open (db : Db) (orderId : Nat) (order : Order)
    (coherent : Coherent db orderId order) (notVoid : order.status ≠ .void) :
    order.voidedAt = none ∧ order.voidReason = none := by
  constructor
  · rw [← Option.not_isSome_iff_eq_none, coherent.voidedAt]
    exact notVoid
  · rw [← Option.not_isSome_iff_eq_none, coherent.voidReason]
    exact notVoid

theorem coherent_unsettled (db : Db) (orderId : Nat) (order : Order)
    (coherent : Coherent db orderId order) (unsettled : isUnsettled order = true) :
    order.settledAt = none := by
  rw [← Option.not_isSome_iff_eq_none, coherent.settledAt]
  intro settled
  simp [isUnsettled, settled] at unsettled

theorem coherent_below (db : Db) (orderId : Nat) (order : Order) (amount : ℚ)
    (coherent : Coherent db orderId order) (positive : 0 < amount) :
    order.paidAmount.value - amount < order.finalAmount.value :=
  calc
    order.paidAmount.value - amount < order.paidAmount.value := sub_lt_self _ positive
    _ = (tillOf db orderId order).balance := coherent.balance
    _ ≤ order.finalAmount.value := coherent.sound.covered

theorem coherent_of_amounts (db : Db) (orderId : Nat) (order : Order) (alive : order.status ≠ .void)
    (balance : order.paidAmount.value = (tillOf db orderId order).balance)
    (status : order.status =
      if order.paidAmount.value = 0 then .pending
      else if order.paidAmount.value < order.finalAmount.value then .partiallyPaid
      else .settled)
    (sound : (tillOf db orderId order).Sound)
    (settledAt : order.settledAt.isSome ↔ order.status = .settled)
    (unvoided : order.voidedAt = none ∧ order.voidReason = none) : Coherent db orderId order := by
  have due : (tillOf db orderId order).due = order.finalAmount.value := rfl
  refine ⟨balance, ?_, sound, settledAt, ?_, ?_⟩
  · rw [statusOf_phase _ (tillOf_opened db orderId order alive), ← balance, due]
    exact status
  · simp [unvoided.1, alive]
  · simp [unvoided.2, alive]

theorem settled_target (env : Env) (payload : PaymentSettleRequest) (order : Order)
    (records : List PaymentRecord) (paidAmount : Amount) (db db' : Db) (books : Books db)
    (change : Settled env payload order records paidAmount db db') :
    Till.Step (tillOf db payload.orderId order)
        (tillOf db' payload.orderId (paidOrder env.now order paidAmount)) ∧
      Coherent db' payload.orderId (paidOrder env.now order paidAmount) := by
  have coherent := books.orders payload.orderId order change.loaded
  have unsettled := (isUnsettled_iff order).mpr change.unsettled
  have notVoid := unsettled_alive order unsettled
  have notSettled := coherent_unsettled db _ order coherent unsettled
  obtain ⟨paid, due, _, voidedAt, voidReason⟩ := paidOrder_keeps env.now order paidAmount
  have notVoid' := paidOrder_alive env.now order paidAmount
  have moved : tillOf db' payload.orderId (paidOrder env.now order paidAmount) =
      { tillOf db payload.orderId order with
        collected := (tillOf db payload.orderId order).collected +
          (records.map (·.amount.value)).sum } := by
    have amounts := collected_insertAll db db' payload.orderId payload.orderId records change.owned
      change.payments
    rw [if_pos rfl] at amounts
    simp only [tillOf, due, amounts, refunded, returned, change.afterSales, beq_false_of_ne notVoid,
      beq_false_of_ne notVoid']
  have step : Till.Step (tillOf db payload.orderId order)
      (tillOf db' payload.orderId (paidOrder env.now order paidAmount)) := by
    rw [moved]
    apply Till.Step.collect _ _ (tillOf_opened db payload.orderId order notVoid) change.positive
    rw [← coherent.balance, ← change.paid]
    exact change.covered
  have balance : paidAmount.value =
      (tillOf db' payload.orderId (paidOrder env.now order paidAmount)).balance :=
    calc
      paidAmount.value =
          order.paidAmount.value + (records.map (·.amount.value)).sum := change.paid
      _ = (tillOf db payload.orderId order).balance + (records.map (·.amount.value)).sum := by
          rw [coherent.balance]
      _ = (tillOf db' payload.orderId (paidOrder env.now order paidAmount)).balance := by
          rw [moved, Till.balance_collect]
  have held : 0 < paidAmount.value := by
    rw [change.paid, coherent.balance]
    exact add_pos_of_nonneg_of_pos coherent.sound.held change.positive
  refine ⟨step, coherent_of_amounts db' payload.orderId _ notVoid' (paid.symm ▸ balance) ?_
    (Till.step_sound _ _ coherent.sound step)
    (paidOrder_settledAt env.now order paidAmount notSettled) ?_⟩
  · rw [paidOrder_status, paid, due]
    by_cases full : paidAmount.value = order.finalAmount.value
    · rw [if_pos full, if_neg held.ne', if_neg full.not_lt]
    · rw [if_neg full, if_neg held.ne', if_neg held.ne',
        if_pos (lt_of_le_of_ne change.covered full)]
  · rw [voidedAt, voidReason]
    exact coherent_open db _ order coherent notVoid

theorem refunded_target (env : Env) (payload : ReverseSettlementRequest) (order : Order)
    (record : AfterSalesOrder) (paidAmount : Amount) (db db' : Db) (books : Books db)
    (change : Refunded env payload order record paidAmount db db') :
    Till.Step (tillOf db payload.originalOrderId order)
        (tillOf db' payload.originalOrderId (refundedOrder order paidAmount)) ∧
      Coherent db' payload.originalOrderId (refundedOrder order paidAmount) := by
  have coherent := books.orders payload.originalOrderId order change.allowed.loaded
  have notVoid : order.status ≠ .void := by
    rcases change.allowed.paid with status | status <;> simp [status]
  obtain ⟨paid, due, _, voidedAt, voidReason⟩ := refundedOrder_keeps order paidAmount
  have notVoid' := refundedOrder_alive order paidAmount
  have moved : tillOf db' payload.originalOrderId (refundedOrder order paidAmount) =
      { tillOf db payload.originalOrderId order with
        refunded := (tillOf db payload.originalOrderId order).refunded +
          money payload.refundAmount } := by
    have refunds := total_filed db db' .refund payload.originalOrderId record change.target
      change.kind change.completed change.afterSales
    have returns := total_other db db' .goodsReturn payload.originalOrderId record
      (by simp [change.kind]) change.afterSales
    simp only [tillOf, due, refunded, returned, refunds, returns, collected, change.payments,
      change.amount, beq_false_of_ne notVoid, beq_false_of_ne notVoid']
  have step : Till.Step (tillOf db payload.originalOrderId order)
      (tillOf db' payload.originalOrderId (refundedOrder order paidAmount)) := by
    rw [moved]
    apply Till.Step.refund _ _ (tillOf_opened db payload.originalOrderId order notVoid)
      change.allowed.positive
    · rw [← coherent.balance]
      exact change.allowed.held
    · have ceiling := change.allowed.ceiling
      rwa [totalRefunded_refunded] at ceiling
  have balance : paidAmount.value =
      (tillOf db' payload.originalOrderId (refundedOrder order paidAmount)).balance :=
    calc
      paidAmount.value = order.paidAmount.value - money payload.refundAmount := change.paid
      _ = (tillOf db payload.originalOrderId order).balance - money payload.refundAmount := by
          rw [coherent.balance]
      _ = (tillOf db' payload.originalOrderId (refundedOrder order paidAmount)).balance := by
          rw [moved, Till.balance_refund]
  have below : paidAmount.value < order.finalAmount.value := by
    rw [change.paid]
    exact coherent_below db _ order _ coherent change.allowed.positive
  refine ⟨step, coherent_of_amounts db' payload.originalOrderId _ notVoid' (paid.symm ▸ balance) ?_
    (Till.step_sound _ _ coherent.sound step) ?_ ?_⟩
  · rw [refundedOrder_status, paid, due]
  · rw [refundedOrder_settledAt order paidAmount below, refundedOrder_status, if_pos below]
    split
    · simp
    · simp
  · rw [voidedAt, voidReason]
    exact coherent_open db _ order coherent notVoid

theorem moved_kept (db db' : Db) (books : Books db) (orderId : Nat) (order' : Order)
    (row : db.orders.get? orderId = some order')
    (payments : collected db' orderId = collected db orderId)
    (refunds : refunded db' orderId = refunded db orderId)
    (returns : returned db' orderId = returned db orderId) :
    Moved db db' orderId order' ∧ Coherent db' orderId order' := by
  have same := tillOf_congr db db' orderId order' order' rfl Iff.rfl payments refunds returns
  exact ⟨.kept order' row rfl same,
    (books.orders orderId order' row).of_same_till db db' orderId order' same⟩

theorem unchanged_moved (db db' : Db) (books : Books db)
    (same : ledgerTables db' = ledgerTables db) (orderId : Nat) (order' : Order)
    (found : db'.orders.get? orderId = some order') :
    Moved db db' orderId order' ∧ Coherent db' orderId order' := by
  simp only [ledgerTables, Prod.mk.injEq] at same
  obtain ⟨orders, payments, afterSales⟩ := same
  obtain ⟨refunds, returns⟩ := filed_kept db db' afterSales orderId
  rw [orders] at found
  exact moved_kept db db' books orderId order' found (collected_kept db db' payments orderId)
    refunds returns

theorem placed_moved (env : Env) (placedId : Nat) (order : Order) (db db' : Db) (books : Books db)
    (change : Placed env placedId order db db') (orderId : Nat) (order' : Order)
    (found : db'.orders.get? orderId = some order') :
    Moved db db' orderId order' ∧ Coherent db' orderId order' := by
  have payments := collected_kept db db' change.payments orderId
  obtain ⟨refunds, returns⟩ := filed_kept db db' change.afterSales orderId
  rw [change.orders, Table.get?_insert] at found
  by_cases here : orderId = db.orders.nextKey
  · rw [if_pos here] at found
    obtain rfl := Option.some.inj found
    obtain ⟨noPayments, noRefunds, noReturns⟩ := totals_of_next db books
    rw [here] at payments refunds returns
    have fresh : tillOf db' orderId order = Till.opening order.finalAmount.value := by
      simp [tillOf, Till.opening, here, payments, refunds, returns, noPayments, noRefunds,
        noReturns, change.pending]
    have empty : (Till.opening order.finalAmount.value).balance = 0 := by
      simp [Till.opening, Till.balance]
    refine ⟨.opened (by rw [here, Table.get?_nextKey]) change.nonneg fresh,
      coherent_of_amounts db' orderId order (by simp [change.pending]) ?_ ?_ ?_
        (by simp [change.unsettled, change.pending]) change.unvoided⟩
    · rw [fresh, empty, change.unpaid, Amount.zero_value]
    · rw [change.unpaid, Amount.zero_value, if_pos rfl, change.pending]
    · rw [fresh]
      exact Till.opening_sound _ change.nonneg
  · rw [if_neg here] at found
    exact moved_kept db db' books orderId order' found payments refunds returns

theorem settled_moved (env : Env) (payload : PaymentSettleRequest) (order : Order)
    (records : List PaymentRecord) (paidAmount : Amount) (db db' : Db) (books : Books db)
    (change : Settled env payload order records paidAmount db db') (orderId : Nat)
    (order' : Order) (found : db'.orders.get? orderId = some order') :
    Moved db db' orderId order' ∧ Coherent db' orderId order' := by
  rw [change.orders.row] at found
  by_cases here : orderId = payload.orderId
  · rw [if_pos here] at found
    obtain rfl := Option.some.inj found
    subst here
    obtain ⟨step, coherent⟩ :=
      settled_target env payload order records paidAmount db db' books change
    exact ⟨.stepped order change.loaded step, coherent⟩
  · rw [if_neg here] at found
    have payments := collected_insertAll db db' payload.orderId orderId records change.owned
      change.payments
    rw [if_neg here, add_zero] at payments
    obtain ⟨refunds, returns⟩ := filed_kept db db' change.afterSales orderId
    exact moved_kept db db' books orderId order' found payments refunds returns

theorem returned_moved (env : Env) (payload : ReturnRequest) (order : Order)
    (record : AfterSalesOrder) (db db' : Db) (books : Books db)
    (change : Returned env payload order record db db') (orderId : Nat) (order' : Order)
    (found : db'.orders.get? orderId = some order') :
    Moved db db' orderId order' ∧ Coherent db' orderId order' := by
  have payments := collected_kept db db' change.filed.payments orderId
  have refunds : refunded db' orderId = refunded db orderId :=
    total_other db db' .refund orderId record (by simp [change.kind])
      change.filed.afterSales
  rw [change.filed.orders] at found
  by_cases here : orderId = payload.originalOrderId
  · subst here
    obtain rfl := Option.some.inj (change.allowed.loaded.symm.trans found)
    have returns := total_filed db db' .goodsReturn payload.originalOrderId record change.target
      change.kind change.completed change.filed.afterSales
    have moved : tillOf db' payload.originalOrderId order =
        { tillOf db payload.originalOrderId order with
          returned := (tillOf db payload.originalOrderId order).returned +
            money payload.refundAmount } := by
      simp only [tillOf, payments, refunds, returned, returns, change.amount]
    have coherent := books.orders payload.originalOrderId order found
    have step : Till.Step (tillOf db payload.originalOrderId order)
        (tillOf db' payload.originalOrderId order) := by
      rw [moved]
      apply Till.Step.giveBack _ _ (tillOf_opened db _ order change.allowed.notVoid)
      · exact money_nonneg _ payload.positive.le
      · have ceiling := change.allowed.ceiling
        rwa [totalRefunded_refunded] at ceiling
    refine ⟨.stepped order found step, ?_, ?_, Till.step_sound _ _ coherent.sound step,
      coherent.settledAt, coherent.voidedAt, coherent.voidReason⟩
    · rw [moved]
      exact coherent.balance
    · rw [moved]
      exact coherent.status
  · have other : ¬(record.originalOrderId = orderId ∧ record.afterSalesType = .goodsReturn) :=
      fun same => here (same.1.symm.trans change.target)
    exact moved_kept db db' books orderId order' found payments refunds
      (total_other db db' .goodsReturn orderId record other change.filed.afterSales)

theorem exchanged_moved (payload : ExchangeRequest) (order : Order)
    (record : AfterSalesOrder) (db db' : Db) (books : Books db)
    (change : Exchanged payload order record db db') (orderId : Nat) (order' : Order)
    (found : db'.orders.get? orderId = some order') :
    Moved db db' orderId order' ∧ Coherent db' orderId order' := by
  rw [change.filed.orders] at found
  exact moved_kept db db' books orderId order' found
    (collected_kept db db' change.filed.payments orderId)
    (total_other db db' .refund orderId record (by simp [change.kind])
      change.filed.afterSales)
    (total_other db db' .goodsReturn orderId record (by simp [change.kind])
      change.filed.afterSales)

theorem refunded_moved (env : Env) (payload : ReverseSettlementRequest) (order : Order)
    (record : AfterSalesOrder) (paidAmount : Amount) (db db' : Db) (books : Books db)
    (change : Refunded env payload order record paidAmount db db') (orderId : Nat)
    (order' : Order) (found : db'.orders.get? orderId = some order') :
    Moved db db' orderId order' ∧ Coherent db' orderId order' := by
  rw [change.orders.row] at found
  by_cases here : orderId = payload.originalOrderId
  · rw [if_pos here] at found
    obtain rfl := Option.some.inj found
    subst here
    obtain ⟨step, coherent⟩ :=
      refunded_target env payload order record paidAmount db db' books change
    exact ⟨.stepped order change.allowed.loaded step, coherent⟩
  · rw [if_neg here] at found
    have other (kind : AfterSalesType) :
        ¬(record.originalOrderId = orderId ∧ record.afterSalesType = kind) :=
      fun same => here (same.1.symm.trans change.target)
    exact moved_kept db db' books orderId order' found
      (collected_kept db db' change.payments orderId)
      (total_other db db' .refund orderId record (other .refund) change.afterSales)
      (total_other db db' .goodsReturn orderId record (other .goodsReturn)
        change.afterSales)

theorem swept_moved (env : Env) (db db' : Db) (books : Books db) (change : Swept env db db')
    (orderId : Nat) (order' : Order) (found : db'.orders.get? orderId = some order') :
    Moved db db' orderId order' ∧ Coherent db' orderId order' := by
  have payments := collected_kept db db' change.payments orderId
  obtain ⟨refunds, returns⟩ := filed_kept db db' change.afterSales orderId
  rw [change.rows] at found
  obtain ⟨order, present, rfl⟩ := Option.map_eq_some_iff.mp found
  by_cases hit : isUnsettled order = true ∧ overdue env.now order = true
  · have row : expired env.now order = voided env.now order := if_pos hit
    have coherent := books.orders orderId order present
    rw [row]
    have moved : tillOf db' orderId (voided env.now order) =
        { tillOf db orderId order with closed := true } := by
      simp [tillOf, voided, payments, refunds, returns]
    have unsettled : (tillOf db orderId order).phase = .unpaid ∨
        (tillOf db orderId order).phase = .partly := by
      have status := coherent.status
      have pending := (isUnsettled_iff order).mp hit.1
      rcases phase : (tillOf db orderId order).phase <;> simp_all [statusOf]
    have step : Till.Step (tillOf db orderId order)
        (tillOf db' orderId (voided env.now order)) := by
      rw [moved]
      exact Till.Step.close _ unsettled
    refine ⟨.stepped order present step, ?_, ?_, Till.step_sound _ _ coherent.sound step, ?_, ?_,
      ?_⟩
    · rw [moved]
      exact coherent.balance
    · rw [moved]
      rfl
    · simp [voided, coherent_unsettled db orderId order coherent hit.1]
    · simp [voided]
    · simp [voided]
  · have row : expired env.now order = order := if_neg hit
    rw [row]
    exact moved_kept db db' books orderId order present payments refunds returns

/-- One call moves each till by at most one step and leaves every row in agreement with it. -/
theorem change_moved (db db' : Db) (call : Call) (books : Books db) (change : Change db db' call)
    (orderId : Nat) (order' : Order) (found : db'.orders.get? orderId = some order') :
    Moved db db' orderId order' ∧ Coherent db' orderId order' := by
  cases change with
  | unchanged call same => exact unchanged_moved db db' books same orderId order' found
  | placed env actor payload placedId order change =>
      exact placed_moved env placedId order db db' books change orderId order' found
  | settled env actor payload order records paidAmount change =>
      exact settled_moved env payload order records paidAmount db db' books change orderId order'
        found
  | returned env actor payload order record change =>
      exact returned_moved env payload order record db db' books change orderId order' found
  | exchanged env actor payload order record change =>
      exact exchanged_moved payload order record db db' books change orderId order' found
  | refunded env actor payload order record paidAmount change =>
      exact refunded_moved env payload order record paidAmount db db' books change orderId order'
        found
  | swept env change => exact swept_moved env db db' books change orderId order' found

end RetailApp.Ledger
