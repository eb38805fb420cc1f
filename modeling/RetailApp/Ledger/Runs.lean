import RetailApp.Ledger.Books

/-! The books of every order balance after any run of calls from empty ledger tables. -/

namespace RetailApp.Ledger

open Transaction

theorem change_nextKey (db db' : Db) (call : Call) (change : Change db db' call) :
    db.orders.nextKey ≤ db'.orders.nextKey := by
  cases change with
  | unchanged call same => exact (congrArg (fun tables => tables.1.nextKey) same).ge
  | placed env actor payload orderId order change =>
      rw [change.orders, Table.nextKey_insert]
      exact Nat.le_succ _
  | settled env actor payload order records paidAmount change => exact change.orders.nextKey.ge
  | returned env actor payload order record change => rw [change.filed.orders]
  | exchanged env actor payload order record change => rw [change.filed.orders]
  | refunded env actor payload order record paidAmount change => exact change.orders.nextKey.ge
  | swept env change => exact change.nextKey.ge

theorem change_payments (db db' : Db) (call : Call) (change : Change db db' call)
    (record : PaymentRecord) (member : record ∈ db'.paymentRecords.rows) :
    record ∈ db.paymentRecords.rows ∨ record.orderId < db.orders.nextKey := by
  cases change with
  | unchanged call same =>
      have payments := congrArg (fun tables => tables.2.1.rows) same
      exact .inl (payments ▸ member)
  | placed env actor payload orderId order change => exact .inl (change.payments ▸ member)
  | settled env actor payload order records paidAmount change =>
      rw [change.payments, Table.insertAll] at member
      rcases List.mem_append.mp member with old | new
      · exact .inl old
      · right
        rw [change.owned record new]
        exact (Table.get?_key _ _ _ change.loaded).2
  | returned env actor payload order record change => exact .inl (change.filed.payments ▸ member)
  | exchanged env actor payload order record change => exact .inl (change.filed.payments ▸ member)
  | refunded env actor payload order record paidAmount change =>
      exact .inl (change.payments ▸ member)
  | swept env change => exact .inl (change.payments ▸ member)

theorem change_afterSales (db db' : Db) (call : Call) (change : Change db db' call)
    (record : AfterSalesOrder) (member : record ∈ db'.afterSalesOrders.rows) :
    record ∈ db.afterSalesOrders.rows ∨ record.originalOrderId < db.orders.nextKey := by
  have inserted (added : AfterSalesOrder) (order : Order)
      (loaded : db.orders.get? added.originalOrderId = some order)
      (afterSales : db'.afterSalesOrders = db.afterSalesOrders.insert added) :
      record ∈ db.afterSalesOrders.rows ∨ record.originalOrderId < db.orders.nextKey := by
    rw [afterSales, Table.insert] at member
    rcases List.mem_append.mp member with old | new
    · exact .inl old
    · obtain rfl := List.mem_singleton.mp new
      exact .inr (Table.get?_key _ _ _ loaded).2
  cases change with
  | unchanged call same =>
      have afterSales := congrArg (fun tables => tables.2.2.rows) same
      exact .inl (afterSales ▸ member)
  | placed env actor payload orderId order change => exact .inl (change.afterSales ▸ member)
  | settled env actor payload order records paidAmount change =>
      exact .inl (change.afterSales ▸ member)
  | returned env actor payload order added change =>
      exact inserted added order (change.target ▸ change.allowed.loaded) change.filed.afterSales
  | exchanged env actor payload order added change =>
      exact inserted added order (change.target ▸ change.loaded) change.filed.afterSales
  | refunded env actor payload order added paidAmount change =>
      exact inserted added order (change.target ▸ change.allowed.loaded) change.afterSales
  | swept env change => exact .inl (change.afterSales ▸ member)

theorem step_books (db : Db) (call : Call) (books : Books db) : Books (step db call) := by
  have change := step_change db call
  have grows := change_nextKey db _ call change
  constructor
  · intro orderId order found
    exact (change_moved db _ call books change orderId order found).2
  · intro record member
    rcases change_payments db _ call change record member with old | new
    · exact (books.payments record old).trans_le grows
    · exact new.trans_le grows
  · intro record member
    rcases change_afterSales db _ call change record member with old | new
    · exact (books.afterSales record old).trans_le grows
    · exact new.trans_le grows

theorem start_books (products : Table Product) (promotionRules : Table PromotionRule) :
    Books (Db.start products promotionRules) := by
  constructor
  · intro orderId order found
    rw [Db.start, Table.get?_empty] at found
    cases found
  · intro record member
    cases member
  · intro record member
    cases member

theorem run_books (products : Table Product) (promotionRules : Table PromotionRule)
    (calls : List Call) : Books (run (Db.start products promotionRules) calls) :=
  Runs.run_preserves step Books step_books _ calls (start_books products promotionRules)

/-- The ledger invariant of an order row, in terms of the tables. -/
structure Reconciled (db : Db) (orderId : Nat) (order : Order) : Prop where
  paid : order.paidAmount.value = collected db orderId - refunded db orderId
  nonneg : 0 ≤ order.paidAmount.value
  covered : order.paidAmount.value ≤ order.finalAmount.value
  ceiling : refunded db orderId ≤ order.finalAmount.value
  pending : order.status = .pending → order.paidAmount.value = 0
  partly : order.status = .partiallyPaid →
    0 < order.paidAmount.value ∧ order.paidAmount.value < order.finalAmount.value
  settled : order.status = .settled →
    order.paidAmount.value = order.finalAmount.value ∧ 0 < order.finalAmount.value
  settledAt : order.settledAt.isSome ↔ order.status = .settled
  voidedAt : order.voidedAt.isSome ↔ order.status = .void

theorem Coherent.status_open (db : Db) (orderId : Nat) (order : Order)
    (coherent : Coherent db orderId order) (notVoid : order.status ≠ .void) :
    order.status =
      if order.paidAmount.value = 0 then .pending
      else if order.paidAmount.value < order.finalAmount.value then .partiallyPaid
      else .settled := by
  have due : (tillOf db orderId order).due = order.finalAmount.value := rfl
  have status := coherent.status
  rwa [statusOf_phase _ (tillOf_opened db orderId order notVoid), ← coherent.balance, due] at status

theorem Coherent.reconciled (db : Db) (orderId : Nat) (order : Order)
    (coherent : Coherent db orderId order) : Reconciled db orderId order := by
  have held := coherent.sound.held
  have covered := coherent.sound.covered
  rw [← coherent.balance] at held covered
  have status := coherent.status_open
  constructor
  · exact coherent.balance
  · exact held
  · exact covered
  · exact coherent.sound.ceiling
  · intro pending
    have byAmount := status (by simp [pending])
    rw [pending] at byAmount
    by_contra nonzero
    rw [if_neg nonzero] at byAmount
    split at byAmount <;> cases byAmount
  · intro partly
    have byAmount := status (by simp [partly])
    rw [partly] at byAmount
    split at byAmount
    · cases byAmount
    · rename_i nonzero
      split at byAmount
      · rename_i below
        exact ⟨lt_of_le_of_ne held (Ne.symm nonzero), below⟩
      · cases byAmount
  · intro settled
    have byAmount := status (by simp [settled])
    rw [settled] at byAmount
    split at byAmount
    · cases byAmount
    · rename_i nonzero
      split at byAmount
      · cases byAmount
      · rename_i full
        have same : order.paidAmount.value = order.finalAmount.value :=
          le_antisymm covered (not_lt.mp full)
        exact ⟨same, same ▸ lt_of_le_of_ne held (Ne.symm nonzero)⟩
  · exact coherent.settledAt
  · exact coherent.voidedAt

/-! A shop that sells tea at 10.00, where the concrete runs take place. -/

theorem ten_pos : (0 : ℚ) < 10 := by norm_num

theorem five_pos : (0 : ℚ) < 5 := by norm_num

def tenUnits : Amount := ⟨10, ⟨1000, by norm_num⟩, by norm_num⟩

def tea : Product where
  name := "Tea"
  namePinyin := "cha"
  barcode := "690001"
  internalCode := "T1"
  unitPrice := tenUnits
  isActive := true
  isDeleted := false
  isAvailableForSale := true
  isPosVisible := true

def teaShop : Db := Db.start ⟨[tea]⟩ Table.empty

def clerk : User := ⟨1, true, []⟩

def atTime (now : Time) (orderNo : String) : Env where
  now := now
  orderNo := orderNo
  lower := id
  rowOrder := RowOrder.byKey
  orderRows := RowOrder.byKey
  lineRows := RowOrder.byKey

theorem zero_discount : ∀ discount ∈ some (0 : ℚ), 0 ≤ discount := by simp

def teaOrder : OrderCreateRequest where
  lines := [⟨"690001", 1, some 0, by decide, by decide, zero_discount⟩]
  orderDiscountAmount := some 0
  someLine := List.cons_ne_nil _ _
  discountNonneg := zero_discount

theorem tea_scannable : 1 ≤ "690001".length ∧ "690001".length ≤ 255 := by decide

def cashPayment (orderId : Nat) (amount : ℚ) (positive : 0 < amount) : PaymentSettleRequest :=
  ⟨orderId, [⟨"cash", amount, none, none, positive⟩], by simp⟩

def refundRequest (orderId : Nat) (amount : ℚ) (key : String) (positive : 0 < amount)
    (keyLength : 8 ≤ key.length ∧ key.length ≤ 128) : ReverseSettlementRequest :=
  ⟨orderId, amount, key, none, positive, keyLength⟩

def returnRequest (orderId : Nat) (amount : ℚ) (positive : 0 < amount) : ReturnRequest :=
  ⟨orderId, amount, none, positive⟩

def sellTea (now : Time) (orderNo : String) : Call :=
  .createOrder (atTime now orderNo) clerk teaOrder

def payTen (now : Time) : Call :=
  .settleOrder (atTime now "") clerk (cashPayment 1 10 ten_pos)

def payFive (now : Time) : Call :=
  .settleOrder (atTime now "") clerk (cashPayment 1 5 five_pos)

def tenBack : ReverseSettlementRequest :=
  refundRequest 1 10 "refund-0001" ten_pos (by decide)

def fiveBack : ReverseSettlementRequest :=
  refundRequest 1 5 "refund-0002" five_pos (by decide)

def paidTea : Db := run teaShop [sellTea 0 "ORD-1", payTen 1]

def paidTeaOrder : Order := (paidTea.orders.get? 1).get (by decide +kernel)

theorem paidTea_order : paidTea.orders.get? 1 = some paidTeaOrder := (Option.some_get _).symm

theorem run_reconciled (products : Table Product) (promotionRules : Table PromotionRule)
    (calls : List Call) (orderId : Nat) (order : Order)
    (present : (run (Db.start products promotionRules) calls).orders.get? orderId = some order) :
    Reconciled (run (Db.start products promotionRules) calls) orderId order :=
  ((run_books products promotionRules calls).orders orderId order present).reconciled

theorem run_reconciled_paid_tea : Reconciled paidTea 1 paidTeaOrder :=
  run_reconciled ⟨[tea]⟩ Table.empty [sellTea 0 "ORD-1", payTen 1] 1 paidTeaOrder paidTea_order

end RetailApp.Ledger
