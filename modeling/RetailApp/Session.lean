import RetailApp.Models
import RetailApp.Library.Transaction

/-! The statements a service sends through its session, one for each table it writes. -/

namespace RetailApp

open Transaction

abbrev Service (α : Type) := Session Db Raised α

def insertOrder (row : Order) : Service Nat := do
  let db ← get
  attempt (raiseIf (db.orders.rows.any (·.orderNo == row.orderNo) = true)
    (.integrityError "ix_orders_order_no"))
  set { db with orders := db.orders.insert row }
  return db.orders.nextKey

def insertOrderLine (row : OrderLine) : Service Nat := do
  let db ← get
  set { db with orderLines := db.orderLines.insert row }
  return db.orderLines.nextKey

def insertPromotionRule (row : PromotionRule) : Service Nat := do
  let db ← get
  attempt (raiseIf
    (row.appliesToProductId.any (fun productId => (db.products.get? productId).isNone) = true)
    (.integrityError "promotion_rules_applies_to_product_id_fkey"))
  set { db with promotionRules := db.promotionRules.insert row }
  return db.promotionRules.nextKey

def insertPaymentRecord (row : PaymentRecord) : Service Nat := do
  let db ← get
  set { db with paymentRecords := db.paymentRecords.insert row }
  return db.paymentRecords.nextKey

/-- NULL keys never collide; any other key must be new to the whole table. -/
def keyTaken (db : Db) (idempotencyKey : Option String) : Bool :=
  idempotencyKey.isSome && db.afterSalesOrders.rows.any (·.idempotencyKey == idempotencyKey)

def insertAfterSalesOrder (row : AfterSalesOrder) : Service Nat := do
  let db ← get
  attempt (raiseIf (keyTaken db row.idempotencyKey = true)
    (.integrityError "uq_after_sales_orders_idempotency_key"))
  set { db with afterSalesOrders := db.afterSalesOrders.insert row }
  return db.afterSalesOrders.nextKey

def updateOrder (orderId : Nat) (update : Order → Order) : Service Unit :=
  modify fun db => { db with orders := db.orders.modify orderId update }

def writeAuditLog (actorUserId : Option Nat) (action entityType : String) (entityId : Nat)
    (details : AuditDetails) : Service Unit :=
  modify fun db =>
    { db with auditLogs := db.auditLogs.insert ⟨actorUserId, action, entityType, entityId, details⟩ }

/-- An UPDATE writes a column only when the session's value differs from the one it loaded. -/
def changed {α : Type} [DecidableEq α] (loaded assigned current : α) : α :=
  if assigned = loaded then current else assigned

@[simp] theorem changed_self {α : Type} [DecidableEq α] (loaded assigned : α) :
    changed loaded assigned loaded = assigned := by
  unfold changed
  split
  · rename_i same
    exact same.symm
  · rfl

@[simp] theorem changed_same {α : Type} [DecidableEq α] (loaded current : α) :
    changed loaded loaded current = current := if_pos rfl

/-- The UPDATE a session sends for an order it loaded and then assigned attributes of. -/
def Order.flush (loaded assigned current : Order) : Order where
  orderNo := changed loaded.orderNo assigned.orderNo current.orderNo
  cashierUserId := changed loaded.cashierUserId assigned.cashierUserId current.cashierUserId
  status := changed loaded.status assigned.status current.status
  subtotalAmount := changed loaded.subtotalAmount assigned.subtotalAmount current.subtotalAmount
  itemDiscountTotal :=
    changed loaded.itemDiscountTotal assigned.itemDiscountTotal current.itemDiscountTotal
  orderDiscountTotal :=
    changed loaded.orderDiscountTotal assigned.orderDiscountTotal current.orderDiscountTotal
  promotionDiscountTotal :=
    changed loaded.promotionDiscountTotal assigned.promotionDiscountTotal
      current.promotionDiscountTotal
  finalAmount := changed loaded.finalAmount assigned.finalAmount current.finalAmount
  paidAmount := changed loaded.paidAmount assigned.paidAmount current.paidAmount
  createdAt := changed loaded.createdAt assigned.createdAt current.createdAt
  settledAt := changed loaded.settledAt assigned.settledAt current.settledAt
  voidedAt := changed loaded.voidedAt assigned.voidedAt current.voidedAt
  voidReason := changed loaded.voidReason assigned.voidReason current.voidReason

@[simp] theorem Order.flush_loaded (loaded assigned : Order) :
    Order.flush loaded assigned loaded = assigned := by
  simp [Order.flush]

theorem insertOrder_ok_iff (row : Order) (db db' : Db) (orderId : Nat) :
    insertOrder row db = .ok orderId db' ↔
      db.orders.rows.any (·.orderNo == row.orderNo) = false ∧ db.orders.nextKey = orderId ∧
        { db with orders := db.orders.insert row } = db' := by
  rw [← Bool.not_eq_true]
  exact guarded_ok (fun db : Db => db.orders.rows.any (·.orderNo == row.orderNo) = true) _
    (fun db => { db with orders := db.orders.insert row }) (·.orders.nextKey) db db' orderId

theorem insertOrder_ok (row : Order) (db db' : Db) (orderId : Nat)
    (inserted : insertOrder row db = .ok orderId db') :
    orderId = db.orders.nextKey ∧ db' = { db with orders := db.orders.insert row } := by
  obtain ⟨_, rfl, rfl⟩ := (insertOrder_ok_iff row db db' orderId).mp inserted
  exact ⟨rfl, rfl⟩

theorem insertPromotionRule_ok (row : PromotionRule) (db db' : Db) (ruleId : Nat)
    (inserted : insertPromotionRule row db = .ok ruleId db') :
    ruleId = db.promotionRules.nextKey ∧
      db' = { db with promotionRules := db.promotionRules.insert row } := by
  obtain ⟨_, rfl, rfl⟩ := (guarded_ok _ _ (fun db : Db => { db with
    promotionRules := db.promotionRules.insert row }) (·.promotionRules.nextKey) db db' ruleId).mp
      inserted
  exact ⟨rfl, rfl⟩

@[simp] theorem insertOrderLine_eq (row : OrderLine) (db : Db) :
    insertOrderLine row db =
      .ok db.orderLines.nextKey { db with orderLines := db.orderLines.insert row } := rfl

@[simp] theorem insertPaymentRecord_eq (row : PaymentRecord) (db : Db) :
    insertPaymentRecord row db =
      .ok db.paymentRecords.nextKey { db with paymentRecords := db.paymentRecords.insert row } := rfl

theorem insertAfterSalesOrder_ok_iff (row : AfterSalesOrder) (db db' : Db) (recordId : Nat) :
    insertAfterSalesOrder row db = .ok recordId db' ↔
      keyTaken db row.idempotencyKey = false ∧ recordId = db.afterSalesOrders.nextKey ∧
        db' = { db with afterSalesOrders := db.afterSalesOrders.insert row } := by
  rw [← Bool.not_eq_true, eq_comm (a := recordId), eq_comm (a := db')]
  exact guarded_ok (fun db : Db => keyTaken db row.idempotencyKey = true) _
    (fun db => { db with afterSalesOrders := db.afterSalesOrders.insert row })
    (·.afterSalesOrders.nextKey) db db' recordId

@[simp] theorem updateOrder_eq (orderId : Nat) (update : Order → Order) (db : Db) :
    updateOrder orderId update db =
      .ok () { db with orders := db.orders.modify orderId update } := rfl

@[simp] theorem writeAuditLog_eq (actorUserId : Option Nat) (action entityType : String)
    (entityId : Nat) (details : AuditDetails) (db : Db) :
    writeAuditLog actorUserId action entityType entityId details db =
      .ok () { db with
        auditLogs := db.auditLogs.insert ⟨actorUserId, action, entityType, entityId, details⟩ } :=
  rfl

end RetailApp
