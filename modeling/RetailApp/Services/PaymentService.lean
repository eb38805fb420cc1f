import RetailApp.Schemas
import RetailApp.Session
import RetailApp.Text

namespace RetailApp

open FixedPoint Transaction

def nonCashMethods : List PaymentMethod := [.bankCard, .storedValue]

def validateMethod (method : String) : Except Raised PaymentMethod :=
  if method = PaymentMethod.cash.value then .ok .cash
  else if method = PaymentMethod.bankCard.value then .ok .bankCard
  else if method = PaymentMethod.storedValue.value then .ok .storedValue
  else .error (.validation s!"Unsupported payment method: {method}")

def remaining (order : Order) : ℚ := money (order.finalAmount.value - order.paidAmount.value)

structure NormalizedLine where
  method : PaymentMethod
  amount : ℚ
  offlineApprovalCode : Option String
  externalReference : Option String

/-- `not code or len(code.strip()) < 4`: a blank code is short after stripping anyway. -/
def approvalMissing : Option String → Bool
  | none => true
  | some code => (strip code).length < 4

def normalizeLine (line : PaymentLineRequest) : Except Raised NormalizedLine := do
  let method ← validateMethod line.method
  let amount := money line.amount
  raiseIf (amount ≤ 0) (.validation "Payment amount must be greater than 0")
  raiseIf (method ∈ nonCashMethods ∧ approvalMissing line.offlineApprovalCode = true)
    (.validation s!"offline_approval_code is required for method {method.value} in offline accounting mode")
  return ⟨method, amount, line.offlineApprovalCode, line.externalReference⟩

structure SettlePlan where
  orderId : Nat
  order : Order
  lines : List NormalizedLine
  linesTotal : ℚ

/-- `settle_order` up to its transaction: it only reads. -/
def settleChecks (db : Db) (payload : PaymentSettleRequest) : Except Raised SettlePlan := do
  let order ← orRaise (db.orders.get? payload.orderId) (.notFound "Order not found")
  raiseIf (order.status = .void) (.security "Cannot settle a void order")
  raiseIf (order.status = .settled) (.conflict "Order already settled")
  raiseIf (payload.payments = []) (.validation "At least one payment line is required")
  let currentRemaining := remaining order
  raiseIf (currentRemaining ≤ 0) (.conflict "Order has no payable remaining amount")
  let lines ← payload.payments.mapM normalizeLine
  let linesTotal := money (lines.map (·.amount)).sum
  raiseIf (currentRemaining < linesTotal)
    (.validation s!"Overpayment is not allowed: remaining={moneyText currentRemaining}, attempted={moneyText linesTotal}")
  return ⟨payload.orderId, order, lines, linesTotal⟩

def toPaymentRecordResponse (entry : Nat × PaymentRecord) : PaymentRecordResponse where
  id := entry.1
  orderId := entry.2.orderId
  cashierUserId := entry.2.cashierUserId
  method := entry.2.method
  amount := money entry.2.amount
  status := entry.2.status
  createdAt := entry.2.createdAt

/-- `approval.strip() if approval else None`. -/
def storedApproval : Option String → Option String
  | none => none
  | some code => if code = "" then none else some (strip code)

def toPaymentRecord (env : Env) (actor : User) (orderId : Nat) (line : NormalizedLine) :
    Except Raised PaymentRecord := do
  let amount ← Amount.store "amount" line.amount
  let approval ← nullableVarchar "offline_approval_code" 64 (storedApproval line.offlineApprovalCode)
  let reference ← nullableVarchar "external_reference" 128 line.externalReference
  return { orderId := orderId
           cashierUserId := actor.id
           method := line.method
           amount := amount
           status := .completed
           offlineApprovalCode := approval
           externalReference := reference
           createdAt := env.now }

def recordPayments (env : Env) (actor : User) (orderId : Nat) :
    List NormalizedLine → Service (List (Nat × PaymentRecord))
  | [] => return []
  | line :: rest => do
      let record ← attempt (toPaymentRecord env actor orderId line)
      let recordId ← insertPaymentRecord record
      let created ← recordPayments env actor orderId rest
      return (recordId, record) :: created

/-- The attributes `settle_order` assigns once `paid_amount` is known. -/
def paidOrder (now : Time) (order : Order) (paidAmount : Amount) : Order :=
  if paidAmount.value = order.finalAmount.value then
    { order with paidAmount := paidAmount, status := .settled, settledAt := some now }
  else if paidAmount.value = 0 then
    { order with paidAmount := paidAmount, status := .pending }
  else
    { order with paidAmount := paidAmount, status := .partiallyPaid }

def toSettleResponse (orderId : Nat) (order : Order) (created : List (Nat × PaymentRecord)) :
    PaymentSettleResponse where
  orderId := orderId
  orderStatus := order.status
  paidAmount := money order.paidAmount
  finalAmount := money order.finalAmount
  remainingAmount := money (order.finalAmount.value - order.paidAmount.value)
  paymentRecords := created.map toPaymentRecordResponse

/-- The body of the transaction of `settle_order`. It writes back values computed from the
row the checks loaded, whatever the table holds by now. -/
def settleWrites (env : Env) (actor : User) (plan : SettlePlan) :
    Service (List (Nat × PaymentRecord)) := do
  let created ← recordPayments env actor plan.orderId plan.lines
  let paidAmount ← attempt (Amount.store "paid_amount"
    (money (plan.order.paidAmount.value + plan.linesTotal)))
  let assigned := paidOrder env.now plan.order paidAmount
  updateOrder plan.orderId (Order.flush plan.order assigned)
  writeAuditLog (some actor.id) "payment.settle" "order" plan.orderId
    (.paymentSettle plan.order.orderNo plan.linesTotal paidAmount assigned.status)
  return created

def settleCommit (env : Env) (actor : User) (plan : SettlePlan) :
    Service PaymentSettleResponse := do
  let created ← transactional (settleWrites env actor plan)
  let db ← get
  let order ← attempt (orRaise (db.orders.get? plan.orderId) .objectDeletedError)
  return toSettleResponse plan.orderId order created

def settleOrder (env : Env) (actor : User) (payload : PaymentSettleRequest) :
    Service PaymentSettleResponse := do
  let db ← get
  let plan ← attempt (settleChecks db payload)
  settleCommit env actor plan

def listPaymentsByOrder (db : Db) (orderId : Nat) : List (Nat × PaymentRecord) :=
  db.paymentRecords.entries.filter (fun entry => entry.2.orderId == orderId)

theorem paidOrder_keeps (now : Time) (order : Order) (paidAmount : Amount) :
    (paidOrder now order paidAmount).paidAmount = paidAmount ∧
      (paidOrder now order paidAmount).finalAmount = order.finalAmount ∧
      (paidOrder now order paidAmount).createdAt = order.createdAt ∧
      (paidOrder now order paidAmount).voidedAt = order.voidedAt ∧
      (paidOrder now order paidAmount).voidReason = order.voidReason := by
  unfold paidOrder
  split
  · exact ⟨rfl, rfl, rfl, rfl, rfl⟩
  · split <;> exact ⟨rfl, rfl, rfl, rfl, rfl⟩

theorem paidOrder_status (now : Time) (order : Order) (paidAmount : Amount) :
    (paidOrder now order paidAmount).status =
      if paidAmount.value = order.finalAmount.value then .settled
      else if paidAmount.value = 0 then .pending
      else .partiallyPaid := by
  unfold paidOrder
  split
  · rfl
  · split <;> rfl

theorem paidOrder_alive (now : Time) (order : Order) (paidAmount : Amount) :
    (paidOrder now order paidAmount).status ≠ .void := by
  rw [paidOrder_status]
  split
  · simp
  · split <;> simp

theorem paidOrder_settledAt (now : Time) (order : Order) (paidAmount : Amount)
    (open_before : order.settledAt = none) :
    (paidOrder now order paidAmount).settledAt.isSome ↔
      (paidOrder now order paidAmount).status = .settled := by
  unfold paidOrder
  split
  · simp
  · split <;> simp [open_before]

theorem normalizeLine_ok (line : PaymentLineRequest) (normalized : NormalizedLine)
    (passed : normalizeLine line = .ok normalized) :
    normalized.amount = money line.amount ∧ 0 < normalized.amount := by
  simp only [normalizeLine, bind_except_ok, raiseIf_ok, pure_except_ok, not_le] at passed
  obtain ⟨_, _, _, positive, _, _, rfl⟩ := passed
  exact ⟨rfl, positive⟩

structure SettlePlan.Checked (db : Db) (payload : PaymentSettleRequest) (plan : SettlePlan) :
    Prop where
  target : plan.orderId = payload.orderId
  loaded : db.orders.get? payload.orderId = some plan.order
  unsettled : plan.order.status = .pending ∨ plan.order.status = .partiallyPaid
  cents : ∀ line ∈ plan.lines, OnGrid 100 line.amount
  total : plan.linesTotal = (plan.lines.map (·.amount)).sum
  positive : 0 < plan.linesTotal
  covered : plan.linesTotal ≤ remaining plan.order

theorem settleChecks_ok (db : Db) (payload : PaymentSettleRequest) (plan : SettlePlan)
    (passed : settleChecks db payload = .ok plan) : plan.Checked db payload := by
  simp only [settleChecks, bind_except_ok, raiseIf_ok, orRaise_ok, pure_except_ok, not_le,
    not_lt] at passed
  obtain ⟨order, loaded, _, notVoid, _, notSettled, _, some, _, _, lines, normalized, _, covered,
    rfl⟩ := passed
  have amounts : ∀ line ∈ lines, OnGrid 100 line.amount ∧ 0 < line.amount := by
    intro line member
    obtain ⟨payment, _, gave⟩ := mapM_except_origin normalizeLine _ lines normalized line member
    obtain ⟨rounded, positive⟩ := normalizeLine_ok payment line gave
    exact ⟨rounded ▸ money_onGrid payment.amount, positive⟩
  have exact : money (lines.map (·.amount)).sum = (lines.map (·.amount)).sum := by
    apply money_of_onGrid
    apply OnGrid.sum
    intro amount member
    obtain ⟨line, inside, rfl⟩ := List.mem_map.mp member
    exact (amounts line inside).1
  have nonempty : lines ≠ [] := by
    rintro rfl
    have related := (mapM_except_ok normalizeLine payload.payments []).mp normalized
    exact some (List.forall₂_nil_right_iff.mp related)
  constructor
  · rfl
  · exact loaded
  · cases status : order.status <;> simp_all
  · exact fun line member => (amounts line member).1
  · exact exact
  · rw [exact]
    apply List.sum_pos
    · intro amount member
      obtain ⟨line, inside, rfl⟩ := List.mem_map.mp member
      exact (amounts line inside).2
    · simpa using nonempty
  · exact covered

theorem toPaymentRecord_ok (env : Env) (actor : User) (orderId : Nat) (line : NormalizedLine)
    (record : PaymentRecord) (stored : toPaymentRecord env actor orderId line = .ok record) :
    record.orderId = orderId ∧ record.amount.value = money line.amount := by
  simp only [toPaymentRecord, bind_except_ok, pure_except_ok, Amount.store_ok] at stored
  obtain ⟨amount, ⟨value, _⟩, _, _, _, _, rfl⟩ := stored
  exact ⟨rfl, value⟩

theorem recordPayments_ok (env : Env) (actor : User) (orderId : Nat) (lines : List NormalizedLine)
    (db db' : Db) (created : List (Nat × PaymentRecord)) :
    recordPayments env actor orderId lines db = .ok created db' ↔
      ∃ records, lines.mapM (toPaymentRecord env actor orderId) = .ok records ∧
        created = db.paymentRecords.numbered records ∧
        db' = { db with paymentRecords := db.paymentRecords.insertAll records } := by
  induction lines generalizing db db' created with
  | nil =>
      simp only [recordPayments, pure_ok, List.mapM_nil, pure_except_ok]
      constructor
      · rintro ⟨rfl, rfl⟩
        exact ⟨[], rfl, rfl, by simp⟩
      · rintro ⟨records, rfl, rfl, rfl⟩
        simp
  | cons line rest ih =>
      simp only [recordPayments, bind_ok, attempt_ok, insertPaymentRecord_eq, pure_ok, ih,
        List.mapM_cons, bind_except_ok, pure_except_ok]
      constructor
      · rintro ⟨record, _, ⟨first, rfl⟩, _, _, inserted, others, _, ⟨records, stored, rfl, rfl⟩,
          rfl, rfl⟩
        obtain ⟨rfl, rfl⟩ := EStateM.Result.ok.inj inserted
        exact ⟨record :: records, ⟨record, first, records, stored, rfl⟩,
          by rw [Table.numbered_cons], by rw [Table.insertAll_cons]⟩
      · rintro ⟨_, ⟨record, first, records, stored, rfl⟩, rfl, rfl⟩
        exact ⟨record, db, ⟨first, rfl⟩, _, _, rfl, _, _, ⟨records, stored, rfl, rfl⟩,
          by rw [Table.numbered_cons], by rw [Table.insertAll_cons]⟩

def SettlePlan.written (env : Env) (actor : User) (plan : SettlePlan)
    (records : List PaymentRecord) (paidAmount : Amount) (db : Db) : Db :=
  let assigned := paidOrder env.now plan.order paidAmount
  { db with
    paymentRecords := db.paymentRecords.insertAll records
    orders := db.orders.modify plan.orderId (Order.flush plan.order assigned)
    auditLogs := db.auditLogs.insert ⟨some actor.id, "payment.settle", "order", plan.orderId,
      .paymentSettle plan.order.orderNo plan.linesTotal paidAmount assigned.status⟩ }

structure SettlePlan.Stores (env : Env) (actor : User) (plan : SettlePlan)
    (records : List PaymentRecord) (paidAmount : Amount) : Prop where
  records : plan.lines.mapM (toPaymentRecord env actor plan.orderId) = .ok records
  paid : Amount.store "paid_amount" (money (plan.order.paidAmount.value + plan.linesTotal)) =
    .ok paidAmount

theorem settleWrites_ok (env : Env) (actor : User) (plan : SettlePlan) (db db' : Db)
    (created : List (Nat × PaymentRecord)) :
    settleWrites env actor plan db = .ok created db' ↔
      ∃ records paidAmount, plan.Stores env actor records paidAmount ∧
        created = db.paymentRecords.numbered records ∧
        db' = plan.written env actor records paidAmount db := by
  simp only [settleWrites, bind_ok, recordPayments_ok, attempt_ok, updateOrder_eq,
    writeAuditLog_eq, pure_ok]
  constructor
  · rintro ⟨_, _, ⟨records, stored, rfl, rfl⟩, paidAmount, _, ⟨paid, rfl⟩, _, _, updated, _, _,
      logged, rfl, rfl⟩
    obtain ⟨_, rfl⟩ := EStateM.Result.ok.inj updated
    obtain ⟨_, rfl⟩ := EStateM.Result.ok.inj logged
    exact ⟨records, paidAmount, ⟨stored, paid⟩, rfl, rfl⟩
  · rintro ⟨records, paidAmount, ⟨stored, paid⟩, rfl, rfl⟩
    exact ⟨_, _, ⟨records, stored, rfl, rfl⟩, paidAmount, _, ⟨paid, rfl⟩, _, _, rfl, _, _, rfl,
      rfl, rfl⟩

theorem settleCommit_ok (env : Env) (actor : User) (plan : SettlePlan) (db db' : Db)
    (response : PaymentSettleResponse) :
    settleCommit env actor plan db = .ok response db' ↔
      ∃ records paidAmount current, plan.Stores env actor records paidAmount ∧
        db.orders.get? plan.orderId = some current ∧
        response = toSettleResponse plan.orderId
          (Order.flush plan.order (paidOrder env.now plan.order paidAmount) current)
          (db.paymentRecords.numbered records) ∧
        db' = plan.written env actor records paidAmount db := by
  simp only [settleCommit, bind_ok, transactional_ok, settleWrites_ok, get_ok, attempt_ok,
    orRaise_ok, pure_ok]
  constructor
  · rintro ⟨_, _, ⟨records, paidAmount, stores, rfl, rfl⟩, _, _, ⟨rfl, rfl⟩, order, _,
      ⟨found, rfl⟩, rfl, rfl⟩
    simp only [SettlePlan.written, Table.get?_modify_self, Option.map_eq_some_iff] at found
    obtain ⟨current, present, rfl⟩ := found
    exact ⟨records, paidAmount, current, stores, present, rfl, rfl⟩
  · rintro ⟨records, paidAmount, current, stores, present, rfl, rfl⟩
    exact ⟨_, _, ⟨records, paidAmount, stores, rfl, rfl⟩, _, _, ⟨rfl, rfl⟩, _, _,
      ⟨by simp [SettlePlan.written, present], rfl⟩, rfl, rfl⟩

theorem settleCommit_error (env : Env) (actor : User) (plan : SettlePlan) (db db' : Db)
    (raised : Raised) (current : Order) (present : db.orders.get? plan.orderId = some current)
    (failed : settleCommit env actor plan db = .error raised db') : db' = db := by
  rcases (bind_error _ _ _ _ _).mp failed with rolledBack | ⟨created, between, committed, _⟩
  · exact transactional_error _ _ _ _ rolledBack
  · obtain ⟨records, paidAmount, stores, rfl, rfl⟩ :=
      (settleWrites_ok env actor plan db between created).mp
        ((transactional_ok _ _ _ _).mp committed)
    have returned := (settleCommit_ok env actor plan db _ _).mpr
      ⟨records, paidAmount, current, stores, present, rfl, rfl⟩
    rw [returned] at failed
    cases failed

theorem settleOrder_ok (env : Env) (actor : User) (payload : PaymentSettleRequest) (db db' : Db)
    (response : PaymentSettleResponse) :
    settleOrder env actor payload db = .ok response db' ↔
      ∃ plan, settleChecks db payload = .ok plan ∧
        settleCommit env actor plan db = .ok response db' :=
  checked_ok (settleChecks · payload) (settleCommit env actor) db db' response

theorem settleOrder_allOrNothing (env : Env) (actor : User) (payload : PaymentSettleRequest) :
    AllOrNothing (settleOrder env actor payload) := by
  apply allOrNothing_checked (settleChecks · payload) (settleCommit env actor)
  intro db plan passed db' raised failed
  have checked := settleChecks_ok db payload plan passed
  exact settleCommit_error env actor plan db db' raised plan.order
    (checked.target ▸ checked.loaded) failed

end RetailApp
