import RetailApp.Concurrency.Requests

/-! Requests that race on one order. A commit writes absolute values computed from the row
its checks loaded, so the outcome is that of some serial order exactly as long as nobody
else has moved the paid amount in between; a row voided meanwhile may do no harm. -/

namespace RetailApp.Concurrency

open Ledger Transaction

def Request.On (orderId : Nat) : Request → Prop
  | .settleOrder _ _ payload => payload.orderId = orderId
  | .reverseSettlementRefund _ _ payload => payload.originalOrderId = orderId
  | .expireUnpaidOrders _ => True

abbrev OnOrder (orderId : Nat) := {request : Request // request.On orderId}

def orderBackend (orderId : Nat) : Protocol (OnOrder orderId) Db Raised Reply Plan :=
  backend.restrict (Request.On orderId)

def sweepOnOrder (orderId : Nat) (env : Env) : OnOrder orderId :=
  ⟨.expireUnpaidOrders env, trivial⟩

structure SameOrder (orderId : Nat) (db db' : Db) : Prop where
  row : db.orders.get? orderId = db'.orders.get? orderId
  payments : db.paymentRecords = db'.paymentRecords
  afterSales : db.afterSalesOrders = db'.afterSalesOrders

theorem SameOrder.symm (orderId : Nat) (db db' : Db) (same : SameOrder orderId db db') :
    SameOrder orderId db' db := ⟨same.row.symm, same.payments.symm, same.afterSales.symm⟩

theorem SameOrder.trans (orderId : Nat) (first second third : Db)
    (left : SameOrder orderId first second) (right : SameOrder orderId second third) :
    SameOrder orderId first third :=
  ⟨left.row.trans right.row, left.payments.trans right.payments,
    left.afterSales.trans right.afterSales⟩

def Agrees (orderId : Nat) (db serial : Db) : Prop := Books serial ∧ SameOrder orderId db serial

def issued (order : Order) : Order :=
  { order with
    status := .pending
    paidAmount := Amount.zero
    settledAt := none
    voidedAt := none
    voidReason := none }

def Later (orderId : Nat) (db db' : Db) : Prop :=
  ∀ order, db.orders.get? orderId = some order →
    ∃ order', db'.orders.get? orderId = some order' ∧ issued order' = issued order

def voidsOrder (orderId : Nat) (now : Time) (loaded : List (Nat × Order)) : Bool :=
  (loaded.lookup orderId).any (overdue now)

/-- A plan that leaves the order alone: a sweep that is not going to void it. -/
def quiet (orderId : Nat) : Plan → Bool
  | .settle _ _ _ => false
  | .refund _ _ _ _ => false
  | .expire env loaded => !voidsOrder orderId env.now loaded

/-- What a plan finds at its commit when no other request has interfered with it: the paid
amount it loaded, on a row that is void only if the order stays partially paid; a refund
also room under the ceiling, and a sweep that voids the order any row but a settled one. -/
def Undisturbed (orderId : Nat) : Plan → Db → Prop
  | .settle _ _ plan, db => ∃ current, db.orders.get? orderId = some current ∧
      current.paidAmount = plan.order.paidAmount ∧
      (current.status = .void → plan.order.status = .partiallyPaid ∧
        plan.order.paidAmount.value + plan.linesTotal < plan.order.finalAmount.value)
  | .refund _ _ _ plan, db => ∃ current, db.orders.get? orderId = some current ∧
      current.paidAmount = plan.order.paidAmount ∧
      (current.status = .void → plan.order.status = .partiallyPaid ∧
        plan.refundAmount < plan.order.paidAmount.value) ∧
      totalRefunded db orderId + plan.refundAmount ≤ plan.order.finalAmount.value
  | .expire env loaded, db => voidsOrder orderId env.now loaded = true →
      ∀ current, db.orders.get? orderId = some current → current.status ≠ .settled

theorem issued_createdAt (order order' : Order) (same : issued order' = issued order) :
    order'.createdAt = order.createdAt := by
  have columns := congrArg Order.createdAt same
  exact columns

theorem issued_finalAmount (order order' : Order) (same : issued order' = issued order) :
    order'.finalAmount = order.finalAmount := by
  have columns := congrArg Order.finalAmount same
  exact columns

theorem issued_flush (loaded assigned current : Order) (same : issued assigned = issued loaded) :
    issued (Order.flush loaded assigned current) = issued current := by
  simp only [issued, Order.mk.injEq] at same
  simp [issued, Order.flush, changed, same]

theorem issued_paidOrder (now : Time) (order : Order) (paidAmount : Amount) :
    issued (paidOrder now order paidAmount) = issued order := by
  unfold paidOrder
  split
  · rfl
  · split <;> rfl

theorem issued_refundedOrder (order : Order) (paidAmount : Amount) :
    issued (refundedOrder order paidAmount) = issued order := by
  unfold refundedOrder
  split
  · rfl
  · split <;> rfl

/-- Two rows of one order that are not void and hold the same money differ at most in when
they were settled: the books determine the rest. -/
theorem same_row (orderId : Nat) (db db' : Db) (loaded current : Order)
    (coherent : Coherent db orderId loaded) (coherent' : Coherent db' orderId current)
    (same : issued current = issued loaded) (paid : current.paidAmount = loaded.paidAmount)
    (alive : loaded.status ≠ .void) (alive' : current.status ≠ .void) :
    current = { loaded with settledAt := current.settledAt } := by
  have status : current.status = loaded.status := by
    rw [coherent.status_open _ _ _ alive, coherent'.status_open _ _ _ alive', paid,
      issued_finalAmount loaded current same]
  obtain ⟨voidedAt, voidReason⟩ := coherent_open db orderId loaded coherent alive
  obtain ⟨voidedAt', voidReason'⟩ := coherent_open db' orderId current coherent' alive'
  obtain ⟨orderNo, cashierUserId, _, subtotal, itemDiscount, orderDiscount, promotionDiscount,
    final, _, createdAt, settledAt, _, _⟩ := current
  simp only [issued, Order.mk.injEq] at same
  simp_all

theorem same_unsettled_row (orderId : Nat) (db db' : Db) (loaded current : Order)
    (coherent : Coherent db orderId loaded) (coherent' : Coherent db' orderId current)
    (same : issued current = issued loaded) (paid : current.paidAmount = loaded.paidAmount)
    (unsettled : isUnsettled loaded = true) (alive' : current.status ≠ .void) :
    current = loaded := by
  have open_loaded := coherent_unsettled db orderId loaded coherent unsettled
  have row := same_row orderId db db' loaded current coherent coherent' same paid
    (unsettled_alive loaded unsettled) alive'
  have status : current.status = loaded.status := congrArg (·.status) row
  have unsettled' : isUnsettled current = true := by
    rw [isUnsettled, status]
    exact unsettled
  have open_current := coherent_unsettled db' orderId current coherent' unsettled'
  rw [row, open_current, ← open_loaded]

theorem settledAt_kept (orderId : Nat) (db db' : Db) (loaded current : Order)
    (coherent : Coherent db orderId loaded) (coherent' : Coherent db' orderId current)
    (status : current.status = loaded.status) (unsettled : loaded.settledAt = none) :
    current.settledAt = none := by
  rw [← Option.not_isSome_iff_eq_none, coherent'.settledAt, status, ← coherent.settledAt, unsettled]
  exact Bool.false_ne_true

theorem allowed_again (env : Env) (payload : ReverseSettlementRequest) (seen place : Db)
    (loaded current : Order) (allowed : RefundAllowed env payload seen loaded)
    (present : place.orders.get? payload.originalOrderId = some current)
    (same : issued current = issued loaded) (status : current.status = loaded.status)
    (paid : current.paidAmount = loaded.paidAmount)
    (room : totalRefunded place payload.originalOrderId + money payload.refundAmount ≤
      loaded.finalAmount.value) : RefundAllowed env payload place current := by
  constructor
  · exact present
  · rw [returnDeadline, issued_createdAt loaded current same]
    exact allowed.window
  · rw [status]
    exact allowed.paid
  · exact allowed.positive
  · rw [paid]
    exact allowed.held
  · rw [issued_finalAmount loaded current same]
    exact room

theorem settleChecks_congr (payload : PaymentSettleRequest) (db db' : Db)
    (row : db.orders.get? payload.orderId = db'.orders.get? payload.orderId) :
    settleChecks db payload = settleChecks db' payload := by
  simp only [settleChecks, row]

theorem refundChecks_congr (env : Env) (payload : ReverseSettlementRequest) (db db' : Db)
    (row : db.orders.get? payload.originalOrderId = db'.orders.get? payload.originalOrderId)
    (afterSales : db.afterSalesOrders = db'.afterSalesOrders) :
    refundChecks env payload db = refundChecks env payload db' := by
  unfold refundChecks getOriginalOrder validateRefundCeiling totalRefunded refundByKey
  rw [row, afterSales]

theorem settle_served (orderId : Nat) (request : OnOrder orderId) (env : Env) (actor : User)
    (payload : PaymentSettleRequest) (plan : SettlePlan) (records : List PaymentRecord)
    (paidAmount : Amount) (seen place : Db) (asked : request.1 = .settleOrder env actor payload)
    (checks : settleChecks seen payload = .ok plan)
    (stores : plan.Stores env actor records paidAmount)
    (row : place.orders.get? payload.orderId = some plan.order) :
    ∃ reply, (orderBackend orderId).serve request place =
      .ok reply (plan.written env actor records paidAmount place) := by
  have checked := settleChecks_ok seen payload plan checks
  have checksNow : settleChecks place payload = .ok plan := by
    rw [← checks]
    exact settleChecks_congr payload place seen (row.trans checked.loaded.symm)
  have planned : (orderBackend orderId).read request place =
      .ok (.inr (.settle env actor plan)) := by
    change read request.1 place = _
    rw [asked]
    exact (read_settle_ok env actor payload place _).mpr ⟨plan, checksNow, rfl⟩
  have settled := (settleCommit_ok env actor plan place _ _).mpr
    ⟨records, paidAmount, plan.order, stores, checked.target ▸ row, rfl, rfl⟩
  exact ⟨_, (Protocol.serve_ok _ _ _ _ _).mpr
    (.inr ⟨_, planned, (map_ok _ _ _ _ _).mpr ⟨_, settled, rfl⟩⟩)⟩

theorem refund_served (orderId : Nat) (request : OnOrder orderId) (env : Env) (actor : User)
    (payload : ReverseSettlementRequest) (loaded order : Order) (record : AfterSalesOrder)
    (paidAmount : Amount) (place : Db)
    (asked : request.1 = .reverseSettlementRefund env actor payload)
    (allowed : RefundAllowed env payload place order)
    (unused : keyTaken place (some payload.idempotencyKey) = false)
    (paid : order.paidAmount = loaded.paidAmount)
    (stores : RefundPlan.Stores env actor payload
      ⟨payload.originalOrderId, loaded, money payload.refundAmount⟩ record paidAmount) :
    ∃ reply, (orderBackend orderId).serve request place =
      .ok reply (RefundPlan.written actor payload
        ⟨payload.originalOrderId, order, money payload.refundAmount⟩ record paidAmount place) := by
  have checks := (refundChecks_ok env payload place _).mpr ⟨order, allowed,
    (refundLookup_inr payload order _ _).mpr
      ⟨refundByKey_unused place payload.idempotencyKey unused, rfl⟩⟩
  have storesNow : RefundPlan.Stores env actor payload
      ⟨payload.originalOrderId, order, money payload.refundAmount⟩ record paidAmount := by
    obtain ⟨stored, nonneg, fits⟩ := stores
    exact ⟨stored, by rw [paid]; exact nonneg, by rw [paid]; exact fits⟩
  have planned : (orderBackend orderId).read request place =
      .ok (.inr (.refund env actor payload
        ⟨payload.originalOrderId, order, money payload.refundAmount⟩)) := by
    change read request.1 place = _
    rw [asked]
    exact (read_refund_ok env actor payload place _).mpr (.inr ⟨_, checks, rfl⟩)
  have refunded := (refundCommit_ok env actor payload _ place _ _).mpr
    ⟨record, paidAmount, storesNow, unused, rfl, rfl⟩
  exact ⟨_, (Protocol.serve_ok _ _ _ _ _).mpr
    (.inr ⟨_, planned, (map_ok _ _ _ _ _).mpr ⟨_, refunded, rfl⟩⟩)⟩

theorem sweepRow_quiet (orderId : Nat) (now : Time) (loaded : List (Nat × Order))
    (silent : voidsOrder orderId now loaded = false) : sweepRow now loaded orderId = id := by
  funext current
  rw [voidsOrder] at silent
  cases found : loaded.lookup orderId with
  | none => rw [sweepRow, found, Option.elim_none, id]
  | some order =>
      rw [found, Option.any_some] at silent
      rw [sweepRow, found, Option.elim_some, sweepOne, if_neg (by simp [silent]), id]

theorem flush_voided (now : Time) (loaded current : Order)
    (unsettled : isUnsettled loaded = true) (unvoided : loaded.voidedAt = none)
    (reasonless : loaded.voidReason = none) :
    Order.flush loaded (voided now loaded) current = voided now current := by
  have notVoid := (unsettled_alive loaded unsettled).symm
  simp [Order.flush, voided, changed, unvoided, reasonless, notVoid]

/-- An UPDATE that leaves the status alone commutes with a sweep that voids the row. -/
theorem flush_over_voided (now : Time) (loaded assigned : Order)
    (status : assigned.status = loaded.status) (voidedAt : assigned.voidedAt = loaded.voidedAt)
    (voidReason : assigned.voidReason = loaded.voidReason) :
    Order.flush loaded assigned (voided now loaded) = voided now assigned := by
  simp [Order.flush, voided, status, voidedAt, voidReason]

theorem expired_of_hit (now : Time) (order : Order) (unsettled : isUnsettled order = true)
    (late : overdue now order = true) : expired now order = voided now order :=
  if_pos ⟨unsettled, late⟩

theorem step_expire_same (orderId : Nat) (env : Env) (db : Db)
    (kept : ∀ order, db.orders.get? orderId = some order → expired env.now order = order) :
    SameOrder orderId (step db (.expireUnpaidOrders env)) db := by
  have change := expireUnpaidOrders_change env db
  refine ⟨?_, change.payments, change.afterSales⟩
  refine (change.rows orderId).trans ?_
  cases present : db.orders.get? orderId with
  | none => rfl
  | some order => rw [Option.map_some, kept order present]

theorem serve_expire (orderId : Nat) (env : Env) (db : Db) :
    ∃ reply, (orderBackend orderId).serve (sweepOnOrder orderId env) db =
      .ok reply (step db (.expireUnpaidOrders env)) := by
  obtain ⟨counts, committed⟩ := commit_expire env (unpaidOrders db env) db
  have returned : (orderBackend orderId).serve (sweepOnOrder orderId env) db =
      .ok (.expired counts) (swept env.now (unpaidOrders db env) db) :=
    (Protocol.serve_ok _ _ _ _ _).mpr (.inr ⟨.expire env (unpaidOrders db env), rfl, committed⟩)
  have same : step db (.expireUnpaidOrders env) = swept env.now (unpaidOrders db env) db :=
    after_ok _ _ _ _ (expireUnpaidOrders_eq env db)
  exact ⟨.expired counts, same ▸ returned⟩

theorem serve_step (orderId : Nat) (request : OnOrder orderId) (db db' : Db) (reply : Reply)
    (returned : (orderBackend orderId).serve request db = .ok reply db') :
    step db request.1.call = db' := serve_call request.1 db db' reply returned

theorem served_books (orderId : Nat) (db db' : Db) (requests : List (OnOrder orderId))
    (served : (orderBackend orderId).Served db requests db') (books : Books db) : Books db' := by
  induction served with
  | nil => exact books
  | cons _ between _ request _ reply returned _ ih =>
      exact ih (serve_step orderId request _ between reply returned ▸ step_books _ _ books)

theorem serve_row (orderId : Nat) (request : OnOrder orderId) (db db' : Db) (reply : Reply)
    (returned : (orderBackend orderId).serve request db = .ok reply db') (order' : Order)
    (found : db'.orders.get? orderId = some order') :
    ∃ order, db.orders.get? orderId = some order ∧
      (order' = order ∨ order'.status ≠ .void ∨
        ∃ env, request = sweepOnOrder orderId env ∧ isUnsettled order = true ∧
          overdue env.now order = true) := by
  have change := step_change db request.1.call
  rw [serve_step orderId request db db' reply returned] at change
  have unmoved (same : ledgerTables db' = ledgerTables db) :
      db.orders.get? orderId = some order' := by
    have orders : db'.orders = db.orders := congrArg Prod.fst same
    exact orders ▸ found
  obtain ⟨request, target⟩ := request
  cases request with
  | settleOrder env actor payload =>
      cases change with
      | unchanged _ same => exact ⟨order', unmoved same, .inl rfl⟩
      | settled _ _ _ order records paidAmount change =>
          obtain rfl : payload.orderId = orderId := target
          rw [change.orders.row, if_pos rfl] at found
          obtain rfl := Option.some.inj found
          exact ⟨order, change.loaded, .inr (.inl (paidOrder_alive env.now order paidAmount))⟩
  | reverseSettlementRefund env actor payload =>
      cases change with
      | unchanged _ same => exact ⟨order', unmoved same, .inl rfl⟩
      | refunded _ _ _ order record paidAmount change =>
          obtain rfl : payload.originalOrderId = orderId := target
          rw [change.orders.row, if_pos rfl] at found
          obtain rfl := Option.some.inj found
          exact ⟨order, change.allowed.loaded, .inr (.inl (refundedOrder_alive order paidAmount))⟩
  | expireUnpaidOrders env =>
      cases change with
      | unchanged _ same => exact ⟨order', unmoved same, .inl rfl⟩
      | swept _ change =>
          rw [change.rows] at found
          obtain ⟨order, present, rfl⟩ := Option.map_eq_some_iff.mp found
          refine ⟨order, present, ?_⟩
          by_cases hit : isUnsettled order = true ∧ overdue env.now order = true
          · exact .inr (.inr ⟨env, rfl, hit⟩)
          · exact .inl (if_neg hit)

theorem serve_void (orderId : Nat) (request : OnOrder orderId) (db db' : Db) (reply : Reply)
    (returned : (orderBackend orderId).serve request db = .ok reply db') (order : Order)
    (present : db.orders.get? orderId = some order) (void : order.status = .void) :
    (∃ env, request = sweepOnOrder orderId env) ∧ SameOrder orderId db' db := by
  have after_request := serve_step orderId request db db' reply returned
  obtain ⟨request, target⟩ := request
  rcases (Protocol.serve_ok _ _ _ _ _).mp returned with ⟨answered, _⟩ | ⟨plan, planned, _⟩
  · obtain ⟨env, actor, payload, response, rfl, checks, _⟩ :=
      read_answered request db reply answered
    obtain rfl : payload.originalOrderId = orderId := target
    obtain ⟨loaded, allowed, _⟩ := (refundChecks_ok env payload db _).mp checks
    obtain rfl := Option.some.inj (present.symm.trans allowed.loaded)
    rcases allowed.paid with status | status <;> simp [void] at status
  · cases read_planned request db plan planned with
    | settle env actor payload plan checks =>
        obtain rfl : payload.orderId = orderId := target
        have checked := settleChecks_ok db payload plan checks
        obtain rfl := Option.some.inj (present.symm.trans checked.loaded)
        rcases checked.unsettled with status | status <;> simp [void] at status
    | refund env actor payload loaded allowed checks =>
        obtain rfl : payload.originalOrderId = orderId := target
        obtain rfl := Option.some.inj (present.symm.trans allowed.loaded)
        rcases allowed.paid with status | status <;> simp [void] at status
    | expire env =>
        refine ⟨⟨env, rfl⟩, ?_⟩
        have same : step db (.expireUnpaidOrders env) = db' := after_request
        rw [← same]
        apply step_expire_same
        intro order' found
        obtain rfl := Option.some.inj (present.symm.trans found)
        simp [expired, isUnsettled, void]

def AllSweeps (orderId : Nat) (requests : List (OnOrder orderId)) : Prop :=
  ∀ request ∈ requests, ∃ env, request = sweepOnOrder orderId env

theorem served_void (orderId : Nat) (db db' : Db) (requests : List (OnOrder orderId))
    (served : (orderBackend orderId).Served db requests db') (order : Order)
    (present : db.orders.get? orderId = some order) (void : order.status = .void) :
    AllSweeps orderId requests ∧ SameOrder orderId db' db := by
  induction served with
  | nil => exact ⟨fun _ member => (List.not_mem_nil member).elim, rfl, rfl, rfl⟩
  | cons db between _ request requests reply returned _ ih =>
      obtain ⟨sweep, same⟩ :=
        serve_void orderId request db between reply returned order present void
      obtain ⟨sweeps, later⟩ := ih (same.row.trans present)
      refine ⟨?_, later.trans orderId _ _ _ same⟩
      intro other member
      rcases List.mem_cons.mp member with rfl | member
      · exact sweep
      · exact sweeps other member

theorem sweeps_served (orderId : Nat) (db : Db) (requests : List (OnOrder orderId))
    (sweeps : AllSweeps orderId requests) (order : Order)
    (present : db.orders.get? orderId = some order) (void : order.status = .void) :
    ∃ db', (orderBackend orderId).Served db requests db' := by
  induction requests generalizing db with
  | nil => exact ⟨db, .nil db⟩
  | cons request requests ih =>
      obtain ⟨env, rfl⟩ := sweeps request List.mem_cons_self
      obtain ⟨reply, returned⟩ := serve_expire orderId env db
      obtain ⟨_, same⟩ := serve_void orderId _ db _ reply returned order present void
      obtain ⟨db', rest⟩ := ih _ (fun other member => sweeps other (List.mem_cons_of_mem _ member))
        (same.row.trans present)
      exact ⟨db', .cons _ _ _ _ _ reply returned rest⟩

theorem served_present (orderId : Nat) (db db' : Db) (requests : List (OnOrder orderId))
    (served : (orderBackend orderId).Served db requests db') (order' : Order)
    (found : db'.orders.get? orderId = some order') :
    ∃ order, db.orders.get? orderId = some order := by
  induction served with
  | nil => exact ⟨order', found⟩
  | cons db between _ request requests reply returned _ ih =>
      obtain ⟨order, present⟩ := ih found
      obtain ⟨before, presentBefore, _⟩ :=
        serve_row orderId request db between reply returned order present
      exact ⟨before, presentBefore⟩

/-- The sweep that voided an order stands somewhere in the serial order, and only sweeps
that leave the order alone come after it. -/
structure VoidedBy (orderId : Nat) (db final : Db) (requests : List (OnOrder orderId))
    (early late : List (OnOrder orderId)) (env : Env) (before : Db) (order : Order) : Prop where
  split : requests = early ++ sweepOnOrder orderId env :: late
  served : (orderBackend orderId).Served db early before
  present : before.orders.get? orderId = some order
  unsettled : isUnsettled order = true
  late_sweeps : AllSweeps orderId late
  same : SameOrder orderId final (step before (.expireUnpaidOrders env))
  overdue : overdue env.now order = true

theorem served_voids (orderId : Nat) (db final : Db) (requests : List (OnOrder orderId))
    (served : (orderBackend orderId).Served db requests final) (order order' : Order)
    (present : db.orders.get? orderId = some order) (alive : order.status ≠ .void)
    (found : final.orders.get? orderId = some order') (void : order'.status = .void) :
    ∃ early late env before middle,
      VoidedBy orderId db final requests early late env before middle := by
  induction served generalizing order with
  | nil =>
      obtain rfl := Option.some.inj (present.symm.trans found)
      exact (alive void).elim
  | cons db between final request requests reply returned rest ih =>
      obtain ⟨middle, presentMiddle⟩ :=
        served_present orderId between final requests rest order' found
      by_cases voidMiddle : middle.status = .void
      · obtain ⟨before, presentBefore, same | alive' | ⟨env, rfl, unsettled, late⟩⟩ :=
          serve_row orderId request db between reply returned middle presentMiddle
        · obtain rfl := Option.some.inj (presentBefore.symm.trans present)
          exact (alive (same ▸ voidMiddle)).elim
        · exact (alive' voidMiddle).elim
        · obtain ⟨sweeps, same⟩ :=
            served_void orderId between final requests rest middle presentMiddle voidMiddle
          have stepped := serve_step orderId _ db between reply returned
          exact ⟨[], requests, env, db, before, rfl, .nil db, presentBefore, unsettled, sweeps,
            stepped ▸ same, late⟩
      · obtain ⟨early, late, env, before, hit, by_sweep⟩ := ih middle presentMiddle voidMiddle found
        exact ⟨request :: early, late, env, before, hit,
          by rw [by_sweep.split, List.cons_append], .cons _ _ _ _ _ reply returned by_sweep.served,
          by_sweep.present, by_sweep.unsettled, by_sweep.late_sweeps, by_sweep.same,
          by_sweep.overdue⟩

theorem expire_row (orderId : Nat) (env : Env) (db : Db) (order : Order)
    (present : db.orders.get? orderId = some order) (unsettled : isUnsettled order = true)
    (late : overdue env.now order = true) :
    (step db (.expireUnpaidOrders env)).orders.get? orderId = some (voided env.now order) := by
  refine ((expireUnpaidOrders_change env db).rows orderId).trans ?_
  rw [present, Option.map_some, expired_of_hit env.now order unsettled late]

/-- A request that comes after the order is void may as well have come just before the sweep
that voided it, as long as that sweep finds the order void or voids it then. -/
theorem served_before_sweep (orderId : Nat) (db final : Db) (requests : List (OnOrder orderId))
    (early late : List (OnOrder orderId)) (first : Env) (before : Db) (order : Order)
    (voids : VoidedBy orderId db final requests early late first before order)
    (request : OnOrder orderId) (reply : Reply) (between : Db) (moved : Order)
    (returned : (orderBackend orderId).serve request before = .ok reply between)
    (present : between.orders.get? orderId = some moved)
    (void : (expired first.now moved).status = .void) :
    ∃ requests' final', requests'.Perm (request :: requests) ∧
      (orderBackend orderId).Served db requests' final' ∧
      final'.orders.get? orderId = some (expired first.now moved) ∧
      final'.paymentRecords = between.paymentRecords ∧
      final'.afterSalesOrders = between.afterSalesOrders := by
  obtain ⟨replyFirst, returnedFirst⟩ := serve_expire orderId first between
  have change := expireUnpaidOrders_change first between
  have row : (step between (.expireUnpaidOrders first)).orders.get? orderId =
      some (expired first.now moved) := by
    refine (change.rows orderId).trans ?_
    rw [present, Option.map_some]
  obtain ⟨final', rest⟩ := sweeps_served orderId _ late voids.late_sweeps _ row void
  obtain ⟨_, same⟩ := served_void orderId _ final' late rest _ row void
  refine ⟨early ++ request :: sweepOnOrder orderId first :: late, final', ?_, ?_,
    same.row.trans row, same.payments.trans change.payments,
    same.afterSales.trans change.afterSales⟩
  · rw [voids.split]
    exact List.perm_middle
  · exact (orderBackend orderId).served_append _ _ _ _ _ voids.served
      (.cons _ _ _ _ _ reply returned (.cons _ _ _ _ _ replyFirst returnedFirst rest))

theorem voided_since (orderId : Nat) (db then_ final : Db) (requests requestsThen :
    List (OnOrder orderId)) (runsThen : (orderBackend orderId).Served db requestsThen then_)
    (runs : (orderBackend orderId).Served db requests final) (loaded current : Order)
    (presentThen : then_.orders.get? orderId = some loaded) (alive : loaded.status ≠ .void)
    (present : final.orders.get? orderId = some current) (void : current.status = .void) :
    ∃ early late env before order,
      VoidedBy orderId db final requests early late env before order ∧
        current = voided env.now order := by
  obtain ⟨first, presentFirst⟩ := served_present orderId db final requests runs current present
  have aliveFirst : first.status ≠ .void := by
    intro voidFirst
    obtain ⟨_, same⟩ :=
      served_void orderId db then_ requestsThen runsThen first presentFirst voidFirst
    obtain rfl := Option.some.inj ((same.row.trans presentFirst).symm.trans presentThen)
    exact alive voidFirst
  obtain ⟨early, late, env, before, order, voids⟩ := served_voids orderId db final requests runs
    first current presentFirst aliveFirst present void
  have row := voids.same.row.trans (expire_row orderId env before order voids.present
    voids.unsettled voids.overdue)
  exact ⟨early, late, env, before, order, voids, Option.some.inj (present.symm.trans row)⟩

end RetailApp.Concurrency
