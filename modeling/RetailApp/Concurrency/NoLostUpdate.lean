import RetailApp.Concurrency.OneOrder

/-! The laws of two-step requests for the requests on one order, and what follows: no update
is lost along a schedule exactly as long as its commits find what they loaded. -/

namespace RetailApp.Concurrency

open Ledger Transaction

abbrev PlanOrigin (orderId : Nat) (start : Db) :=
  Protocol.Origin (orderBackend orderId) start (Agrees orderId) (Later orderId)

structure LoadedSince (orderId : Nat) (start : Db) (loaded : Order) (db : Db) : Prop where
  served : ∃ requests final, (orderBackend orderId).Served start requests final ∧
    final.orders.get? orderId = some loaded ∧ Coherent final orderId loaded
  kept : ∃ current, db.orders.get? orderId = some current ∧ issued current = issued loaded

theorem loadedSince (orderId : Nat) (start seen final db : Db) (requests : List (OnOrder orderId))
    (loaded : Order) (runs : (orderBackend orderId).Served start requests final)
    (agrees : Agrees orderId seen final) (since : Later orderId seen db)
    (present : seen.orders.get? orderId = some loaded) : LoadedSince orderId start loaded db := by
  have presentFinal := agrees.2.row.symm.trans present
  exact ⟨⟨requests, final, runs, presentFinal, agrees.1.orders orderId loaded presentFinal⟩,
    since loaded present⟩

theorem settle_origin (orderId : Nat) (start db : Db) (request : OnOrder orderId) (env : Env)
    (actor : User) (plan : SettlePlan)
    (origin : PlanOrigin orderId start request (.settle env actor plan) db) :
    ∃ payload seen, request.1 = .settleOrder env actor payload ∧ payload.orderId = orderId ∧
      settleChecks seen payload = .ok plan ∧ LoadedSince orderId start plan.order db := by
  obtain ⟨seen, requests, final, runs, agrees, since, planned⟩ := origin
  obtain ⟨request, target⟩ := request
  cases read_planned request seen _ planned with
  | settle _ _ payload _ checks =>
      have loaded := (settleChecks_ok seen payload plan checks).loaded
      obtain rfl : payload.orderId = orderId := target
      exact ⟨payload, seen, rfl, rfl, checks,
        loadedSince _ start seen final db requests plan.order runs agrees since loaded⟩

theorem refund_origin (orderId : Nat) (start db : Db) (request : OnOrder orderId) (env : Env)
    (actor : User) (payload : ReverseSettlementRequest) (plan : RefundPlan)
    (origin : PlanOrigin orderId start request (.refund env actor payload plan) db) :
    ∃ seen order, request.1 = .reverseSettlementRefund env actor payload ∧
      payload.originalOrderId = orderId ∧ RefundAllowed env payload seen order ∧
      plan = ⟨payload.originalOrderId, order, money payload.refundAmount⟩ ∧
      LoadedSince orderId start order db := by
  obtain ⟨seen, requests, final, runs, agrees, since, planned⟩ := origin
  obtain ⟨request, target⟩ := request
  cases read_planned request seen _ planned with
  | refund _ _ _ order allowed _ =>
      obtain rfl : payload.originalOrderId = orderId := target
      exact ⟨seen, order, rfl, rfl, allowed, rfl,
        loadedSince _ start seen final db requests order runs agrees since allowed.loaded⟩

theorem expire_origin (orderId : Nat) (start db : Db) (request : OnOrder orderId) (env : Env)
    (loaded : List (Nat × Order))
    (origin : PlanOrigin orderId start request (.expire env loaded) db) :
    request = sweepOnOrder orderId env ∧ ∃ seen, loaded = unpaidOrders seen env ∧
      ∀ order, seen.orders.get? orderId = some order → LoadedSince orderId start order db := by
  obtain ⟨seen, requests, final, runs, agrees, since, planned⟩ := origin
  obtain ⟨request, target⟩ := request
  cases read_planned request seen _ planned with
  | expire _ =>
      exact ⟨rfl, seen, rfl, fun order present =>
        loadedSince orderId start seen final db requests order runs agrees since present⟩

theorem later_refl (orderId : Nat) (db : Db) : Later orderId db db :=
  fun order present => ⟨order, present, rfl⟩

theorem later_trans (orderId : Nat) (first second third : Db) (left : Later orderId first second)
    (right : Later orderId second third) : Later orderId first third := by
  intro order present
  obtain ⟨middle, presentMiddle, sameMiddle⟩ := left order present
  obtain ⟨last, presentLast, sameLast⟩ := right middle presentMiddle
  exact ⟨last, presentLast, sameLast.trans sameMiddle⟩

theorem later_of_flush (orderId : Nat) (db db' : Db) (loaded assigned : Order)
    (row : db'.orders.get? orderId = (db.orders.get? orderId).map (Order.flush loaded assigned))
    (kept : issued assigned = issued loaded) : Later orderId db db' := by
  intro order present
  exact ⟨Order.flush loaded assigned order, by rw [row, present, Option.map_some],
    issued_flush loaded assigned order kept⟩

theorem answered_at_once (orderId : Nat) (request : OnOrder orderId) (db final : Db) (reply : Reply)
    (agrees : Agrees orderId db final) (answered : read request.1 db = .ok (.inl reply)) :
    ∃ reply' final', (orderBackend orderId).serve request final = .ok reply' final' ∧
      Agrees orderId db final' := by
  refine ⟨reply, final, (Protocol.serve_ok _ _ _ _ _).mpr (.inl ⟨?_, rfl⟩), agrees⟩
  obtain ⟨request, target⟩ := request
  obtain ⟨env, actor, payload, response, rfl, _, _⟩ := read_answered request db reply answered
  obtain rfl : payload.originalOrderId = orderId := target
  have same := refundChecks_congr env payload db final agrees.2.row agrees.2.afterSales
  change read (.reverseSettlementRefund env actor payload) final = _
  rw [read, ← same]
  exact answered

theorem not_voided (orderId : Nat) (env : Env) (db : Db)
    (silent : voidsOrder orderId env.now (unpaidOrders db env) = false) (order : Order)
    (present : db.orders.get? orderId = some order) : expired env.now order = order := by
  rw [voidsOrder, unpaidOrders, Table.lookup_select, present] at silent
  apply if_neg
  rintro ⟨unsettled, late⟩
  simp [Option.filter, unsettled, late] at silent

theorem quiet_read (orderId : Nat) (request : OnOrder orderId) (db final : Db) (plan : Plan)
    (agrees : Agrees orderId db final) (planned : read request.1 db = .ok (.inr plan))
    (silent : quiet orderId plan = true) :
    ∃ reply' final', (orderBackend orderId).serve request final = .ok reply' final' ∧
      Agrees orderId db final' := by
  obtain ⟨request, target⟩ := request
  cases read_planned request db plan planned with
  | settle env actor payload plan checks => cases silent
  | refund env actor payload order allowed checks => cases silent
  | expire env =>
      have untouched : voidsOrder orderId env.now (unpaidOrders db env) = false := by
        simpa [quiet] using silent
      obtain ⟨reply, returned⟩ := serve_expire orderId env final
      refine ⟨reply, _, returned, step_books final _ agrees.1, agrees.2.trans orderId _ _ _ ?_⟩
      apply SameOrder.symm
      apply step_expire_same
      intro order present
      exact not_voided orderId env db untouched order (agrees.2.row.trans present)

theorem swept_row (orderId : Nat) (env : Env) (seen db : Db) :
    (swept env.now (unpaidOrders seen env) db).orders.get? orderId =
      (db.orders.get? orderId).map (sweepRow env.now (unpaidOrders seen env) orderId) :=
  get?_swept env.now (unpaidOrders seen env) db orderId (Table.select_keys seen.orders _ _)

theorem quiet_commit (orderId : Nat) (start : Db) (request : OnOrder orderId) (plan : Plan)
    (db final : Db) (origin : PlanOrigin orderId start request plan db)
    (agrees : Agrees orderId db final) (silent : quiet orderId plan = true) :
    ∃ reply db', commit plan db = .ok reply db' ∧ Later orderId db db' ∧
      Agrees orderId db' final := by
  cases plan with
  | settle env actor plan => cases silent
  | refund env actor payload plan => cases silent
  | expire env loaded =>
      obtain ⟨_, seen, rfl, _⟩ := expire_origin orderId start db request env loaded origin
      have untouched : voidsOrder orderId env.now (unpaidOrders seen env) = false := by
        simpa [quiet] using silent
      obtain ⟨counts, committed⟩ := commit_expire env (unpaidOrders seen env) db
      have row := swept_row orderId env seen db
      rw [sweepRow_quiet orderId env.now _ untouched, Option.map_id, id] at row
      obtain ⟨payments, afterSales⟩ := swept_keeps env.now (unpaidOrders seen env) db
      refine ⟨_, _, committed, ?_, agrees.1, row.trans agrees.2.row,
        payments.trans agrees.2.payments, afterSales.trans agrees.2.afterSales⟩
      intro order present
      exact ⟨order, row.trans present, rfl⟩

def PaidNet (orderId : Nat) (db : Db) : Prop :=
  ∀ order, db.orders.get? orderId = some order →
    order.paidAmount.value = collected db orderId - refunded db orderId ∧
      order.paidAmount.value ≤ order.finalAmount.value

theorem paidNet_of_agrees (orderId : Nat) (db serial : Db) (agrees : Agrees orderId db serial) :
    PaidNet orderId db := by
  obtain ⟨books, same⟩ := agrees
  intro order present
  have reconciled := (books.orders orderId order (same.row.symm.trans present)).reconciled
  rw [collected, refunded, same.payments, same.afterSales]
  exact ⟨reconciled.paid, reconciled.covered⟩

theorem agrees_coherent (orderId : Nat) (db serial : Db) (agrees : Agrees orderId db serial)
    (order : Order) (present : db.orders.get? orderId = some order) :
    Coherent serial orderId order :=
  agrees.1.orders orderId order (agrees.2.row.symm.trans present)

/-- A commit explained: the requests served so far and its own, in some order. -/
def OneMore (orderId : Nat) (start : Db) (request : OnOrder orderId)
    (served : List (OnOrder orderId)) (db db' : Db) : Prop :=
  Later orderId db db' ∧ ∃ served' final', served'.Perm (request :: served) ∧
    (orderBackend orderId).Served start served' final' ∧ Agrees orderId db' final'

theorem one_more_last (orderId : Nat) (start db db' final final' : Db) (request : OnOrder orderId)
    (served : List (OnOrder orderId)) (reply : Reply) (since : Later orderId db db')
    (runs : (orderBackend orderId).Served start served final) (books : Books final)
    (returned : (orderBackend orderId).serve request final = .ok reply final')
    (same : SameOrder orderId db' final') : OneMore orderId start request served db db' := by
  refine ⟨since, served ++ [request], final', List.perm_append_singleton _ _,
    Protocol.served_snoc _ _ _ _ _ _ _ runs returned, ?_, same⟩
  rw [← serve_step orderId request final final' reply returned]
  exact step_books final _ books

theorem voided_loaded (orderId : Nat) (start db final : Db) (requests : List (OnOrder orderId))
    (loaded current : Order) (books : Books start) (since : LoadedSince orderId start loaded db)
    (runs : (orderBackend orderId).Served start requests final) (agrees : Agrees orderId db final)
    (present : db.orders.get? orderId = some current)
    (paid : current.paidAmount = loaded.paidAmount) (unsettled : isUnsettled loaded = true)
    (void : current.status = .void) :
    ∃ early late env before, VoidedBy orderId start final requests early late env before loaded ∧
      current = voided env.now loaded := by
  obtain ⟨⟨requestsThen, then_, runsThen, presentThen, coherent⟩, _, present', same⟩ := since
  obtain rfl := Option.some.inj (present.symm.trans present')
  obtain ⟨early, late, env, before, order, voids, rfl⟩ := voided_since orderId start then_ final
    requests requestsThen runsThen runs loaded current presentThen
    (unsettled_alive loaded unsettled) (agrees.2.row.symm.trans present) void
  have booksBefore := served_books orderId start before early voids.served books
  obtain rfl : order = loaded := same_unsettled_row orderId then_ before loaded order coherent
    (booksBefore.orders orderId order voids.present) same paid unsettled
    (unsettled_alive order voids.unsettled)
  exact ⟨early, late, env, before, voids, rfl⟩

/-- A commit on a row voided meanwhile by an UPDATE that leaves the status alone: the
request comes just before the sweep. -/
theorem commit_over_voided (orderId : Nat) (start db db' final : Db)
    (requests early late : List (OnOrder orderId)) (first : Env) (before : Db) (loaded : Order)
    (books : Books start) (since : Later orderId db db')
    (voids : VoidedBy orderId start final requests early late first before loaded)
    (request : OnOrder orderId) (reply : Reply) (between : Db) (assigned : Order)
    (returned : (orderBackend orderId).serve request before = .ok reply between)
    (row : between.orders.get? orderId = some assigned)
    (row' : db'.orders.get? orderId = some (Order.flush loaded assigned (voided first.now loaded)))
    (kept : issued assigned = issued loaded) (status : assigned.status = loaded.status)
    (unvoided : assigned.voidedAt = loaded.voidedAt ∧ assigned.voidReason = loaded.voidReason)
    (payments : db'.paymentRecords = between.paymentRecords)
    (afterSales : db'.afterSalesOrders = between.afterSalesOrders) :
    OneMore orderId start request requests db db' := by
  have unsettled : isUnsettled assigned = true := by
    rw [isUnsettled, status]
    exact voids.unsettled
  have overdue_then : overdue first.now assigned = true := by
    rw [overdue, issued_createdAt loaded assigned kept]
    exact voids.overdue
  have expires := expired_of_hit first.now assigned unsettled overdue_then
  obtain ⟨served', final', perm, runs, rowFinal, paymentsFinal, afterSalesFinal⟩ :=
    served_before_sweep orderId start final requests early late first before loaded voids request
      reply between assigned returned row (by rw [expires]; rfl)
  refine ⟨since, served', final', perm, runs, served_books orderId start final' served' runs books,
    ?_, payments.trans paymentsFinal.symm, afterSales.trans afterSalesFinal.symm⟩
  rw [row', rowFinal, expires,
    flush_over_voided first.now loaded assigned status unvoided.1 unvoided.2]

theorem voids_records (orderId : Nat) (start final : Db)
    (requests early late : List (OnOrder orderId)) (first : Env) (before : Db) (order : Order)
    (voids : VoidedBy orderId start final requests early late first before order) :
    final.paymentRecords = before.paymentRecords ∧
      final.afterSalesOrders = before.afterSalesOrders := by
  have change := expireUnpaidOrders_change first before
  exact ⟨voids.same.payments.trans change.payments, voids.same.afterSales.trans change.afterSales⟩

theorem settle_commit (orderId : Nat) (start : Db) (request : OnOrder orderId) (env : Env)
    (actor : User) (plan : SettlePlan) (db final db' : Db) (served : List (OnOrder orderId))
    (reply : Reply) (books : Books start)
    (origin : PlanOrigin orderId start request (.settle env actor plan) db)
    (agrees : Agrees orderId db final)
    (runs : (orderBackend orderId).Served start served final)
    (undisturbed : Undisturbed orderId (.settle env actor plan) db)
    (committed : commit (.settle env actor plan) db = .ok reply db') :
    OneMore orderId start request served db db' := by
  obtain ⟨payload, seen, asked, target, checks, since⟩ :=
    settle_origin orderId start db request env actor plan origin
  have checked := settleChecks_ok seen payload plan checks
  have planTarget : plan.orderId = orderId := checked.target.trans target
  obtain ⟨response, settled, _⟩ := (map_ok _ _ _ _ _).mp committed
  obtain ⟨records, paidAmount, _, stores, _, _, rfl⟩ :=
    (settleCommit_ok env actor plan db db' response).mp settled
  obtain ⟨current, present, paid, overVoid⟩ := undisturbed
  have row (place : Db) : (plan.written env actor records paidAmount place).orders.get? orderId =
      (place.orders.get? orderId).map
        (Order.flush plan.order (paidOrder env.now plan.order paidAmount)) := by
    rw [SettlePlan.written, planTarget, Table.get?_modify_self]
  have issuedOnce := issued_paidOrder env.now plan.order paidAmount
  have later := later_of_flush orderId db _ _ _ (row db) issuedOnce
  have unsettled := (isUnsettled_iff plan.order).mpr checked.unsettled
  by_cases void : current.status = .void
  · obtain ⟨partly, below⟩ := overVoid void
    obtain ⟨early, late, first, before, voids, rfl⟩ := voided_loaded orderId start db final served
      plan.order current books since runs agrees present paid unsettled void
    obtain ⟨reply', returned⟩ := settle_served orderId request env actor payload plan records
      paidAmount seen before asked checks stores (target ▸ voids.present)
    obtain ⟨payments, afterSales⟩ := voids_records orderId start final served early late first
      before plan.order voids
    have amounts := settledAmounts env actor payload seen plan records paidAmount checked stores
    have status : (paidOrder env.now plan.order paidAmount).status = plan.order.status := by
      have held : 0 ≤ plan.order.paidAmount.value := by
        obtain ⟨_, _, _, _, coherent⟩ := since.served
        exact coherent.reconciled.nonneg
      have short_of_all : paidAmount.value ≠ plan.order.finalAmount.value ∧
          paidAmount.value ≠ 0 := by
        rw [amounts.paid]
        exact ⟨below.ne, (add_pos_of_nonneg_of_pos held checked.positive).ne'⟩
      rw [paidOrder_status, if_neg short_of_all.1, if_neg short_of_all.2, partly]
    obtain ⟨_, _, _, voidedAt, voidReason⟩ := paidOrder_keeps env.now plan.order paidAmount
    refine commit_over_voided orderId start db _ final served early late first before plan.order
      books later voids request reply' _ _ returned ?_ ?_ issuedOnce status ⟨voidedAt, voidReason⟩
      ?_ ?_
    · rw [row before, voids.present, Option.map_some, Order.flush_loaded]
    · rw [row db, present, Option.map_some]
    · simp only [SettlePlan.written, agrees.2.payments, payments]
    · exact agrees.2.afterSales.trans afterSales
  · obtain ⟨⟨_, then_, _, _, coherent⟩, _, present', same⟩ := since
    obtain rfl := Option.some.inj (present.symm.trans present')
    obtain rfl : current = plan.order := same_unsettled_row orderId then_ final plan.order current
      coherent (agrees_coherent orderId db final agrees current present) same paid unsettled void
    obtain ⟨reply', returned⟩ := settle_served orderId request env actor payload plan records
      paidAmount seen final asked checks stores (target ▸ agrees.2.row.symm.trans present)
    apply one_more_last orderId start db _ final _ request served reply' later runs agrees.1
      returned
    refine ⟨?_, ?_, agrees.2.afterSales⟩
    · rw [row db, row final, agrees.2.row]
    · simp only [SettlePlan.written, agrees.2.payments]

theorem flush_refunded (loaded current : Order) (paidAmount : Amount)
    (row : current = { loaded with settledAt := current.settledAt })
    (unsettled : loaded.settledAt = none → current.settledAt = none)
    (below : paidAmount.value < loaded.finalAmount.value) :
    Order.flush loaded (refundedOrder loaded paidAmount) current =
      refundedOrder current paidAmount := by
  obtain ⟨settledAt, rfl⟩ : ∃ settledAt, current = { loaded with settledAt := settledAt } :=
    ⟨current.settledAt, row⟩
  have reset : changed loaded.settledAt none settledAt = none := by
    unfold changed
    split
    · rename_i same
      exact unsettled same.symm
    · rfl
  unfold refundedOrder
  rw [money_amount, if_pos below, if_pos below]
  split
  · simp [Order.flush, reset]
  · simp [Order.flush, reset]

theorem refund_commit (orderId : Nat) (start : Db) (request : OnOrder orderId) (env : Env)
    (actor : User) (payload : ReverseSettlementRequest) (plan : RefundPlan) (db final db' : Db)
    (served : List (OnOrder orderId)) (reply : Reply) (books : Books start)
    (origin : PlanOrigin orderId start request (.refund env actor payload plan) db)
    (agrees : Agrees orderId db final)
    (runs : (orderBackend orderId).Served start served final)
    (undisturbed : Undisturbed orderId (.refund env actor payload plan) db)
    (committed : commit (.refund env actor payload plan) db = .ok reply db') :
    OneMore orderId start request served db db' := by
  obtain ⟨seen, order, asked, target, allowed, rfl, since⟩ :=
    refund_origin orderId start db request env actor payload plan origin
  subst target
  obtain ⟨response, refunded, _⟩ := (map_ok _ _ _ _ _).mp committed
  obtain ⟨record, paidAmount, stores, free, _, rfl⟩ :=
    (refundCommit_ok env actor payload _ db db' response).mp refunded
  obtain ⟨current, present, paid, overVoid, room⟩ := undisturbed
  have row (loaded : Order) (place : Db) : (RefundPlan.written actor payload
      ⟨payload.originalOrderId, loaded, money payload.refundAmount⟩ record paidAmount
        place).orders.get? payload.originalOrderId =
      (place.orders.get? payload.originalOrderId).map
        (Order.flush loaded (refundedOrder loaded paidAmount)) := by
    rw [RefundPlan.written, Table.get?_modify_self]
  have issuedOnce := issued_refundedOrder order paidAmount
  have later := later_of_flush payload.originalOrderId db _ _ _ (row order db) issuedOnce
  have stored := refundedAmount env actor payload _ record paidAmount rfl stores
  have below : paidAmount.value < order.finalAmount.value := by
    obtain ⟨_, _, _, _, coherent⟩ := since.served
    rw [stored]
    exact coherent_below _ _ order _ coherent allowed.positive
  have unusedAt (place : Db) (same : place.afterSalesOrders = db.afterSalesOrders) :
      keyTaken place (some payload.idempotencyKey) = false := by
    rw [keyTaken, same]
    exact free
  have roomAt (place : Db) (same : place.afterSalesOrders = db.afterSalesOrders) :
      totalRefunded place payload.originalOrderId + money payload.refundAmount ≤
        order.finalAmount.value := by
    rw [totalRefunded, same]
    exact room
  by_cases void : current.status = .void
  · obtain ⟨partly, less⟩ := overVoid void
    have unsettled := (isUnsettled_iff order).mpr (.inr partly)
    obtain ⟨early, late, first, before, voids, rfl⟩ := voided_loaded _ start db final served
      order current books since runs agrees present paid unsettled void
    obtain ⟨payments, afterSales⟩ := voids_records _ start final served early late first
      before order voids
    have sameBefore : before.afterSalesOrders = db.afterSalesOrders :=
      afterSales.symm.trans agrees.2.afterSales.symm
    have allowedBefore := allowed_again env payload seen before order order allowed voids.present
      rfl rfl rfl (roomAt before sameBefore)
    obtain ⟨reply', returned⟩ := refund_served _ request env actor payload order order record
      paidAmount before asked allowedBefore (unusedAt before sameBefore) rfl stores
    have status : (refundedOrder order paidAmount).status = order.status := by
      have some_left : paidAmount.value ≠ 0 := by
        rw [stored]
        exact (sub_pos.mpr less).ne'
      rw [refundedOrder_status, if_neg some_left, if_pos below, partly]
    obtain ⟨_, _, _, voidedAt, voidReason⟩ := refundedOrder_keeps order paidAmount
    refine commit_over_voided _ start db _ final served early late first before order books later
      voids request reply' _ _ returned ?_ ?_ issuedOnce status ⟨voidedAt, voidReason⟩ ?_ ?_
    · rw [row order before, voids.present, Option.map_some, Order.flush_loaded]
    · rw [row order db, present, Option.map_some]
    · exact agrees.2.payments.trans payments
    · simp only [RefundPlan.written, agrees.2.afterSales, afterSales]
  · obtain ⟨⟨_, then_, _, _, coherent⟩, _, present', same⟩ := since
    obtain rfl := Option.some.inj (present.symm.trans present')
    have coherentNow := agrees_coherent _ db final agrees current present
    have alive : order.status ≠ .void := by
      rcases allowed.paid with status | status <;> simp [status]
    have sameRow := same_row _ then_ final order current coherent coherentNow same paid alive void
    have status : current.status = order.status := congrArg (·.status) sameRow
    have unsettled := settledAt_kept _ then_ final order current coherent coherentNow status
    have allowedNow := allowed_again env payload seen final order current allowed
      (agrees.2.row.symm.trans present) same status paid (roomAt final agrees.2.afterSales.symm)
    obtain ⟨reply', returned⟩ := refund_served _ request env actor payload order current record
      paidAmount final asked allowedNow (unusedAt final agrees.2.afterSales.symm) paid stores
    apply one_more_last _ start db _ final _ request served reply' later runs agrees.1 returned
    refine ⟨?_, agrees.2.payments, ?_⟩
    · rw [row order db, row current final, ← agrees.2.row, present, Option.map_some,
        Option.map_some, Order.flush_loaded, flush_refunded order current paidAmount sameRow
          unsettled below]
    · simp only [RefundPlan.written, agrees.2.afterSales]

theorem expire_loaded (orderId : Nat) (start seen db : Db) (env : Env)
    (since : ∀ order, seen.orders.get? orderId = some order → LoadedSince orderId start order db)
    (hit : voidsOrder orderId env.now (unpaidOrders seen env) = true) :
    ∃ loaded, LoadedSince orderId start loaded db ∧ isUnsettled loaded = true ∧
      overdue env.now loaded = true ∧ (unpaidOrders seen env).lookup orderId = some loaded ∧
      loaded.voidedAt = none ∧ loaded.voidReason = none := by
  have lookup := Table.lookup_select seen.orders env.orderRows isUnsettled orderId
  obtain ⟨loaded, found, late⟩ := (Option.any_eq_true _ _).mp hit
  obtain ⟨present, unsettled⟩ := Option.filter_eq_some_iff.mp (lookup.symm.trans found)
  obtain ⟨_, then_, _, _, coherent⟩ := (since loaded present).served
  obtain ⟨unvoided, reasonless⟩ :=
    coherent_open then_ orderId loaded coherent (unsettled_alive loaded unsettled)
  exact ⟨loaded, since loaded present, unsettled, late, found, unvoided, reasonless⟩

theorem expire_voids (orderId : Nat) (seen db : Db) (env : Env) (loaded current : Order)
    (unsettled : isUnsettled loaded = true) (late : overdue env.now loaded = true)
    (lookup : (unpaidOrders seen env).lookup orderId = some loaded)
    (unvoided : loaded.voidedAt = none) (reasonless : loaded.voidReason = none)
    (present : db.orders.get? orderId = some current) :
    (swept env.now (unpaidOrders seen env) db).orders.get? orderId =
      some (voided env.now current) := by
  rw [swept_row, present, Option.map_some, sweepRow, lookup, Option.elim_some, sweepOne,
    if_pos late, flush_voided env.now loaded current unsettled unvoided reasonless]

theorem expire_commit (orderId : Nat) (start : Db) (request : OnOrder orderId) (env : Env)
    (loaded : List (Nat × Order)) (db final db' : Db) (served : List (OnOrder orderId))
    (reply : Reply) (books : Books start)
    (origin : PlanOrigin orderId start request (.expire env loaded) db)
    (agrees : Agrees orderId db final)
    (runs : (orderBackend orderId).Served start served final)
    (hit : voidsOrder orderId env.now loaded = true)
    (undisturbed : Undisturbed orderId (.expire env loaded) db)
    (committed : commit (.expire env loaded) db = .ok reply db') :
    OneMore orderId start request served db db' := by
  obtain ⟨rfl, seen, rfl, since⟩ := expire_origin orderId start db request env loaded origin
  obtain ⟨row, ⟨servedThen, current, present, created⟩, unsettled, late, lookup, unvoided,
    reasonless⟩ := expire_loaded orderId start seen db env since hit
  obtain ⟨counts, swept'⟩ := commit_expire env (unpaidOrders seen env) db
  obtain ⟨_, rfl⟩ := EStateM.Result.ok.inj (swept'.symm.trans committed)
  have lateNow : overdue env.now current = true := by
    rw [overdue, issued_createdAt row current created]
    exact late
  have rowAfter := expire_voids orderId seen db env row current unsettled late lookup unvoided
    reasonless present
  obtain ⟨payments, afterSales⟩ := swept_keeps env.now (unpaidOrders seen env) db
  have later : Later orderId db (swept env.now (unpaidOrders seen env) db) := by
    intro order found
    obtain rfl := Option.some.inj (present.symm.trans found)
    exact ⟨_, rowAfter, rfl⟩
  have presentFinal := agrees.2.row.symm.trans present
  by_cases void : current.status = .void
  · -- another sweep came first: the serial order gets this one just before it
    obtain ⟨requestsThen, then_, runsThen, presentThen, _⟩ := servedThen
    obtain ⟨early, rest, first, before, order, voids, rfl⟩ := voided_since orderId start then_ final
      served requestsThen runsThen runs row current presentThen (unsettled_alive row unsettled)
      presentFinal void
    obtain ⟨reply', returned⟩ := serve_expire orderId env before
    have rowBefore := expire_row orderId env before order voids.present voids.unsettled lateNow
    have change := expireUnpaidOrders_change env before
    have stays : expired first.now (voided env.now order) = voided env.now order := if_neg (by
      simp [isUnsettled, voided])
    obtain ⟨paymentsBefore, afterSalesBefore⟩ := voids_records orderId start final served early rest
      first before order voids
    obtain ⟨served', final', perm, runs', rowSerial, paymentsSerial, afterSalesSerial⟩ :=
      served_before_sweep orderId start final served early rest first before order voids
        (sweepOnOrder orderId env) reply' _ _ returned rowBefore (by rw [stays]; rfl)
    refine ⟨later, served', final', perm, runs',
      served_books orderId start final' served' runs' books, ?_, ?_, ?_⟩
    · rw [rowAfter, rowSerial, stays]
      rfl
    · exact (payments.trans (agrees.2.payments.trans paymentsBefore)).trans
        (paymentsSerial.trans change.payments).symm
    · exact (afterSales.trans (agrees.2.afterSales.trans afterSalesBefore)).trans
        (afterSalesSerial.trans change.afterSales).symm
  · have unsettledNow : isUnsettled current = true := by
      have notSettled := undisturbed hit current present
      cases status : current.status <;> simp_all [isUnsettled]
    obtain ⟨reply', returned⟩ := serve_expire orderId env final
    have change := expireUnpaidOrders_change env final
    have rowSerial := expire_row orderId env final current presentFinal unsettledNow lateNow
    exact one_more_last orderId start db _ final _ _ served reply' later runs agrees.1 returned
      ⟨rowAfter.trans rowSerial.symm, (payments.trans agrees.2.payments).trans change.payments.symm,
        (afterSales.trans agrees.2.afterSales).trans change.afterSales.symm⟩

theorem commit_raises (orderId : Nat) (start : Db) (request : OnOrder orderId) (plan : Plan)
    (db db' : Db) (raised : Raised) (origin : PlanOrigin orderId start request plan db)
    (failed : commit plan db = .error raised db') : db' = db := by
  cases plan with
  | settle env actor plan =>
      obtain ⟨payload, seen, _, target, checks, since⟩ :=
        settle_origin orderId start db request env actor plan origin
      obtain ⟨current, present, _⟩ := since.kept
      have planTarget := (settleChecks_ok seen payload plan checks).target.trans target
      exact settleCommit_error env actor plan db db' raised current (planTarget.symm ▸ present)
        ((map_error _ _ _ _ _).mp failed)
  | refund env actor payload plan =>
      exact allOrNothing_answer _ toResponse (allOrNothing_transactional _) db db' raised
        ((map_error _ _ _ _ _).mp failed)
  | expire env loaded =>
      obtain ⟨counts, committed⟩ := commit_expire env loaded db
      cases committed.symm.trans failed

theorem paid_kept (loaded assigned current : Order) (delta : ℚ) (nonzero : delta ≠ 0)
    (assigns : assigned.paidAmount.value = loaded.paidAmount.value + delta)
    (moves : (Order.flush loaded assigned current).paidAmount.value =
      current.paidAmount.value + delta) : current.paidAmount = loaded.paidAmount := by
  have writes : assigned.paidAmount ≠ loaded.paidAmount := by
    intro same
    rw [same] at assigns
    exact nonzero (left_eq_add.mp assigns)
  have written : (Order.flush loaded assigned current).paidAmount = assigned.paidAmount :=
    if_neg writes
  rw [written, assigns] at moves
  exact Amount.ext_value _ _ (add_right_cancel moves).symm

theorem status_kept (orderId : Nat) (db db' : Db) (loaded assigned current : Order)
    (coherent : Coherent db orderId current)
    (coherent' : Coherent db' orderId (Order.flush loaded assigned current))
    (void : current.status = .void) (alive : assigned.status ≠ .void)
    (voidedAt : assigned.voidedAt = loaded.voidedAt) : assigned.status = loaded.status := by
  by_contra writes
  have status : (Order.flush loaded assigned current).status = assigned.status := if_neg writes
  have kept : (Order.flush loaded assigned current).voidedAt = current.voidedAt := if_pos voidedAt
  have since := coherent.voidedAt.mpr void
  rw [← kept, coherent'.voidedAt, status] at since
  exact alive since

theorem settle_exact (orderId : Nat) (start : Db) (request : OnOrder orderId) (env : Env)
    (actor : User) (plan : SettlePlan) (db final db' final' : Db) (reply : Reply)
    (origin : PlanOrigin orderId start request (.settle env actor plan) db)
    (agrees : Agrees orderId db final)
    (committed : commit (.settle env actor plan) db = .ok reply db')
    (agrees' : Agrees orderId db' final') : Undisturbed orderId (.settle env actor plan) db := by
  obtain ⟨payload, seen, _, target, checks, _⟩ :=
    settle_origin orderId start db request env actor plan origin
  have checked := settleChecks_ok seen payload plan checks
  have planTarget : plan.orderId = orderId := checked.target.trans target
  obtain ⟨response, settled, _⟩ := (map_ok _ _ _ _ _).mp committed
  obtain ⟨records, paidAmount, current, stores, present, _, rfl⟩ :=
    (settleCommit_ok env actor plan db db' response).mp settled
  rw [planTarget] at present
  have amounts := settledAmounts env actor payload seen plan records paidAmount checked stores
  obtain ⟨assigns, _, _, voidedAt, _⟩ := paidOrder_keeps env.now plan.order paidAmount
  have row : (plan.written env actor records paidAmount db).orders.get? orderId =
      some (Order.flush plan.order (paidOrder env.now plan.order paidAmount) current) := by
    rw [SettlePlan.written, planTarget, Table.get?_modify_self, present, Option.map_some]
  have moves := (paidNet_of_agrees orderId _ final' agrees' _ row).1
  rw [collected_insertAll db _ orderId orderId records
    (fun record member => (amounts.owned record member).trans target) rfl, if_pos rfl,
    ← amounts.total] at moves
  have before := (paidNet_of_agrees orderId db final agrees current present).1
  have paid : current.paidAmount = plan.order.paidAmount := by
    apply paid_kept plan.order (paidOrder env.now plan.order paidAmount) current plan.linesTotal
      checked.positive.ne'
    · rw [assigns, amounts.paid]
    · rw [moves, before, refunded, refunded, SettlePlan.written]
      ring
  refine ⟨current, present, paid, ?_⟩
  intro void
  have status := status_kept orderId final final' plan.order _ current
    (agrees_coherent orderId db final agrees current present)
    (agrees_coherent orderId _ final' agrees' _ row) void
    (paidOrder_alive env.now plan.order paidAmount) voidedAt
  rw [paidOrder_status] at status
  have held := (agrees_coherent orderId db final agrees current present).reconciled.nonneg
  rw [paid] at held
  have nonzero : paidAmount.value ≠ 0 := by
    rw [amounts.paid]
    exact (add_pos_of_nonneg_of_pos held checked.positive).ne'
  by_cases full : paidAmount.value = plan.order.finalAmount.value
  · rw [if_pos full] at status
    rcases checked.unsettled with unsettled | unsettled <;> cases status.trans unsettled
  · rw [if_neg full, if_neg nonzero] at status
    refine ⟨status.symm, ?_⟩
    rw [← amounts.paid]
    exact lt_of_le_of_ne amounts.covered full

theorem refund_exact (orderId : Nat) (start : Db) (request : OnOrder orderId) (env : Env)
    (actor : User) (payload : ReverseSettlementRequest) (plan : RefundPlan)
    (db final db' final' : Db) (reply : Reply)
    (origin : PlanOrigin orderId start request (.refund env actor payload plan) db)
    (agrees : Agrees orderId db final)
    (committed : commit (.refund env actor payload plan) db = .ok reply db')
    (agrees' : Agrees orderId db' final') :
    Undisturbed orderId (.refund env actor payload plan) db := by
  obtain ⟨seen, order, _, target, allowed, rfl, since⟩ :=
    refund_origin orderId start db request env actor payload plan origin
  subst target
  obtain ⟨response, refundedNow, _⟩ := (map_ok _ _ _ _ _).mp committed
  obtain ⟨record, paidAmount, stores, _, _, written⟩ :=
    (refundCommit_ok env actor payload _ db db' response).mp refundedNow
  obtain ⟨recordTarget, kind, completed, _, amount, _, _⟩ :=
    toRefundRecord_ok env actor payload _ record stores.record
  rw [money_money] at amount
  have stored : paidAmount.value = order.paidAmount.value - money payload.refundAmount :=
    refundedAmount env actor payload _ record paidAmount rfl stores
  obtain ⟨assigns, _, _, voidedAt, _⟩ := refundedOrder_keeps order paidAmount
  obtain ⟨current, present, same⟩ := since.kept
  have row : db'.orders.get? payload.originalOrderId =
      some (Order.flush order (refundedOrder order paidAmount) current) := by
    rw [written, RefundPlan.written, Table.get?_modify_self, present, Option.map_some]
  have payments : collected db' payload.originalOrderId =
      collected db payload.originalOrderId := by
    rw [written]
    rfl
  have refunds : refunded db' payload.originalOrderId =
      refunded db payload.originalOrderId + money payload.refundAmount := by
    have filed := total_filed db _ .refund _ record recordTarget kind completed
      (congrArg Db.afterSalesOrders written)
    rw [refunded, filed, amount, refunded]
  have moves := (paidNet_of_agrees _ db' final' agrees' _ row).1
  have before := (paidNet_of_agrees _ db final agrees current present).1
  have coherent := agrees_coherent _ db final agrees current present
  have coherent' := agrees_coherent _ db' final' agrees' _ row
  have paid : current.paidAmount = order.paidAmount := by
    apply paid_kept order (refundedOrder order paidAmount) current (-money payload.refundAmount)
      (neg_ne_zero.mpr allowed.positive.ne')
    · rw [assigns, stored, sub_eq_add_neg]
    · rw [moves, before, payments, refunds]
      ring
  refine ⟨current, present, paid, ?_, ?_⟩
  · intro void
    have status := status_kept _ final final' order _ current coherent coherent' void
      (refundedOrder_alive order paidAmount) voidedAt
    have below : paidAmount.value < order.finalAmount.value := by
      obtain ⟨_, _, _, _, loaded⟩ := since.served
      rw [stored]
      exact coherent_below _ _ order _ loaded allowed.positive
    rw [refundedOrder_status, if_pos below] at status
    by_cases emptied : paidAmount.value = 0
    · rw [if_pos emptied] at status
      rcases allowed.paid with held | held <;> cases status.trans held
    · rw [if_neg emptied] at status
      refine ⟨status.symm, lt_of_le_of_ne allowed.held ?_⟩
      intro all
      rw [stored, ← all, sub_self] at emptied
      exact emptied rfl
  · have ceiling := coherent'.reconciled.ceiling
    have total : (Order.flush order (refundedOrder order paidAmount) current).finalAmount =
        order.finalAmount :=
      (issued_finalAmount _ _ (issued_flush order _ current (issued_refundedOrder order _))).trans
        (issued_finalAmount _ _ same)
    rwa [refunded, ← agrees'.2.afterSales, ← refunded, refunds, total,
      ← totalRefunded_refunded] at ceiling

theorem expire_exact (orderId : Nat) (start : Db) (request : OnOrder orderId) (env : Env)
    (loaded : List (Nat × Order)) (db final db' final' : Db) (reply : Reply)
    (origin : PlanOrigin orderId start request (.expire env loaded) db)
    (agrees : Agrees orderId db final) (committed : commit (.expire env loaded) db = .ok reply db')
    (agrees' : Agrees orderId db' final') : Undisturbed orderId (.expire env loaded) db := by
  intro hit current present settled
  obtain ⟨rfl, seen, rfl, since⟩ := expire_origin orderId start db request env loaded origin
  obtain ⟨row, _, unsettled, late, lookup, unvoided, reasonless⟩ :=
    expire_loaded orderId start seen db env since hit
  obtain ⟨counts, swept'⟩ := commit_expire env (unpaidOrders seen env) db
  obtain ⟨_, rfl⟩ := EStateM.Result.ok.inj (swept'.symm.trans committed)
  have rowAfter := expire_voids orderId seen db env row current unsettled late lookup unvoided
    reasonless present
  have settledAt := (agrees_coherent orderId db final agrees current present).settledAt.mpr settled
  have status := (agrees_coherent orderId _ final' agrees' _ rowAfter).settledAt.mp settledAt
  cases status

theorem order_laws (orderId : Nat) (start : Db) (books : Books start) :
    Protocol.Laws (orderBackend orderId) start (Agrees orderId) (Later orderId) (quiet orderId)
      (Undisturbed orderId) := by
  constructor
  · exact later_refl orderId
  · exact later_trans orderId
  · exact fun request db final reply => answered_at_once orderId request db final reply
  · exact fun request db final plan => quiet_read orderId request db final plan
  · exact fun request plan db final => quiet_commit orderId start request plan db final
  · intro request plan db served final reply db' origin agrees runs loud undisturbed committed
    cases plan with
    | settle env actor plan =>
        exact settle_commit orderId start request env actor plan db final db' served reply books
          origin agrees runs undisturbed committed
    | refund env actor payload plan =>
        exact refund_commit orderId start request env actor payload plan db final db' served reply
          books origin agrees runs undisturbed committed
    | expire env loaded =>
        have hit : voidsOrder orderId env.now loaded = true := by
          simpa [quiet] using loud
        exact expire_commit orderId start request env loaded db final db' served reply books origin
          agrees runs hit undisturbed committed
  · exact fun request plan db raised db' => commit_raises orderId start request plan db db' raised
  · intro request plan db final reply db' final' origin agrees committed agrees'
    cases plan with
    | settle env actor plan =>
        exact settle_exact orderId start request env actor plan db final db' final' reply origin
          agrees committed agrees'
    | refund env actor payload plan =>
        exact refund_exact orderId start request env actor payload plan db final db' final' reply
          origin agrees committed agrees'
    | expire env loaded =>
        exact expire_exact orderId start request env loaded db final db' final' reply origin agrees
          committed agrees'

theorem served_run (orderId : Nat) (db db' : Db) (requests : List (OnOrder orderId))
    (served : (orderBackend orderId).Served db requests db') :
    run db (requests.map (fun request => request.1.call)) = db' := by
  induction served with
  | nil => rfl
  | cons db between final request requests reply returned _ ih =>
      rw [List.map_cons, run, Runs.run, List.foldl_cons,
        serve_step orderId request db between reply returned]
      exact ih

abbrev OrderWorld (orderId : Nat) := Protocol.World (OnOrder orderId) Db Reply Plan

/-- The order's row and the records are those of the requests that returned, made one after
another. A sweep under way that leaves the order alone may count as made; once nothing is
under way, the requests that returned are all there are. -/
def Serialized (orderId : Nat) (start : Db) (world : OrderWorld orderId) : Prop :=
  ∃ served final, served.Perm (world.answered.map (·.1) ++
      (world.inFlight.filter (fun entry => quiet orderId entry.2)).map (·.1)) ∧
    (orderBackend orderId).Served start served final ∧
    run start (served.map (fun request => request.1.call)) = final ∧
    SameOrder orderId world.tables final

theorem serialized_iff_serial (orderId : Nat) (start : Db) (books : Books start)
    (world : OrderWorld orderId) :
    (Serialized orderId start world ∧ PaidNet orderId world.tables) ↔
      (orderBackend orderId).Serial start (Agrees orderId) (quiet orderId) world := by
  constructor
  · rintro ⟨⟨served, final, perm, runs, _, same⟩, _⟩
    exact ⟨served, final, perm, runs, served_books orderId start final served runs books, same⟩
  · rintro ⟨served, final, perm, runs, agrees⟩
    exact ⟨⟨served, final, perm, runs, served_run orderId start final served runs, agrees.2⟩,
      paidNet_of_agrees orderId world.tables final agrees⟩

theorem serialized_paidNet (orderId : Nat) (start : Db) (books : Books start)
    (world : OrderWorld orderId) (serialized : Serialized orderId start world) :
    PaidNet orderId world.tables := by
  obtain ⟨served, final, _, runs, _, same⟩ := serialized
  exact paidNet_of_agrees orderId world.tables final
    ⟨served_books orderId start final served runs books, same⟩

/-- No update is lost in any state that a schedule goes through exactly when each of its
commits that goes through finds the order undisturbed. -/
theorem serialized_iff_undisturbed (products : Table Product)
    (promotionRules : Table PromotionRule) (calls : List Call) (orderId : Nat)
    (schedule : List (Protocol.Event (OnOrder orderId))) :
    let start := run (Db.start products promotionRules) calls
    Runs.Throughout (orderBackend orderId).step
        (fun world => Serialized orderId start world ∧ PaidNet orderId world.tables)
        (Protocol.World.idle start) schedule ↔
      Runs.Along (orderBackend orderId).step
        (Protocol.Calm (orderBackend orderId) (Undisturbed orderId))
        (Protocol.World.idle start) schedule := by
  intro start
  have books : Books start := run_books products promotionRules calls
  have explained : (orderBackend orderId).Explained start (Agrees orderId) (Later orderId)
      (quiet orderId) (Protocol.World.idle start) :=
    (orderBackend orderId).idle_explained ⟨books, rfl, rfl, rfl⟩
  have serial : (fun world => Serialized orderId start world ∧ PaidNet orderId world.tables) =
      (orderBackend orderId).Serial start (Agrees orderId) (quiet orderId) :=
    funext fun world => propext (serialized_iff_serial orderId start books world)
  rw [serial]
  exact (orderBackend orderId).throughout_serial_iff (order_laws orderId start books)
    (Protocol.World.idle start) schedule explained

/-! Two settlements in full of one tea order: both run their checks, then both commit. -/

def settleTea (now : Time) : OnOrder 1 :=
  ⟨.settleOrder (atTime now "") clerk (cashPayment 1 10 ten_pos), rfl⟩

def unpaidTea : Db := run teaShop [sellTea 0 "ORD-1"]

def racingSettlements : OrderWorld 1 :=
  (orderBackend 1).run (Protocol.World.idle unpaidTea)
    [.start (settleTea 1), .start (settleTea 2), .finish 0, .finish 0]

theorem racing_settlements_lose_update :
    racingSettlements.inFlight.length = 0 ∧ racingSettlements.answered.length = 2 ∧
      ¬ Serialized 1 unpaidTea racingSettlements ∧ ¬ PaidNet 1 racingSettlements.tables := by
  have lost : ¬ PaidNet 1 racingSettlements.tables := by
    intro net
    have overwritten :
        (racingSettlements.tables.orders.get? 1).map (·.paidAmount.value) = some 10 := by
      decide +kernel
    obtain ⟨order, present, paid⟩ := Option.map_eq_some_iff.mp overwritten
    have twice : collected racingSettlements.tables 1 = 20 := by decide +kernel
    have noneBack : refunded racingSettlements.tables 1 = 0 := by decide +kernel
    have balance := (net order present).1
    rw [paid, twice, noneBack] at balance
    norm_num at balance
  refine ⟨by decide +kernel, by decide +kernel, ?_, lost⟩
  intro serialized
  exact lost (serialized_paidNet 1 unpaidTea
    (run_books ⟨[tea]⟩ Table.empty [sellTea 0 "ORD-1"]) racingSettlements serialized)

end RetailApp.Concurrency
