import RetailApp.Ledger.Runs

/-! What an order goes through between the state in which it is settled and a sweep that
voids it. -/

namespace RetailApp.Ledger

open Transaction

def statusIn (db : Db) (orderId : Nat) : Option OrderStatus :=
  (db.orders.get? orderId).map (·.status)

structure RefundsOrder (db : Db) (call : Call) (orderId : Nat) : Prop where
  request : ∃ env actor payload, call = .reverseSettlementRefund env actor payload ∧
    payload.originalOrderId = orderId
  recorded : ∃ record, record.originalOrderId = orderId ∧ record.afterSalesType = .refund ∧
    (step db call).afterSalesOrders = db.afterSalesOrders.insert record

/-- Only a refund takes an order out of the settled status, and not straight to void. -/
theorem settled_stays (db : Db) (call : Call) (orderId : Nat)
    (settled : statusIn db orderId = some .settled) :
    statusIn (step db call) orderId = some .settled ∨ RefundsOrder db call orderId := by
  obtain ⟨order, present, status⟩ := Option.map_eq_some_iff.mp settled
  have kept (row : (step db call).orders.get? orderId = some order) :
      statusIn (step db call) orderId = some .settled := by
    rw [statusIn, row, Option.map_some, status]
  generalize after_step : step db call = db' at *
  have change : Change db db' call := after_step ▸ step_change db call
  cases change with
  | unchanged call same =>
      have orders : db'.orders = db.orders := congrArg Prod.fst same
      exact .inl (kept (orders ▸ present))
  | placed env actor payload placedId order change =>
      left
      apply kept
      rw [change.orders]
      exact Table.get?_insert_of_some _ _ _ _ present
  | settled env actor payload other records paidAmount change =>
      left
      apply kept
      have elsewhere : orderId ≠ payload.orderId := by
        rintro rfl
        obtain rfl := Option.some.inj (present.symm.trans change.loaded)
        rcases change.unsettled with pending | partly
        · rw [status] at pending
          cases pending
        · rw [status] at partly
          cases partly
      rw [change.orders.row, if_neg elsewhere]
      exact present
  | returned env actor payload other record change =>
      exact .inl (kept (change.filed.orders ▸ present))
  | exchanged env actor payload other record change =>
      exact .inl (kept (change.filed.orders ▸ present))
  | refunded env actor payload other record paidAmount change =>
      by_cases here : orderId = payload.originalOrderId
      · right
        exact ⟨⟨env, actor, payload, rfl, here.symm⟩, record, change.target.trans here.symm,
          change.kind, after_step ▸ change.afterSales⟩
      · left
        apply kept
        rw [change.orders.row, if_neg here]
        exact present
  | swept env change =>
      left
      apply kept
      have row : expired env.now order = order := by
        simp [expired, isUnsettled, status]
      rw [change.rows, present, Option.map_some, row]

theorem voided_after_settled (db : Db) (calls : List Call) (orderId : Nat)
    (settled : statusIn db orderId = some .settled)
    (voided : statusIn (run db calls) orderId = some .void) :
    ∃ first call rest, calls = first ++ call :: rest ∧
      RefundsOrder (run db first) call orderId := by
  induction calls generalizing db with
  | nil =>
      rw [run, Runs.run, List.foldl_nil, settled] at voided
      cases voided
  | cons call calls ih =>
      rcases settled_stays db call orderId settled with still | refunds
      · obtain ⟨first, later, rest, rfl, refunds⟩ := ih (step db call) still voided
        exact ⟨call :: first, later, rest, rfl, refunds⟩
      · exact ⟨[], call, calls, rfl, refunds⟩

theorem run_voided_after_settled (products : Table Product)
    (promotionRules : Table PromotionRule) (earlier between : List Call) (orderId : Nat)
    (settled : statusIn (run (Db.start products promotionRules) earlier) orderId = some .settled)
    (voided : statusIn (run (Db.start products promotionRules) (earlier ++ between)) orderId =
      some .void) :
    ∃ first call rest, between = first ++ call :: rest ∧
      RefundsOrder (run (Db.start products promotionRules) (earlier ++ first)) call orderId := by
  have split (calls : List Call) : run (Db.start products promotionRules) (earlier ++ calls) =
      run (run (Db.start products promotionRules) earlier) calls := Runs.run_append step _ _ _
  rw [split] at voided
  obtain ⟨first, call, rest, parts, refunds⟩ :=
    voided_after_settled _ between orderId settled voided
  exact ⟨first, call, rest, parts, split first ▸ refunds⟩

def halfRefundedThenSwept : List Call :=
  [.reverseSettlementRefund (atTime 2 "") clerk fiveBack,
    .expireUnpaidOrders (atTime (timedeltaMinutes 31) "")]

theorem run_voided_after_settled_tea : ∃ first call rest,
    halfRefundedThenSwept = first ++ call :: rest ∧
      RefundsOrder (run teaShop ([sellTea 0 "ORD-1", payTen 1] ++ first)) call 1 :=
  run_voided_after_settled ⟨[tea]⟩ Table.empty [sellTea 0 "ORD-1", payTen 1]
    halfRefundedThenSwept 1 (by decide +kernel) (by decide +kernel)

/-- Settled, half refunded and then voided by the sweep, all in clock order. -/
theorem settled_order_swept :
    (([sellTea 0 "ORD-1", payTen 1] ++ halfRefundedThenSwept).map (·.env.now)).Pairwise (· ≤ ·) ∧
      statusIn (run teaShop [sellTea 0 "ORD-1", payTen 1]) 1 = some .settled ∧
      ((run teaShop ([sellTea 0 "ORD-1", payTen 1] ++ halfRefundedThenSwept)).orders.get? 1).map
          (fun order => (order.status, order.voidReason)) =
        some (.void, some "auto_void_unsettled_timeout") := by
  decide +kernel

end RetailApp.Ledger
