import RetailApp.Ledger.SplitSettlement

/-! Which of the orders that `create_order` places `settle_order` can settle. -/

namespace RetailApp.Ledger

open FixedPoint Transaction

def Settleable (env : Env) (actor : User) (orderId : Nat) (db : Db) : Prop :=
  ∃ request response db', request.orderId = orderId ∧
    settleOrder env actor request db = .ok response db' ∧ response.orderStatus = .settled ∧
      (db'.orders.get? orderId).map (·.status) = some .settled

theorem cashPayment_records (env : Env) (actor : User) (orderId : Nat) (amount : Amount)
    (positive : 0 < amount.value) :
    ∃ records, (cashPayment orderId amount.value positive).payments.mapM
        (lineRecord env actor orderId) = .ok records ∧ amountsOf records = amount.value := by
  let record : PaymentRecord := ⟨orderId, actor.id, .cash, amount, .completed, none, none, env.now⟩
  have normalized : normalizeLine ⟨"cash", amount.value, none, none, positive⟩ =
      .ok ⟨.cash, amount.value, none, none⟩ := by
    have rejects : ¬ amount.value ≤ 0 := not_le.mpr positive
    have cash : PaymentMethod.cash ∉ nonCashMethods := by decide
    simp [normalizeLine, validateMethod, PaymentMethod.value, bind, Except.bind, raiseIf, rejects,
      cash, pure, Except.pure]
  have recorded : lineRecord env actor orderId ⟨"cash", amount.value, none, none, positive⟩ =
      .ok record := by
    rw [lineRecord, normalized, bind_except_ok]
    refine ⟨_, rfl, ?_⟩
    simp [toPaymentRecord, Amount.store_value, storedApproval, nullableVarchar, bind, Except.bind,
      pure, Except.pure, record]
  refine ⟨[record], ?_, ?_⟩
  · rw [mapM_except_ok]
    exact .cons recorded .nil
  · rw [amountsOf, List.map_singleton, List.sum_singleton]

/-- An order nothing was paid on is settled by paying all of it at once, unless it costs
nothing: then `settle_order` accepts no request for it. -/
theorem settleable_iff (env : Env) (actor : User) (orderId : Nat) (db : Db) (order : Order)
    (row : db.orders.get? orderId = some order) (pending : order.status = .pending)
    (unpaid : order.paidAmount = Amount.zero) :
    Settleable env actor orderId db ↔ 0 < order.finalAmount.value := by
  have nothing : order.paidAmount.value = 0 := by rw [unpaid, Amount.zero_value]
  constructor
  · rintro ⟨request, settled, paidDb, rfl, returned, _⟩
    obtain ⟨order', records, _, payable, _⟩ := (settleOrder_iff _ _ _ _ _ _).mp returned
    obtain rfl := Option.some.inj (row.symm.trans payable.loaded)
    have positive := amountsOf_pos env actor request.orderId _ records payable.recorded
      request.somePayment
    have covered := payable.covered
    rw [nothing, zero_add] at covered
    exact positive.trans_le covered
  · intro positive
    obtain ⟨records, recorded, whole⟩ :=
      cashPayment_records env actor orderId order.finalAmount positive
    have paid : order.finalAmount.value = order.paidAmount.value + amountsOf records := by
      rw [nothing, zero_add, whole]
    have payable : Payable env actor (cashPayment orderId order.finalAmount positive) db order
        records := ⟨row, .inl pending, recorded, paid.ge⟩
    have status : (paidOrder env.now order order.finalAmount).status = .settled := by
      rw [paidOrder_status, if_pos rfl]
    refine ⟨cashPayment orderId order.finalAmount positive, _, _, rfl,
      (settleOrder_iff _ _ _ _ _ _).mpr ⟨order, records, order.finalAmount, payable, paid, rfl, rfl⟩,
      status, ?_⟩
    have settled := payInto_row env actor orderId order records order.finalAmount db row
    rw [cashPayment, settled, Option.map_some, status]

/-- The guard on the remaining amount comes before any look at the payments. -/
theorem free_order_refused (env : Env) (actor : User) (request : PaymentSettleRequest) (db : Db)
    (order : Order) (row : db.orders.get? request.orderId = some order)
    (pending : order.status = .pending) (unpaid : order.paidAmount = Amount.zero)
    (free : order.finalAmount.value = 0) :
    settleOrder env actor request db =
      .error (.conflict "Order has no payable remaining amount") db := by
  have nothing : remaining order ≤ 0 := by
    rw [remaining_exact, unpaid, free, Amount.zero_value, sub_zero]
  have stopped : settleChecks db request =
      .error (.conflict "Order has no payable remaining amount") := by
    simp [settleChecks, row, pending, request.somePayment, raiseIf, nothing, bind, Except.bind]
  exact (checked_error (fun db => settleChecks db request) (settleCommit env actor) db db _).mpr
    (.inl ⟨stopped, rfl⟩)

theorem createOrder_settleable_iff (env envSettle : Env) (actor cashier : User)
    (payload : OrderCreateRequest) (db db' : Db) (response : OrderResponse)
    (created : createOrder env actor payload db = .ok response db') :
    (Settleable envSettle cashier response.id db' ↔ 0 < response.finalAmount) ∧
      (¬ 0 < response.finalAmount → ∀ request, request.orderId = response.id →
        settleOrder envSettle cashier request db' =
          .error (.conflict "Order has no payable remaining amount") db') := by
  obtain ⟨orderId, order, placed, rfl⟩ := createOrder_ok env actor payload db db' response created
  have row : db'.orders.get? orderId = some order := by
    rw [placed.key, placed.orders, Table.get?_insert_self]
  refine ⟨settleable_iff envSettle cashier orderId db' order row placed.pending placed.unpaid, ?_⟩
  rintro notPositive request rfl
  exact free_order_refused envSettle cashier request db' order row placed.pending placed.unpaid
    (le_antisymm (not_lt.mp notPositive) placed.nonneg)

theorem tea_settleable : ∃ response db',
    createOrder (atTime 0 "ORD-1") clerk teaOrder teaShop = .ok response db' ∧
      (Settleable (atTime 1 "") clerk response.id db' ↔ 0 < response.finalAmount) ∧
      (¬ 0 < response.finalAmount → ∀ request, request.orderId = response.id →
        settleOrder (atTime 1 "") clerk request db' =
          .error (.conflict "Order has no payable remaining amount") db') := by
  obtain ⟨response, created⟩ := returns_of_isOk (createOrder (atTime 0 "ORD-1") clerk teaOrder)
    teaShop (by decide +kernel)
  exact ⟨response, _, created, createOrder_settleable_iff (atTime 0 "ORD-1") (atTime 1 "") clerk
    clerk teaOrder teaShop _ response created⟩

theorem one_orderable : 1 ≤ 1 ∧ 1 ≤ 999 := by decide

def freeTea : OrderCreateRequest where
  lines := [⟨"690001", 1, some 10, tea_scannable, one_orderable, by simp [ten_pos.le]⟩]
  orderDiscountAmount := some 0
  someLine := List.cons_ne_nil _ _
  discountNonneg := zero_discount

theorem free_tea_not_settleable : ∃ response db',
    createOrder (atTime 0 "ORD-1") clerk freeTea teaShop = .ok response db' ∧
      response.finalAmount = 0 ∧
      ∀ env cashier, ¬ Settleable env cashier response.id db' := by
  obtain ⟨response, created⟩ := returns_of_isOk (createOrder (atTime 0 "ORD-1") clerk freeTea)
    teaShop (by decide +kernel)
  obtain ⟨orderId, order, placed, rfl⟩ := createOrder_ok _ _ _ _ _ _ created
  have free : (after (createOrder (atTime 0 "ORD-1") clerk freeTea) teaShop).orders.rows.map
      (·.finalAmount.value) = [0] := by decide +kernel
  rw [placed.orders] at free
  have final : order.finalAmount.value = 0 := (List.cons.inj free).1
  refine ⟨_, _, created, final, ?_⟩
  intro env cashier settleable
  have row := Table.get?_insert_self teaShop.orders order
  rw [← placed.orders, ← placed.key] at row
  have positive := (settleable_iff env cashier orderId _ order row placed.pending
    placed.unpaid).mp settleable
  exact positive.ne final.symm

end RetailApp.Ledger
