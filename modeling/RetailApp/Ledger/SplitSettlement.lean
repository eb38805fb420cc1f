import RetailApp.Ledger.Runs
import RetailApp.Pricing.Acceptance

/-! When `settle_order` accepts a request, as a condition on its lines and the order alone, and
what follows for a settlement that is split in two. -/

namespace RetailApp.Ledger

open FixedPoint Pricing Transaction

def lineRecord (env : Env) (actor : User) (orderId : Nat) (line : PaymentLineRequest) :
    Except Raised PaymentRecord :=
  normalizeLine line >>= toPaymentRecord env actor orderId

def amountsOf (records : List PaymentRecord) : ℚ := (records.map (·.amount.value)).sum

/-- What a request needs to be accepted: `records` are its lines as recorded. -/
structure Payable (env : Env) (actor : User) (payload : PaymentSettleRequest) (db : Db)
    (order : Order) (records : List PaymentRecord) : Prop where
  loaded : db.orders.get? payload.orderId = some order
  unsettled : order.status = .pending ∨ order.status = .partiallyPaid
  recorded : payload.payments.mapM (lineRecord env actor payload.orderId) = .ok records
  covered : order.paidAmount.value + amountsOf records ≤ order.finalAmount.value

def payInto (env : Env) (actor : User) (orderId : Nat) (order : Order)
    (records : List PaymentRecord) (paidAmount : Amount) (db : Db) : Db :=
  let assigned := paidOrder env.now order paidAmount
  { db with
    paymentRecords := db.paymentRecords.insertAll records
    orders := db.orders.modify orderId (Order.flush order assigned)
    auditLogs := db.auditLogs.insert ⟨some actor.id, "payment.settle", "order", orderId,
      .paymentSettle order.orderNo (amountsOf records) paidAmount assigned.status⟩ }

theorem lineRecord_ok (env : Env) (actor : User) (orderId : Nat) (line : PaymentLineRequest)
    (record : PaymentRecord) (recorded : lineRecord env actor orderId line = .ok record) :
    record.orderId = orderId ∧ record.amount.value = money line.amount ∧
      0 < record.amount.value := by
  obtain ⟨normalized, passed, stored⟩ := (bind_except_ok _ _ _).mp recorded
  obtain ⟨rounded, positive⟩ := normalizeLine_ok line normalized passed
  obtain ⟨owner, amount⟩ := toPaymentRecord_ok env actor orderId normalized record stored
  rw [rounded] at positive amount
  rw [money_money] at amount
  exact ⟨owner, amount, amount ▸ positive⟩

section Lines

variable (env : Env) (actor : User) (orderId : Nat) (lines : List PaymentLineRequest)
  (records : List PaymentRecord) (recorded : lines.mapM (lineRecord env actor orderId) = .ok records)

include recorded in
theorem records_of_lines (record : PaymentRecord) (member : record ∈ records) :
    record.orderId = orderId ∧ 0 < record.amount.value := by
  obtain ⟨line, _, gave⟩ := mapM_except_origin _ lines records recorded record member
  obtain ⟨owner, _, positive⟩ := lineRecord_ok env actor orderId line record gave
  exact ⟨owner, positive⟩

include recorded in
theorem amountsOf_nonneg : 0 ≤ amountsOf records := by
  apply List.sum_nonneg
  intro amount member
  obtain ⟨record, inside, rfl⟩ := List.mem_map.mp member
  exact (records_of_lines env actor orderId lines records recorded record inside).2.le

include recorded in
theorem amountsOf_pos (some : lines ≠ []) : 0 < amountsOf records := by
  apply List.sum_pos
  · intro amount member
    obtain ⟨record, inside, rfl⟩ := List.mem_map.mp member
    exact (records_of_lines env actor orderId lines records recorded record inside).2
  · intro none
    have related := (mapM_except_ok _ _ _).mp recorded
    rw [List.map_eq_nil_iff.mp none] at related
    exact some (List.forall₂_nil_right_iff.mp related)

end Lines

theorem amountsOf_onGrid (records : List PaymentRecord) : OnGrid 100 (amountsOf records) := by
  apply OnGrid.sum
  intro amount member
  obtain ⟨record, _, rfl⟩ := List.mem_map.mp member
  exact record.amount.cents

theorem remaining_exact (order : Order) :
    remaining order = order.finalAmount.value - order.paidAmount.value :=
  money_of_onGrid _ (order.finalAmount.cents.sub order.paidAmount.cents)

theorem settleChecks_iff (db : Db) (payload : PaymentSettleRequest) (plan : SettlePlan) :
    settleChecks db payload = .ok plan ↔
      ∃ order lines, db.orders.get? payload.orderId = some order ∧
        (order.status = .pending ∨ order.status = .partiallyPaid) ∧ 0 < remaining order ∧
        payload.payments.mapM normalizeLine = .ok lines ∧
        money (lines.map (·.amount)).sum ≤ remaining order ∧
        plan = ⟨payload.orderId, order, lines, money (lines.map (·.amount)).sum⟩ := by
  simp only [settleChecks, bind_except_ok, raiseIf_ok, orRaise_ok, pure_except_ok, not_le, not_lt]
  constructor
  · rintro ⟨order, loaded, _, notVoid, _, notSettled, _, _, _, some, lines, normalized, _, covered,
      rfl⟩
    refine ⟨order, lines, loaded, ?_, some, normalized, covered, rfl⟩
    cases status : order.status <;> simp_all
  · rintro ⟨order, lines, loaded, unsettled, some, normalized, covered, rfl⟩
    refine ⟨order, loaded, (), ?_, (), ?_, (), payload.somePayment, (), some, lines, normalized, (),
      covered, rfl⟩
    · rcases unsettled with status | status <;> simp [status]
    · rcases unsettled with status | status <;> simp [status]

theorem settleOrder_iff (env : Env) (actor : User) (payload : PaymentSettleRequest) (db db' : Db)
    (response : PaymentSettleResponse) :
    settleOrder env actor payload db = .ok response db' ↔
      ∃ order records paidAmount, Payable env actor payload db order records ∧
        paidAmount.value = order.paidAmount.value + amountsOf records ∧
        response = toSettleResponse payload.orderId (paidOrder env.now order paidAmount)
          (db.paymentRecords.numbered records) ∧
        db' = payInto env actor payload.orderId order records paidAmount db := by
  simp only [settleOrder_ok, settleCommit_ok]
  constructor
  · rintro ⟨plan, passed, records, paidAmount, current, stores, present, rfl, rfl⟩
    have checked := settleChecks_ok db payload plan passed
    have amounts := settledAmounts env actor payload db plan records paidAmount checked stores
    obtain ⟨order, lines, loaded, unsettled, _, normalized, _, rfl⟩ :=
      (settleChecks_iff db payload plan).mp passed
    obtain rfl := Option.some.inj (loaded.symm.trans present)
    have total : money (lines.map (·.amount)).sum = amountsOf records := amounts.total
    have paid := amounts.paid
    have covered := amounts.covered
    rw [paid] at covered
    simp only [total] at paid covered
    refine ⟨order, records, paidAmount, ⟨loaded, unsettled, ?_, covered⟩, paid, ?_, ?_⟩
    · exact (mapM_bind_except_ok _ _ _ _).mpr ⟨lines, normalized, stores.records⟩
    · rw [Order.flush_loaded]
    · rw [SettlePlan.written, payInto, total]
  · rintro ⟨order, records, paidAmount, payable, paid, rfl, rfl⟩
    obtain ⟨lines, normalized, stored⟩ := (mapM_bind_except_ok _ _ _ _).mp payable.recorded
    have cents : ∀ line ∈ lines, OnGrid 100 line.amount := by
      intro line member
      obtain ⟨payment, _, gave⟩ := mapM_except_origin normalizeLine _ lines normalized line member
      rw [(normalizeLine_ok payment line gave).1]
      exact money_onGrid payment.amount
    have total : money (lines.map (·.amount)).sum = amountsOf records := by
      rw [← records_amounts env actor payload.orderId lines records cents stored]
      exact money_of_onGrid _ (amountsOf_onGrid records)
    have positive := amountsOf_pos env actor payload.orderId payload.payments records
      payable.recorded payload.somePayment
    have covered := payable.covered
    have passed : settleChecks db payload =
        .ok ⟨payload.orderId, order, lines, money (lines.map (·.amount)).sum⟩ := by
      refine (settleChecks_iff db payload _).mpr ⟨order, lines, payable.loaded, payable.unsettled,
        ?_, normalized, ?_, rfl⟩
      · rw [remaining_exact]
        linarith
      · rw [remaining_exact, total]
        linarith
    rw [total] at passed
    have stores : SettlePlan.Stores env actor ⟨payload.orderId, order, lines, amountsOf records⟩
        records paidAmount := by
      refine ⟨stored, ?_⟩
      rw [← paid, money_amount, Amount.store_value]
    refine ⟨_, passed, records, paidAmount, order, stores, payable.loaded, ?_, rfl⟩
    rw [Order.flush_loaded]

def Settles (env : Env) (actor : User) (payload : PaymentSettleRequest) (db db' : Db) : Prop :=
  ∃ response, settleOrder env actor payload db = .ok response db'

theorem settles_iff (env : Env) (actor : User) (payload : PaymentSettleRequest) (db db' : Db) :
    Settles env actor payload db db' ↔
      ∃ order records paidAmount, Payable env actor payload db order records ∧
        paidAmount.value = order.paidAmount.value + amountsOf records ∧
        db' = payInto env actor payload.orderId order records paidAmount db := by
  simp only [Settles, settleOrder_iff]
  constructor
  · rintro ⟨_, order, records, paidAmount, payable, paid, _, rfl⟩
    exact ⟨order, records, paidAmount, payable, paid, rfl⟩
  · rintro ⟨order, records, paidAmount, payable, paid, rfl⟩
    exact ⟨_, order, records, paidAmount, payable, paid, rfl, rfl⟩

theorem payable_settles (env : Env) (actor : User) (payload : PaymentSettleRequest) (db : Db)
    (order : Order) (records : List PaymentRecord)
    (payable : Payable env actor payload db order records) :
    ∃ paidAmount, paidAmount.value = order.paidAmount.value + amountsOf records ∧
      Settles env actor payload db
        (payInto env actor payload.orderId order records paidAmount db) := by
  have nonneg := amountsOf_nonneg env actor payload.orderId _ records payable.recorded
  have low := (abs_lt.mp order.paidAmount.fits).1
  have high := (abs_lt.mp order.finalAmount.fits).2
  have covered := payable.covered
  let paidAmount : Amount := ⟨order.paidAmount.value + amountsOf records,
    order.paidAmount.cents.add (amountsOf_onGrid records),
    abs_lt.mpr ⟨by linarith, by linarith⟩⟩
  exact ⟨paidAmount, rfl, (settles_iff _ _ _ _ _).mpr ⟨order, records, paidAmount, payable, rfl, rfl⟩⟩

def recast (env : Env) (actor : User) (record : PaymentRecord) : PaymentRecord :=
  { record with cashierUserId := actor.id, createdAt := env.now }

theorem lineRecord_recast (env env' : Env) (actor actor' : User) (orderId : Nat)
    (line : PaymentLineRequest) (record : PaymentRecord)
    (recorded : lineRecord env actor orderId line = .ok record) :
    lineRecord env' actor' orderId line = .ok (recast env' actor' record) := by
  simp only [lineRecord, toPaymentRecord, bind_except_ok, pure_except_ok] at recorded ⊢
  obtain ⟨normalized, passed, amount, isAmount, approval, isApproval, reference, isReference,
    rfl⟩ := recorded
  exact ⟨normalized, passed, amount, isAmount, approval, isApproval, reference, isReference, rfl⟩

theorem records_recast (env env' : Env) (actor actor' : User) (orderId : Nat)
    (lines : List PaymentLineRequest) (records : List PaymentRecord)
    (recorded : lines.mapM (lineRecord env actor orderId) = .ok records) :
    lines.mapM (lineRecord env' actor' orderId) = .ok (records.map (recast env' actor')) := by
  rw [mapM_except_ok] at recorded ⊢
  rw [List.forall₂_map_right_iff]
  exact recorded.imp (lineRecord_recast env env' actor actor' orderId)

@[simp] theorem amountsOf_recast (env : Env) (actor : User) (records : List PaymentRecord) :
    amountsOf (records.map (recast env actor)) = amountsOf records := by
  rw [amountsOf, List.map_map]
  rfl

theorem amountsOf_append (first second : List PaymentRecord) :
    amountsOf (first ++ second) = amountsOf first + amountsOf second := by
  rw [amountsOf, List.map_append, List.sum_append]
  rfl

theorem amountsOf_perm (records records' : List PaymentRecord) (reordered : records.Perm records') :
    amountsOf records = amountsOf records' := (reordered.map _).sum_eq

theorem records_perm (env : Env) (actor : User) (orderId : Nat)
    (lines lines' : List PaymentLineRequest) (reordered : lines.Perm lines')
    (records : List PaymentRecord)
    (recorded : lines'.mapM (lineRecord env actor orderId) = .ok records) :
    ∃ records', lines.mapM (lineRecord env actor orderId) = .ok records' ∧
      records'.Perm records := by
  obtain ⟨records', related, perm⟩ :=
    List.perm_comp_forall₂ reordered ((mapM_except_ok _ _ _).mp recorded)
  exact ⟨records', (mapM_except_ok _ _ _).mpr related, perm⟩

theorem records_append (env : Env) (actor : User) (orderId : Nat)
    (first second : List PaymentLineRequest) (records : List PaymentRecord) :
    (first ++ second).mapM (lineRecord env actor orderId) = .ok records ↔
      ∃ one other, first.mapM (lineRecord env actor orderId) = .ok one ∧
        second.mapM (lineRecord env actor orderId) = .ok other ∧ records = one ++ other := by
  simp only [List.mapM_append, bind_except_ok, pure_except_ok]
  constructor
  · rintro ⟨one, early, other, late, rfl⟩
    exact ⟨one, other, early, late, rfl⟩
  · rintro ⟨one, other, early, late, rfl⟩
    exact ⟨one, early, other, late, rfl⟩

def paymentOf (record : PaymentRecord) : PaymentMethod × Amount × Option String :=
  (record.method, record.amount, record.offlineApprovalCode)

@[simp] theorem paymentOf_recast (env : Env) (actor : User) (records : List PaymentRecord) :
    (records.map (recast env actor)).map paymentOf = records.map paymentOf := by
  rw [List.map_map]
  rfl

def paymentsOf (db : Db) (orderId : Nat) : Multiset (PaymentMethod × Amount × Option String) :=
  (db.paymentRecords.rows.filter (forOrder orderId)).map paymentOf

def paidAs (db : Db) (orderId : Nat) : Option (Amount × OrderStatus) :=
  (db.orders.get? orderId).map (fun order => (order.paidAmount, order.status))

theorem payInto_row (env : Env) (actor : User) (orderId : Nat) (order : Order)
    (records : List PaymentRecord) (paidAmount : Amount) (db : Db)
    (loaded : db.orders.get? orderId = some order) :
    (payInto env actor orderId order records paidAmount db).orders.get? orderId =
      some (paidOrder env.now order paidAmount) := by
  rw [payInto, Table.get?_modify_self, loaded, Option.map_some, Order.flush_loaded]

theorem payInto_paidAs (env : Env) (actor : User) (orderId : Nat) (order : Order)
    (records : List PaymentRecord) (paidAmount : Amount) (db : Db)
    (loaded : db.orders.get? orderId = some order) :
    paidAs (payInto env actor orderId order records paidAmount db) orderId =
      some ((paidOrder env.now order paidAmount).paidAmount,
        (paidOrder env.now order paidAmount).status) := by
  rw [paidAs, payInto_row env actor orderId order records paidAmount db loaded, Option.map_some]

theorem payInto_payments (env : Env) (actor : User) (orderId : Nat) (order : Order)
    (lines : List PaymentLineRequest) (records : List PaymentRecord) (paidAmount : Amount) (db : Db)
    (recorded : lines.mapM (lineRecord env actor orderId) = .ok records) :
    paymentsOf (payInto env actor orderId order records paidAmount db) orderId =
      paymentsOf db orderId + (records.map paymentOf : List _) := by
  have all : records.filter (forOrder orderId) = records := by
    refine List.filter_eq_self.mpr ?_
    intro record member
    exact beq_iff_eq.mpr (records_of_lines env actor orderId lines records recorded record member).1
  rw [paymentsOf, payInto, Table.insertAll, List.filter_append, all, List.map_append,
    ← Multiset.coe_add]
  rfl

section Split

variable (whole first second : PaymentSettleRequest)
  (sameFirst : first.orderId = whole.orderId) (sameSecond : second.orderId = whole.orderId)
  (reordered : whole.payments.Perm (first.payments ++ second.payments))
  (env envFirst envSecond : Env) (actor actorFirst actorSecond : User)

/-- The records of the parts are those of the whole, up to their order, clerk and time. -/
structure Parts (records one other : List PaymentRecord) : Prop where
  payments : (records.map paymentOf).Perm (one.map paymentOf ++ other.map paymentOf)
  amounts : amountsOf records = amountsOf one + amountsOf other

include sameFirst sameSecond reordered in
theorem parts_of_whole (records : List PaymentRecord)
    (recorded : whole.payments.mapM (lineRecord env actor whole.orderId) = .ok records) :
    ∃ one other, first.payments.mapM (lineRecord envFirst actorFirst first.orderId) = .ok one ∧
      second.payments.mapM (lineRecord envSecond actorSecond second.orderId) = .ok other ∧
      Parts records one other := by
  obtain ⟨_, split, perm⟩ := records_perm env actor whole.orderId _ _ reordered.symm records recorded
  obtain ⟨one, other, early, late, rfl⟩ := (records_append _ _ _ _ _ _).mp split
  rw [sameFirst, sameSecond]
  refine ⟨_, _, records_recast env envFirst actor actorFirst _ _ one early,
    records_recast env envSecond actor actorSecond _ _ other late, ?_, ?_⟩
  · have same := perm.symm.map paymentOf
    rw [List.map_append] at same
    rwa [paymentOf_recast, paymentOf_recast]
  · rw [amountsOf_recast, amountsOf_recast, ← amountsOf_append, amountsOf_perm _ _ perm]

include sameFirst sameSecond reordered in
theorem whole_of_parts (one other : List PaymentRecord)
    (early : first.payments.mapM (lineRecord envFirst actorFirst first.orderId) = .ok one)
    (late : second.payments.mapM (lineRecord envSecond actorSecond second.orderId) = .ok other) :
    ∃ records, whole.payments.mapM (lineRecord env actor whole.orderId) = .ok records ∧
      Parts records one other := by
  rw [sameFirst] at early
  rw [sameSecond] at late
  obtain ⟨records, recorded, perm⟩ := records_perm env actor whole.orderId _ _ reordered _
    ((records_append _ _ _ _ _ _).mpr ⟨_, _, records_recast envFirst env actorFirst actor _ _ one early,
      records_recast envSecond env actorSecond actor _ _ other late, rfl⟩)
  refine ⟨records, recorded, ?_, ?_⟩
  · have same := perm.map paymentOf
    rwa [List.map_append, paymentOf_recast, paymentOf_recast] at same
  · rw [amountsOf_perm _ _ perm, amountsOf_append, amountsOf_recast, amountsOf_recast]

theorem payable_second (between : Db) (order : Order) (one other : List PaymentRecord)
    (paidFirst : Amount) (db : Db) (payable : Payable envFirst actorFirst first db order one)
    (paid : paidFirst.value = order.paidAmount.value + amountsOf one)
    (done : between = payInto envFirst actorFirst first.orderId order one paidFirst db)
    (sameOrder : second.orderId = first.orderId)
    (late : second.payments.mapM (lineRecord envSecond actorSecond second.orderId) = .ok other) :
    Payable envSecond actorSecond second between (paidOrder envFirst.now order paidFirst) other ↔
      order.paidAmount.value + (amountsOf one + amountsOf other) ≤ order.finalAmount.value := by
  obtain ⟨paidNow, final, _⟩ := paidOrder_keeps envFirst.now order paidFirst
  constructor
  · intro payable'
    have covered := payable'.covered
    rw [paidNow, final, paid] at covered
    linarith
  · intro covered
    have positive := amountsOf_pos envSecond actorSecond second.orderId _ other late
      second.somePayment
    have open' : paidFirst.value ≠ order.finalAmount.value := by
      rw [paid]
      exact (by linarith : order.paidAmount.value + amountsOf one < _).ne
    refine ⟨?_, ?_, late, ?_⟩
    · rw [sameOrder, done]
      exact payInto_row envFirst actorFirst first.orderId order one paidFirst db payable.loaded
    · rw [paidOrder_status, if_neg open']
      split
      · exact .inl rfl
      · exact .inr rfl
    · rw [paidNow, final, paid]
      linarith

structure Both (order : Order) (one other : List PaymentRecord) (paidFirst paidSecond : Amount)
    (db final : Db) : Prop where
  payable : Payable envFirst actorFirst first db order one
  late : second.payments.mapM (lineRecord envSecond actorSecond second.orderId) = .ok other
  atFirst : paidFirst.value = order.paidAmount.value + amountsOf one
  atSecond : paidSecond.value = order.paidAmount.value + (amountsOf one + amountsOf other)
  covered : order.paidAmount.value + (amountsOf one + amountsOf other) ≤ order.finalAmount.value
  final : final = payInto envSecond actorSecond second.orderId
    (paidOrder envFirst.now order paidFirst) other paidSecond
    (payInto envFirst actorFirst first.orderId order one paidFirst db)

theorem both_settled (sameOrder : second.orderId = first.orderId) (db between final : Db)
    (settledFirst : Settles envFirst actorFirst first db between)
    (settledSecond : Settles envSecond actorSecond second between final) :
    ∃ order one other paidFirst paidSecond, Both first second envFirst envSecond actorFirst
      actorSecond order one other paidFirst paidSecond db final := by
  obtain ⟨order, one, paidFirst, payable, paid, rfl⟩ := (settles_iff _ _ _ _ _).mp settledFirst
  obtain ⟨order', other, paidSecond, payable', paid', rfl⟩ :=
    (settles_iff _ _ _ _ _).mp settledSecond
  have row := payInto_row envFirst actorFirst first.orderId order one paidFirst db payable.loaded
  have loaded := payable'.loaded
  rw [sameOrder, row] at loaded
  obtain rfl := Option.some.inj loaded
  have covered := (payable_second first second envFirst envSecond actorFirst actorSecond _ order one
    other paidFirst db payable paid rfl sameOrder payable'.recorded).mp payable'
  rw [(paidOrder_keeps envFirst.now order paidFirst).1, paid, add_assoc] at paid'
  exact ⟨order, one, other, paidFirst, paidSecond, payable, payable'.recorded, paid, paid', covered,
    rfl⟩

theorem paidAs_twice (now nowFirst nowSecond : Time) (order : Order)
    (paidAmount paidFirst paidSecond : Amount) (same : paidAmount.value = paidSecond.value) :
    ((paidOrder now order paidAmount).paidAmount, (paidOrder now order paidAmount).status) =
      ((paidOrder nowSecond (paidOrder nowFirst order paidFirst) paidSecond).paidAmount,
        (paidOrder nowSecond (paidOrder nowFirst order paidFirst) paidSecond).status) := by
  obtain rfl := Amount.ext_value paidAmount paidSecond same
  simp only [(paidOrder_keeps _ _ _).1, paidOrder_status, (paidOrder_keeps _ _ _).2.1]

section BothParts

variable (order : Order) (one other : List PaymentRecord) (paidFirst paidSecond : Amount)
  (db final : Db) (sameOrder : second.orderId = first.orderId)
  (both : Both first second envFirst envSecond actorFirst actorSecond order one other paidFirst
    paidSecond db final)

include sameOrder both in
theorem both_paidAs : paidAs final first.orderId =
    some ((paidOrder envSecond.now (paidOrder envFirst.now order paidFirst) paidSecond).paidAmount,
      (paidOrder envSecond.now (paidOrder envFirst.now order paidFirst) paidSecond).status) := by
  have rowFirst := payInto_row envFirst actorFirst first.orderId order one paidFirst db
    both.payable.loaded
  rw [both.final, sameOrder]
  exact payInto_paidAs envSecond actorSecond first.orderId _ other paidSecond _ rowFirst

include sameOrder both in
theorem both_payments : paymentsOf final first.orderId =
    paymentsOf db first.orderId + (one.map paymentOf ++ other.map paymentOf : List _) := by
  have late := both.late
  rw [sameOrder] at late
  rw [both.final, sameOrder,
    payInto_payments envSecond actorSecond first.orderId _ second.payments other paidSecond _ late,
    payInto_payments envFirst actorFirst first.orderId order first.payments one paidFirst db
      both.payable.recorded, add_assoc, Multiset.coe_add]

end BothParts

include sameFirst sameSecond reordered in
theorem settles_of_whole (db db' : Db) (settled : Settles env actor whole db db') :
    ∃ between final, Settles envFirst actorFirst first db between ∧
      Settles envSecond actorSecond second between final := by
  have sameOrder := sameSecond.trans sameFirst.symm
  obtain ⟨order, records, _, payable, _, _⟩ := (settles_iff _ _ _ _ _).mp settled
  obtain ⟨one, other, early, late, parts⟩ := parts_of_whole whole first second sameFirst
    sameSecond reordered env envFirst envSecond actor actorFirst actorSecond records
    payable.recorded
  have covered := payable.covered
  rw [parts.amounts] at covered
  have nonneg := amountsOf_nonneg envSecond actorSecond second.orderId _ other late
  have payableFirst : Payable envFirst actorFirst first db order one :=
    ⟨sameFirst ▸ payable.loaded, payable.unsettled, early, by linarith⟩
  obtain ⟨paidFirst, paid, settledFirst⟩ := payable_settles _ _ _ _ _ _ payableFirst
  obtain ⟨_, _, settledSecond⟩ := payable_settles _ _ _ _ _ _
    ((payable_second first second envFirst envSecond actorFirst actorSecond _ order one other
      paidFirst db payableFirst paid rfl sameOrder late).mpr covered)
  exact ⟨_, _, settledFirst, settledSecond⟩

include sameFirst sameSecond reordered in
theorem settles_of_parts (db between final : Db)
    (settledFirst : Settles envFirst actorFirst first db between)
    (settledSecond : Settles envSecond actorSecond second between final) :
    ∃ db', Settles env actor whole db db' := by
  have sameOrder := sameSecond.trans sameFirst.symm
  obtain ⟨order, one, other, _, _, both⟩ := both_settled first second envFirst envSecond actorFirst
    actorSecond sameOrder db between final settledFirst settledSecond
  obtain ⟨records, recorded, parts⟩ := whole_of_parts whole first second sameFirst sameSecond
    reordered env envFirst envSecond actor actorFirst actorSecond one other both.payable.recorded
    both.late
  have payable : Payable env actor whole db order records :=
    ⟨sameFirst ▸ both.payable.loaded, both.payable.unsettled, recorded,
      parts.amounts ▸ both.covered⟩
  obtain ⟨_, _, settled⟩ := payable_settles _ _ _ _ _ _ payable
  exact ⟨_, settled⟩

include sameFirst sameSecond reordered in
theorem settles_alike (db db' between final : Db) (settled : Settles env actor whole db db')
    (settledFirst : Settles envFirst actorFirst first db between)
    (settledSecond : Settles envSecond actorSecond second between final) :
    paidAs db' whole.orderId = paidAs final whole.orderId ∧
      paymentsOf db' whole.orderId = paymentsOf final whole.orderId := by
  have sameOrder := sameSecond.trans sameFirst.symm
  obtain ⟨order, records, paidAmount, payable, paid, rfl⟩ := (settles_iff _ _ _ _ _).mp settled
  obtain ⟨order', one, other, paidFirst, paidSecond, both⟩ := both_settled first second envFirst
    envSecond actorFirst actorSecond sameOrder db between final settledFirst settledSecond
  have loaded := both.payable.loaded
  rw [sameFirst, payable.loaded] at loaded
  obtain rfl := Option.some.inj loaded
  obtain ⟨_, recorded, parts⟩ := whole_of_parts whole first second sameFirst sameSecond reordered
    env envFirst envSecond actor actorFirst actorSecond one other both.payable.recorded both.late
  obtain rfl := Except.ok.inj (payable.recorded.symm.trans recorded)
  have amount : paidAmount.value = paidSecond.value := by
    rw [paid, both.atSecond, parts.amounts]
  have shown := both_paidAs first second envFirst envSecond actorFirst actorSecond order one other
    paidFirst paidSecond db final sameOrder both
  have recordedTwice := both_payments first second envFirst envSecond actorFirst actorSecond order
    one other paidFirst paidSecond db final sameOrder both
  rw [sameFirst] at shown recordedTwice
  constructor
  · rw [shown, payInto_paidAs env actor whole.orderId order records paidAmount db payable.loaded]
    exact congrArg some (paidAs_twice env.now envFirst.now envSecond.now order paidAmount paidFirst
      paidSecond amount)
  · rw [recordedTwice, payInto_payments env actor whole.orderId order whole.payments records
      paidAmount db recorded, Multiset.coe_eq_coe.mpr parts.payments]

include sameFirst sameSecond reordered in
/-- One request with all the lines, in any order, is accepted exactly when one with the first
part and then one with the second are; and then all that counts comes out the same. -/
theorem split_settlement_agrees (db : Db) :
    ((∃ db', Settles env actor whole db db') ↔
        ∃ between final, Settles envFirst actorFirst first db between ∧
          Settles envSecond actorSecond second between final) ∧
      ∀ db' between final, Settles env actor whole db db' →
        Settles envFirst actorFirst first db between →
        Settles envSecond actorSecond second between final →
        paidAs db' whole.orderId = paidAs final whole.orderId ∧
          paymentsOf db' whole.orderId = paymentsOf final whole.orderId := by
  refine ⟨⟨?_, ?_⟩, ?_⟩
  · rintro ⟨db', settled⟩
    exact settles_of_whole whole first second sameFirst sameSecond reordered env envFirst envSecond
      actor actorFirst actorSecond db db' settled
  · rintro ⟨between, final, settledFirst, settledSecond⟩
    exact settles_of_parts whole first second sameFirst sameSecond reordered env envFirst envSecond
      actor actorFirst actorSecond db between final settledFirst settledSecond
  · exact settles_alike whole first second sameFirst sameSecond reordered env envFirst envSecond
      actor actorFirst actorSecond db

end Split

def twoFives : PaymentSettleRequest :=
  ⟨1, [⟨"cash", 5, none, none, five_pos⟩, ⟨"cash", 5, none, none, five_pos⟩], by simp⟩

def soldTea : Db := run teaShop [sellTea 0 "ORD-1"]

theorem tea_paid_in_halves : ∃ between final,
    Settles (atTime 1 "") clerk (cashPayment 1 5 five_pos) soldTea between ∧
      Settles (atTime 2 "") clerk (cashPayment 1 5 five_pos) between final := by
  refine (split_settlement_agrees twoFives (cashPayment 1 5 five_pos) (cashPayment 1 5 five_pos) rfl
    rfl (List.Perm.refl _) (atTime 1 "") (atTime 1 "") (atTime 2 "") clerk clerk clerk soldTea).1.mp
    ?_
  obtain ⟨response, returned⟩ := returns_of_isOk (settleOrder (atTime 1 "") clerk twoFives) soldTea
    (by decide +kernel)
  exact ⟨_, response, returned⟩

end RetailApp.Ledger
