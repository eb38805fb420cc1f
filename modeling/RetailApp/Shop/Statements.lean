import RetailApp.Shop.Calls

/-! What an order says of itself at any later point of a run of the shop: the sale as it was
made, and what has been paid and given back since. -/

namespace RetailApp.Shop

open Pricing Transaction

def entriesOf (db : Db) (orderId : Nat) : List (Nat × OrderLine) :=
  db.orderLines.entries.filter (fun entry => entry.2.orderId == orderId)

def linesOf (db : Db) (orderId : Nat) : List OrderLine := (entriesOf db orderId).map Prod.snd

structure Kept (db : Db) : Prop where
  books : Ledger.Books db
  rules : ValidRules db
  owners : ∀ row ∈ db.orderLines.rows, row.orderId < db.orders.nextKey
  sums : ∀ orderId order, db.orders.get? orderId = some order → AddsUp order (linesOf db orderId)

theorem records_lined (db db' : Db) (same : recordTables db' = recordTables db) : Lined db db' :=
  .kept (congrArg (·.2.1) same) (congrArg (·.1.nextKey) same)

theorem step_lined (db : Db) (call : Call) (valid : ValidRules db) : Lined db (step db call) := by
  cases call with
  | catalogue call => exact records_lined db _ (catalogue_records db call).1
  | createPromotionRule payload =>
      exact records_lined db _ (createPromotionRule_records db payload valid).1
  | ledger call => exact ledger_lined db call valid

theorem entriesOf_kept (db db' : Db) (orderId : Nat) (lined : Lined db db')
    (placed : orderId < db.orders.nextKey) : entriesOf db' orderId = entriesOf db orderId := by
  cases lined with
  | kept lines keys => rw [entriesOf, lines, entriesOf]
  | sold order rows orders lines owned adds =>
      have none : (db.orderLines.numbered rows).filter
          (fun entry => entry.2.orderId == orderId) = [] := by
        rw [List.filter_eq_nil_iff]
        intro entry member
        have inside : entry.2 ∈ rows := by
          rw [← Table.numbered_rows db.orderLines rows]
          exact List.mem_map_of_mem member
        rw [owned entry.2 inside, beq_iff_eq]
        exact placed.ne'
      rw [entriesOf, lines, Table.entries_insertAll, List.filter_append, none, List.append_nil,
        entriesOf]

theorem linesOf_new (db db' : Db) (rows : List OrderLine) (kept : Kept db)
    (lines : db'.orderLines = db.orderLines.insertAll rows)
    (owned : ∀ row ∈ rows, row.orderId = db.orders.nextKey) :
    linesOf db' db.orders.nextKey = rows := by
  have none : db.orderLines.entries.filter
      (fun entry => entry.2.orderId == db.orders.nextKey) = [] := by
    rw [List.filter_eq_nil_iff]
    rintro ⟨lineId, row⟩ member
    have inside : row ∈ db.orderLines.rows :=
      (Table.mem_rows _ _).mpr ⟨lineId, (Table.mem_entries _ _ _).mp member⟩
    rw [beq_iff_eq]
    exact (kept.owners row inside).ne
  have all : (db.orderLines.numbered rows).filter
      (fun entry => entry.2.orderId == db.orders.nextKey) = db.orderLines.numbered rows := by
    rw [List.filter_eq_self]
    intro entry member
    have inside : entry.2 ∈ rows := by
      rw [← Table.numbered_rows db.orderLines rows]
      exact List.mem_map_of_mem member
    rw [owned entry.2 inside, beq_iff_eq]
  rw [linesOf, entriesOf, lines, Table.entries_insertAll, List.filter_append, none, all,
    List.nil_append, Table.numbered_rows]

theorem addsUp_congr (order order' : Order) (rows : List OrderLine)
    (same : saleOf order' = saleOf order) (adds : AddsUp order rows) : AddsUp order' rows := by
  have subtotal := congrArg Order.subtotalAmount same
  have item := congrArg Order.itemDiscountTotal same
  have discount := congrArg Order.orderDiscountTotal same
  have promotion := congrArg Order.promotionDiscountTotal same
  have final := congrArg Order.finalAmount same
  dsimp only [saleOf] at subtotal item discount promotion final
  obtain ⟨someLine, lineSubtotal, lineFinal, sums, items, promotions, finals, nonneg⟩ := adds
  constructor
  · exact someLine
  · exact lineSubtotal
  · exact lineFinal
  · rw [subtotal, sums]
  · rw [item, items]
  · rw [promotion, promotions]
  · rw [final, finals, discount]
  · simpa only [saleAmounts, subtotal, item, discount, promotion, final] using nonneg

theorem paidOrder_sale (now : Time) (order : Order) (paidAmount : Amount) :
    saleOf (paidOrder now order paidAmount) = saleOf order := by
  unfold paidOrder
  split
  · rfl
  · split <;> rfl

theorem refundedOrder_sale (order : Order) (paidAmount : Amount) :
    saleOf (refundedOrder order paidAmount) = saleOf order := by
  unfold refundedOrder
  split
  · rfl
  · split <;> rfl

theorem expired_sale (now : Time) (order : Order) : saleOf (expired now order) = saleOf order := by
  unfold expired
  split <;> rfl

def SameSale (db' : Db) (orderId : Nat) (order : Order) : Prop :=
  ∃ order', db'.orders.get? orderId = some order' ∧ saleOf order' = saleOf order

theorem rewritten_sale (db db' : Db) (target orderId : Nat) (loaded assigned order : Order)
    (rewritten : Ledger.Rewritten target assigned db db')
    (there : db.orders.get? target = some loaded) (same : saleOf assigned = saleOf loaded)
    (found : db.orders.get? orderId = some order) : SameSale db' orderId order := by
  by_cases here : orderId = target
  · subst here
    obtain rfl := Option.some.inj (there.symm.trans found)
    exact ⟨assigned, by rw [rewritten.row, if_pos rfl], same⟩
  · exact ⟨order, by rw [rewritten.row, if_neg here, found], rfl⟩

theorem ledger_sale (db : Db) (call : Ledger.Call) (orderId : Nat) (order : Order)
    (found : db.orders.get? orderId = some order) :
    SameSale (Ledger.step db call) orderId order := by
  have change := Ledger.step_change db call
  generalize Ledger.step db call = db' at change
  cases change with
  | unchanged call same =>
      have orders := congrArg (·.1) same
      exact ⟨order, (congrArg (·.get? orderId) orders).trans found, rfl⟩
  | placed env actor payload placedId placed change =>
      exact ⟨order, by rw [change.orders, Table.get?_insert_of_some _ _ _ _ found], rfl⟩
  | settled env actor payload loaded records paidAmount change =>
      exact rewritten_sale db db' _ orderId loaded _ order change.orders change.loaded
        (paidOrder_sale env.now loaded paidAmount) found
  | returned env actor payload loaded record change =>
      exact ⟨order, by rw [change.filed.orders, found], rfl⟩
  | exchanged env actor payload loaded record change =>
      exact ⟨order, by rw [change.filed.orders, found], rfl⟩
  | refunded env actor payload loaded record paidAmount change =>
      exact rewritten_sale db db' _ orderId loaded _ order change.orders change.allowed.loaded
        (refundedOrder_sale loaded paidAmount) found
  | swept env change =>
      exact ⟨expired env.now order, by rw [change.rows, found, Option.map_some],
        expired_sale env.now order⟩

theorem step_sale (db : Db) (call : Call) (valid : ValidRules db) (orderId : Nat) (order : Order)
    (found : db.orders.get? orderId = some order) : SameSale (step db call) orderId order := by
  have untouched (db' : Db) (same : recordTables db' = recordTables db) :
      SameSale db' orderId order :=
    ⟨order, (congrArg (·.1.get? orderId) same).trans found, rfl⟩
  cases call with
  | catalogue call => exact untouched _ (catalogue_records db call).1
  | createPromotionRule payload =>
      exact untouched _ (createPromotionRule_records db payload valid).1
  | ledger call => exact ledger_sale db call orderId order found

theorem books_congr (db db' : Db) (same : ledgerTables db' = ledgerTables db)
    (books : Ledger.Books db) : Ledger.Books db' := by
  have nextKey := congrArg (·.1.nextKey) same
  have payments := congrArg (·.2.1.rows) same
  have afterSales := congrArg (·.2.2.rows) same
  dsimp only [ledgerTables] at nextKey payments afterSales
  constructor
  · intro orderId order found
    exact (Ledger.unchanged_moved db db' books same orderId order found).2
  · intro record member
    rw [nextKey]
    exact books.payments record (payments ▸ member)
  · intro record member
    rw [nextKey]
    exact books.afterSales record (afterSales ▸ member)

theorem ledgerTables_of_records (db db' : Db) (same : recordTables db' = recordTables db) :
    ledgerTables db' = ledgerTables db :=
  congrArg (fun tables => (tables.1, tables.2.2.1, tables.2.2.2)) same

theorem step_books (db : Db) (call : Call) (valid : ValidRules db) (books : Ledger.Books db) :
    Ledger.Books (step db call) := by
  cases call with
  | catalogue call =>
      exact books_congr db _ (ledgerTables_of_records db _ (catalogue_records db call).1) books
  | createPromotionRule payload =>
      exact books_congr db _ (ledgerTables_of_records db _
        (createPromotionRule_records db payload valid).1) books
  | ledger call => exact Ledger.step_books db call books

theorem ledger_rules (db : Db) (call : Ledger.Call) :
    (Ledger.step db call).promotionRules = db.promotionRules := by
  rcases Ledger.step_writes db call with same | writes
  · exact congrArg Db.promotionRules same
  · generalize Ledger.step db call = db' at writes
    cases writes with
    | swept env => rw [Ledger.swept_frame env.now _ db]
    | _ => rfl

theorem step_rules (db : Db) (call : Call) (valid : ValidRules db) : ValidRules (step db call) := by
  cases call with
  | catalogue call =>
      rw [step, ValidRules, (catalogue_records db call).2]
      exact valid
  | createPromotionRule payload => exact (createPromotionRule_records db payload valid).2
  | ledger call =>
      rw [step, ValidRules, ledger_rules db call]
      exact valid

theorem lined_owners (db db' : Db) (kept : Kept db) (lined : Lined db db') :
    ∀ row ∈ db'.orderLines.rows, row.orderId < db'.orders.nextKey := by
  cases lined with
  | kept lines keys =>
      rw [lines, keys]
      exact kept.owners
  | sold order rows orders lines owned adds =>
      intro row member
      rw [orders, Table.nextKey_insert]
      rw [lines, Table.insertAll] at member
      rcases List.mem_append.mp member with old | new
      · exact (kept.owners row old).trans (Nat.lt_succ_self _)
      · rw [owned row new]
        exact Nat.lt_succ_self _

theorem lined_new (db db' : Db) (kept : Kept db) (lined : Lined db db') (orderId : Nat)
    (order : Order) (missing : db.orders.get? orderId = none)
    (found : db'.orders.get? orderId = some order) : AddsUp order (linesOf db' orderId) := by
  obtain ⟨positive, below⟩ := Table.get?_key _ _ _ found
  have beyond := Table.nextKey_le db.orders orderId positive missing
  cases lined with
  | kept lines keys =>
      rw [keys] at below
      exact absurd below beyond.not_gt
  | sold sale rows orders lines owned adds =>
      rw [orders, Table.nextKey_insert] at below
      obtain rfl := Nat.le_antisymm (Nat.le_of_lt_succ below) beyond
      rw [orders, Table.get?_insert_self] at found
      obtain rfl := Option.some.inj found
      rw [linesOf_new db _ rows kept lines owned]
      exact adds

theorem step_kept (db : Db) (call : Call) (kept : Kept db) : Kept (step db call) := by
  have lined := step_lined db call kept.rules
  refine ⟨step_books db call kept.rules kept.books, step_rules db call kept.rules,
    lined_owners db _ kept lined, ?_⟩
  intro orderId order' found
  cases placed : db.orders.get? orderId with
  | none => exact lined_new db _ kept lined orderId order' placed found
  | some order =>
      obtain ⟨same, there, sale⟩ := step_sale db call kept.rules orderId order placed
      obtain rfl := Option.some.inj (there.symm.trans found)
      rw [linesOf, entriesOf_kept db _ orderId lined (Table.get?_key _ _ _ placed).2]
      exact addsUp_congr order same _ sale (kept.sums orderId order placed)

theorem start_kept : Kept (Db.start Table.empty Table.empty) := by
  refine ⟨Ledger.start_books _ _, ?_, ?_, ?_⟩
  · intro rule member
    cases member
  · intro row member
    cases member
  · intro orderId order found
    rw [Db.start, Table.get?_empty] at found
    cases found

theorem run_kept (calls : List Call) : Kept (run calls) :=
  Runs.run_preserves step Kept step_kept _ calls start_kept

/-- A statement without its lines and what changes after the sale. -/
def asSold (response : OrderResponse) : OrderResponse :=
  { response with
    status := .pending
    paidAmount := 0
    settledAt := none
    voidedAt := none
    voidReason := none
    lines := [] }

def SoldAs (later response : OrderResponse) : Prop :=
  asSold later = asSold response ∧ later.lines.Perm response.lines

theorem response_lines (db : Db) (env : Env) (orderId : Nat) (order : Order) :
    (toOrderResponse db env orderId order).lines.Perm
      ((entriesOf db orderId).map toOrderLineResponse) :=
  (env.lineRows.perm _).map toOrderLineResponse

theorem soldAs_congr (db db' : Db) (env env' : Env) (orderId : Nat) (order order' : Order)
    (sale : saleOf order' = saleOf order) (lines : entriesOf db' orderId = entriesOf db orderId) :
    SoldAs (toOrderResponse db' env' orderId order') (toOrderResponse db env orderId order) := by
  have rewritten (db : Db) (env : Env) (order : Order) :
      asSold (toOrderResponse db env orderId order) =
        { toOrderResponse db env orderId (saleOf order) with lines := [] } := rfl
  constructor
  · rw [rewritten, rewritten, sale]
    rfl
  · have listed := response_lines db' env' orderId order'
    rw [lines] at listed
    exact listed.trans (response_lines db env orderId order).symm

theorem getOrder_ok (db : Db) (env : Env) (orderId : Nat) (response : OrderResponse) :
    getOrder db env orderId = .ok response ↔ ∃ order, db.orders.get? orderId = some order ∧
      response = toOrderResponse db env orderId order := by
  simp only [getOrder, bind_except_ok, orRaise_ok, pure_except_ok]
  exact exists_congr (fun order => and_congr_right' eq_comm)

theorem step_statement (db : Db) (call : Call) (kept : Kept db) (env reader : Env) (orderId : Nat)
    (response : OrderResponse) (answered : getOrder db env orderId = .ok response) :
    ∃ later, getOrder (step db call) reader orderId = .ok later ∧ SoldAs later response := by
  obtain ⟨order, found, rfl⟩ := (getOrder_ok db env orderId response).mp answered
  obtain ⟨order', there, sale⟩ := step_sale db call kept.rules orderId order found
  have lines := entriesOf_kept db _ orderId (step_lined db call kept.rules)
    (Table.get?_key _ _ _ found).2
  exact ⟨_, (getOrder_ok _ reader orderId _).mpr ⟨order', there, rfl⟩,
    soldAs_congr db _ env reader orderId order order' sale lines⟩

theorem run_statement (db : Db) (calls : List Call) (kept : Kept db) (env reader : Env)
    (orderId : Nat) (response : OrderResponse)
    (answered : getOrder db env orderId = .ok response) :
    ∃ later, getOrder (Runs.run step db calls) reader orderId = .ok later ∧
      SoldAs later response := by
  induction calls generalizing db env response with
  | nil =>
      obtain ⟨order, found, rfl⟩ := (getOrder_ok db env orderId response).mp answered
      exact ⟨_, (getOrder_ok db reader orderId _).mpr ⟨order, found, rfl⟩,
        soldAs_congr db db env reader orderId order order rfl rfl⟩
  | cons call calls ih =>
      obtain ⟨next, answered', same⟩ :=
        step_statement db call kept env reader orderId response answered
      obtain ⟨later, found, same'⟩ :=
        ih (step db call) (step_kept db call kept) reader next answered'
      exact ⟨later, found, same'.1.trans same.1, same'.2.trans same.2⟩

/-- Whatever is bought, paid, given back, swept or put on offer after a sale, the order still
reads as `create_order` returned it, up to its status and what has been paid. -/
theorem order_stays_as_sold (early late : List Call) (env reader : Env) (actor : User)
    (payload : OrderCreateRequest) (response : OrderResponse) (db : Db)
    (created : createOrder env actor payload (run early) = .ok response db) :
    ∃ later, getOrder (run (early ++ .ledger (.createOrder env actor payload) :: late)) reader
      response.id = .ok later ∧ SoldAs later response := by
  have sold : step (run early) (.ledger (.createOrder env actor payload)) = db :=
    after_ok _ _ _ _ created
  obtain ⟨orderId, order, placed, rfl⟩ := createOrder_ok env actor payload _ db response created
  have answered : getOrder db env orderId = .ok (toOrderResponse db env orderId order) := by
    rw [getOrder_ok, placed.orders, placed.key, Table.get?_insert_self]
    exact ⟨order, rfl, rfl⟩
  have kept : Kept db := sold ▸ step_kept _ _ (run_kept early)
  rw [run, Runs.run_append, Runs.run, List.foldl_cons]
  exact sold ▸ run_statement db late kept env reader orderId _ answered

def stock : List Call :=
  (Catalogue.colaAndMilk ⟨"SKU-MILK-1L", by decide⟩).map .catalogue

def colaOrder : OrderCreateRequest where
  lines := [⟨"6901111111111", 4, some 0, by decide, by decide, Ledger.zero_discount⟩]
  orderDiscountAmount := some 0
  someLine := by decide
  discountNonneg := Ledger.zero_discount

theorem cola_stays_as_sold : ∃ response later,
    getOrder (run (stock ++ .ledger (.createOrder (Ledger.atTime 0 "ORD-1") Ledger.clerk colaOrder) ::
      [.ledger (Ledger.payFive 1), .createPromotionRule fiveOff])) (Ledger.atTime 2 "")
        response.id = .ok later ∧ SoldAs later response := by
  obtain ⟨response, created⟩ := returns_of_isOk
    (createOrder (Ledger.atTime 0 "ORD-1") Ledger.clerk colaOrder) (run stock) (by decide +kernel)
  obtain ⟨later, answered, same⟩ := order_stays_as_sold stock
    [.ledger (Ledger.payFive 1), .createPromotionRule fiveOff] (Ledger.atTime 0 "ORD-1")
    (Ledger.atTime 2 "") Ledger.clerk colaOrder response _ created
  exact ⟨response, later, answered, same⟩

/-- A statement whose lines, totals, payments and status agree. -/
structure Balances (db : Db) (response : OrderResponse) : Prop where
  someLine : response.lines ≠ []
  lines : ∀ line ∈ response.lines, line.lineSubtotal = line.unitPrice * line.quantity ∧
    line.finalLineAmount =
      line.lineSubtotal - line.itemDiscountAmount - line.promotionDiscountAmount ∧
    0 ≤ line.finalLineAmount
  subtotal : response.subtotalAmount = (response.lines.map (·.lineSubtotal)).sum
  itemDiscount : response.itemDiscountTotal = (response.lines.map (·.itemDiscountAmount)).sum
  promotion : response.promotionDiscountTotal =
    (response.lines.map (·.promotionDiscountAmount)).sum
  final : response.finalAmount =
    (response.lines.map (·.finalLineAmount)).sum - response.orderDiscountTotal
  paid : response.paidAmount =
    ((listPaymentsByOrder db response.id).map (·.2.amount.value)).sum - totalRefunded db response.id
  covered : 0 ≤ response.paidAmount ∧ response.paidAmount ≤ response.finalAmount
  status : response.status ≠ .void → response.status =
    if response.paidAmount = 0 then .pending
    else if response.paidAmount < response.finalAmount then .partiallyPaid
    else .settled

theorem collected_listed (db : Db) (orderId : Nat) :
    Ledger.collected db orderId =
      ((listPaymentsByOrder db orderId).map (·.2.amount.value)).sum := by
  have listed : (listPaymentsByOrder db orderId).map Prod.snd =
      db.paymentRecords.rows.filter (Ledger.forOrder orderId) :=
    Table.filter_entries_rows db.paymentRecords (Ledger.forOrder orderId)
  rw [Ledger.collected, Table.total, ← listed, List.map_map]
  rfl

theorem kept_balances (db : Db) (kept : Kept db) (env : Env) (orderId : Nat)
    (response : OrderResponse) (answered : getOrder db env orderId = .ok response) :
    Balances db response := by
  obtain ⟨order, found, rfl⟩ := (getOrder_ok db env orderId response).mp answered
  have coherent := kept.books.orders orderId order found
  have reconciled := coherent.reconciled
  have adds := kept.sums orderId order found
  have listed := response_lines db env orderId order
  have column (amount : OrderLineResponse → ℚ) (stored : OrderLine → ℚ)
      (same : ∀ entry, amount (toOrderLineResponse entry) = stored entry.2) :
      ((toOrderResponse db env orderId order).lines.map amount).sum =
        ((linesOf db orderId).map stored).sum := by
    rw [(listed.map amount).sum_eq, linesOf, List.map_map, List.map_map]
    congr 2
    funext entry
    exact same entry
  constructor
  · intro none
    rw [none, List.nil_perm, List.map_eq_nil_iff] at listed
    exact adds.someLine (by rw [linesOf, listed, List.map_nil])
  · intro line member
    obtain ⟨entry, inside, rfl⟩ := List.mem_map.mp (listed.mem_iff.mp member)
    have isLine : entry.2 ∈ linesOf db orderId := List.mem_map_of_mem inside
    refine ⟨adds.lineSubtotal entry.2 isLine, adds.lineFinal entry.2 isLine, ?_⟩
    apply adds.nonneg entry.2.finalLineAmount
    exact List.mem_append_right _ (List.mem_flatMap.mpr ⟨entry.2, isLine, by simp [lineAmounts]⟩)
  · rw [column (·.lineSubtotal) (·.lineSubtotal.value) (fun _ => rfl)]
    exact adds.subtotal
  · rw [column (·.itemDiscountAmount) (·.itemDiscountAmount.value) (fun _ => rfl)]
    exact adds.itemDiscount
  · rw [column (·.promotionDiscountAmount) (·.promotionDiscountAmount.value) (fun _ => rfl)]
    exact adds.promotion
  · rw [column (·.finalLineAmount) (·.finalLineAmount.value) (fun _ => rfl)]
    exact adds.final
  · exact calc
      order.paidAmount.value = Ledger.collected db orderId - Ledger.refunded db orderId :=
        reconciled.paid
      _ = _ := by rw [collected_listed, ← Ledger.totalRefunded_refunded]; rfl
  · exact ⟨reconciled.nonneg, reconciled.covered⟩
  · exact coherent.status_open

structure Newest (db : Db) (env : Env) (limit : Nat) (responses : List OrderResponse) : Prop where
  answers : ∀ response ∈ responses, getOrder db env response.id = .ok response
  descending : responses.Pairwise (fun newer older => older.id < newer.id)
  length : responses.length = min limit db.orders.rows.length
  newest : ∀ orderId response, getOrder db env orderId = .ok response →
    response ∉ responses → ∀ listed ∈ responses, orderId < listed.id

theorem listOrders_newest (db : Db) (env : Env) (limit : Nat) :
    Newest db env limit (listOrders db env limit) := by
  have descending : db.orders.entries.reverse.Pairwise (fun newer older => older.1 < newer.1) :=
    List.pairwise_reverse.mpr (Table.entries_ascending db.orders)
  have found (entry : Nat × Order) :
      entry ∈ db.orders.entries.reverse ↔ db.orders.get? entry.1 = some entry.2 := by
    rw [List.mem_reverse, Table.mem_entries]
  constructor
  · intro response member
    obtain ⟨entry, inside, rfl⟩ := List.mem_map.mp member
    exact (getOrder_ok db env _ _).mpr ⟨entry.2, (found entry).mp (List.mem_of_mem_take inside), rfl⟩
  · rw [listOrders, List.pairwise_map]
    exact descending.sublist (List.take_sublist _ _)
  · rw [listOrders, List.length_map, List.length_take, List.length_reverse, Table.entries,
      List.length_map, List.length_zipIdx]
  · intro orderId response answered unlisted listed member
    obtain ⟨order, present, rfl⟩ := (getOrder_ok db env orderId response).mp answered
    obtain ⟨entry, inside, rfl⟩ := List.mem_map.mp member
    have split := List.take_append_drop limit db.orders.entries.reverse
    have there : (orderId, order) ∈ db.orders.entries.reverse := (found _).mpr present
    rw [← split] at there descending
    rcases List.mem_append.mp there with taken | dropped
    · exact absurd (List.mem_map.mpr ⟨_, taken, rfl⟩) unlisted
    · exact (List.pairwise_append.mp descending).2.2 entry inside (orderId, order) dropped

/-- At every point of every run of the shop each statement adds up, with the payments and
refunds filed so far, and the listing is that of the newest orders. -/
theorem statements_add_up (calls : List Call) (reader : Env) :
    (∀ orderId response, getOrder (run calls) reader orderId = .ok response →
        Balances (run calls) response) ∧
      ∀ limit, Newest (run calls) reader limit (listOrders (run calls) reader limit) :=
  ⟨kept_balances (run calls) (run_kept calls) reader, listOrders_newest (run calls) reader⟩

end RetailApp.Shop
