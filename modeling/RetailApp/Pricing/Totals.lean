import RetailApp.Ledger.Runs
import RetailApp.Pricing.Acceptance

/-! The totals of a new order reconcile with its lines to the cent. -/

namespace RetailApp.Pricing

open Transaction PromotionEngine Accumulate FixedPoint

def orderAmounts (order : Order) : List Amount :=
  [order.subtotalAmount, order.itemDiscountTotal, order.orderDiscountTotal,
    order.promotionDiscountTotal, order.finalAmount, order.paidAmount]

def lineAmounts (line : OrderLine) : List Amount :=
  [line.unitPrice, line.lineSubtotal, line.itemDiscountAmount, line.promotionDiscountAmount,
    line.finalLineAmount]

/-- What ties the row of a new order to the rows of its lines, to the request and to what the
engine gives for these lines. -/
structure Reconciles (db : Db) (payload : OrderCreateRequest) (order : Order)
    (rows : List OrderLine) : Prop where
  requested : List.Forall₂ (fun inputLine line => line.quantity = inputLine.quantity ∧
    inputLine.itemDiscountAmount.map money = some line.itemDiscountAmount.value) payload.lines rows
  lineSubtotal : ∀ line ∈ rows, line.lineSubtotal.value = line.unitPrice.value * line.quantity
  lineFinal : ∀ line ∈ rows, line.finalLineAmount.value =
    line.lineSubtotal.value - line.itemDiscountAmount.value - line.promotionDiscountAmount.value
  subtotal : order.subtotalAmount.value = (rows.map (fun line => line.lineSubtotal.value)).sum
  itemDiscount : order.itemDiscountTotal.value =
    (rows.map (fun line => line.itemDiscountAmount.value)).sum
  promotion : order.promotionDiscountTotal.value =
    (rows.map (fun line => line.promotionDiscountAmount.value)).sum
  orderDiscount : ∃ stated result, payload.orderDiscountAmount = some stated ∧
    PromotionEngine.apply (activeRules db) (db.orderLines.numbered rows)
      (order.subtotalAmount.value - order.itemDiscountTotal.value) = .ok result ∧
    order.orderDiscountTotal.value =
      money stated + result.orderDiscountAmount ∧
    ∀ entry ∈ db.orderLines.numbered rows,
      entry.2.promotionDiscountAmount.value = result.linePromoDiscounts entry.1
  final : order.finalAmount.value =
    (rows.map (fun line => line.finalLineAmount.value)).sum - order.orderDiscountTotal.value
  stored : ∀ amount ∈ orderAmounts order ++ rows.flatMap lineAmounts,
    OnGrid 100 amount.value ∧ 0 ≤ amount.value
  atMost : order.finalAmount.value ≤ order.subtotalAmount.value

theorem sums_of_discounted (rules : List PromotionRule) (lines finals : List OrderLine)
    (discounted : List.Forall₂ (Discounted rules) lines finals) :
    subtotalOf finals = subtotalOf lines ∧ itemDiscountOf finals = itemDiscountOf lines ∧
      (finals.map (fun line => line.promotionDiscountAmount.value)).sum = promotionOf rules lines ∧
      quantities finals = quantities lines := by
  have columns (line final : OrderLine) (one : Discounted rules line final) :=
    Discounted.fields rules line final one
  refine ⟨congrArg List.sum ?_, congrArg List.sum ?_, congrArg List.sum ?_, ?_⟩
  · apply related_map _ _ _ _ lines finals discounted
    intro line final one
    rw [(columns line final one).2.2.2.1]
  · apply related_map _ _ _ _ lines finals discounted
    intro line final one
    rw [(columns line final one).2.2.2.2]
  · apply related_map _ _ _ _ lines finals discounted
    intro line final one
    exact one.promotion
  · apply related_map _ _ _ _ lines finals discounted
    intro line final one
    rw [(columns line final one).1, (columns line final one).2.1]

theorem finalLine_of_discounted (rules : List PromotionRule) (line final : OrderLine)
    (discounted : Discounted rules line final) :
    final.finalLineAmount.value = final.lineSubtotal.value - final.itemDiscountAmount.value -
      final.promotionDiscountAmount.value := by
  obtain ⟨_, _, _, subtotal, item⟩ := Discounted.fields rules line final discounted
  rw [discounted.amount, discounted.promotion, subtotal, item, Pricing.lineFinal]

theorem sum_final (rows : List OrderLine)
    (each : ∀ line ∈ rows, line.finalLineAmount.value =
      line.lineSubtotal.value - line.itemDiscountAmount.value -
        line.promotionDiscountAmount.value) :
    (rows.map (fun line => line.finalLineAmount.value)).sum =
      subtotalOf rows - itemDiscountOf rows -
        (rows.map (fun line => line.promotionDiscountAmount.value)).sum := by
  induction rows with
  | nil => simp [subtotalOf, itemDiscountOf]
  | cons line rows ih =>
      have rest := ih (fun other member => each other (List.mem_cons_of_mem line member))
      simp only [subtotalOf, itemDiscountOf] at rest
      simp only [subtotalOf, itemDiscountOf, List.map_cons, List.sum_cons, rest,
        each line List.mem_cons_self]
      ring

theorem engine_of_discounted (db : Db) (lines rows : List OrderLine)
    (valid : ∀ rule ∈ activeRules db, rule.Valid)
    (discounted : List.Forall₂ (Discounted (activeRules db)) lines rows)
    (limits : ∀ rule ∈ activeRules db, ¬ LimitExceeded rule (db.orderLines.numbered lines)) :
    PromotionEngine.apply (activeRules db) (db.orderLines.numbered rows)
        (subtotalOf rows - itemDiscountOf rows) =
          .ok (promotionsOf (activeRules db) db.orderLines rows) ∧
      ∀ entry ∈ db.orderLines.numbered rows, entry.2.promotionDiscountAmount.value =
        (promotionsOf (activeRules db) db.orderLines rows).linePromoDiscounts entry.1 := by
  constructor
  · rw [← money_of_onGrid _ ((subtotalOf_onGrid rows).sub (itemDiscountOf_onGrid rows))]
    refine (engine_ok (activeRules db) db.orderLines rows valid _).mpr ⟨?_, rfl⟩
    intro rule member
    have same := (sums_of_discounted (activeRules db) lines rows discounted).2.2.2
    rw [limitExceeded_congr rule db.orderLines db.orderLines lines rows (by rw [same])]
    exact limits rule member
  · intro entry member
    have inside : entry.2 ∈ rows := by
      rw [← Table.numbered_rows db.orderLines rows]
      exact List.mem_map_of_mem member
    obtain ⟨line, _, one⟩ := related_origin _ lines rows discounted entry.2 inside
    rw [promotionsOf_line _ _ _ _ member, one.promotion, Discounted.linePromotion _ _ line _ one]

theorem rows_nonneg (db : Db) (payload : OrderCreateRequest) (lines rows : List OrderLine)
    (bounded : Bounded db (statedDiscount payload) lines)
    (discounted : List.Forall₂ (Discounted (activeRules db)) lines rows)
    (covered : ∀ line ∈ lines, 0 ≤ Pricing.lineFinal (activeRules db) line) (row : OrderLine)
    (member : row ∈ rows) : ∀ amount ∈ lineAmounts row, 0 ≤ amount.value := by
  obtain ⟨line, inside, one⟩ := related_origin _ lines rows discounted row member
  obtain ⟨_, _, unitPrice, subtotal, item⟩ := Discounted.fields _ line row one
  have promotion := bounded.promotions line inside
  have itemNonneg := bounded.items line inside
  have final := covered line inside
  have split : Pricing.lineFinal (activeRules db) line = line.lineSubtotal.value -
      line.itemDiscountAmount.value - Pricing.linePromotion (activeRules db) line := rfl
  simp only [lineAmounts, List.forall_mem_cons, List.not_mem_nil, false_implies, implies_true,
    and_true]
  refine ⟨?_, ?_, ?_, ?_, ?_⟩
  · rw [unitPrice]
    exact bounded.unitPrices line inside
  · rw [subtotal]
    linarith
  · rw [item]
    exact itemNonneg
  · rw [one.promotion]
    exact promotion
  · rw [one.amount]
    exact final

theorem totals_nonneg (env : Env) (actor : User) (payload : OrderCreateRequest) (db : Db)
    (lines : List OrderLine) (order : Order)
    (bounded : Bounded db (statedDiscount payload) lines)
    (totalled : Totalled env actor payload (activeRules db) lines order)
    (covered : 0 ≤ orderFinal (activeRules db) (statedDiscount payload) lines) :
    (∀ amount ∈ orderAmounts order, 0 ≤ amount.value) ∧
      order.finalAmount.value ≤ order.subtotalAmount.value := by
  obtain ⟨_, _, _, item, promotion, manual, engine⟩ := bounded
  have whole : orderFinal (activeRules db) (statedDiscount payload) lines =
      subtotalOf lines - itemDiscountOf lines - promotionOf (activeRules db) lines -
        Pricing.orderDiscount (activeRules db) (statedDiscount payload) lines := rfl
  have discount : Pricing.orderDiscount (activeRules db) (statedDiscount payload) lines =
      money (statedDiscount payload) +
        orderPromotion (activeRules db) (subtotalOf lines - itemDiscountOf lines) := rfl
  simp only [orderAmounts, List.forall_mem_cons, List.not_mem_nil, false_implies, implies_true,
    and_true, totalled.subtotal, totalled.itemDiscount, totalled.orderDiscount, totalled.promotion,
    totalled.final, totalled.paid, Amount.zero_value]
  refine ⟨⟨?_, item, ?_, promotion, covered, le_rfl⟩, ?_⟩
  · linarith
  · linarith
  · linarith

theorem createOrder_reconciles (env : Env) (actor : User) (payload : OrderCreateRequest)
    (db db' : Db) (response : OrderResponse) (valid : ∀ rule ∈ activeRules db, rule.Valid)
    (created : createOrder env actor payload db = .ok response db') :
    ∃ order rows, db'.orders = db.orders.insert order ∧
      db'.orderLines = db.orderLines.insertAll rows ∧
      response = toOrderResponse db' env db.orders.nextKey order ∧
      Reconciles db payload order rows := by
  obtain ⟨lines, rows, order, sold⟩ :=
    createOrder_sold env actor payload db db' response valid created
  have priced := sold.accepted.priced
  have discounted := sold.discounted
  have totalled := sold.totalled
  have bounded := priced_bounded db env _ payload lines valid priced
  obtain ⟨subtotal, item, promotion, _⟩ := sums_of_discounted (activeRules db) lines rows discounted
  obtain ⟨engine, entries⟩ := engine_of_discounted db lines rows valid discounted
    sold.accepted.limits
  obtain ⟨orderNonneg, atMost⟩ := totals_nonneg env actor payload db lines order bounded totalled
    sold.accepted.orderCovered
  have finals (row : OrderLine) (member : row ∈ rows) : row.finalLineAmount.value =
      row.lineSubtotal.value - row.itemDiscountAmount.value - row.promotionDiscountAmount.value := by
    obtain ⟨line, _, one⟩ := related_origin _ lines rows discounted row member
    exact finalLine_of_discounted (activeRules db) line row one
  refine ⟨order, rows, sold.orders, sold.orderLines, sold.response, ?_, ?_, finals, ?_, ?_, ?_,
    ⟨statedDiscount payload, _, ?_, ?_, ?_, entries⟩, ?_, ?_, atMost⟩
  · apply related_trans _ _ _ _ payload.lines lines rows priced discounted
    intro inputLine line row isPriced one
    obtain ⟨_, quantity, _, _, discount⟩ := Discounted.fields _ line row one
    exact ⟨quantity.trans isPriced.quantity, by rw [discount, isPriced.itemDiscount]⟩
  · intro row member
    obtain ⟨line, inside, one⟩ := related_origin _ lines rows discounted row member
    obtain ⟨inputLine, _, isPriced⟩ := related_origin _ _ _ priced line inside
    obtain ⟨_, quantity, unitPrice, lineSubtotal, _⟩ := Discounted.fields _ line row one
    rw [lineSubtotal, unitPrice, quantity, isPriced.subtotal]
  · rw [totalled.subtotal, ← subtotal, subtotalOf]
  · rw [totalled.itemDiscount, ← item, itemDiscountOf]
  · rw [totalled.promotion, promotion]
  · exact statedDiscount_eq payload sold.accepted.stated
  · rw [totalled.subtotal, totalled.itemDiscount, ← subtotal, ← item]
    exact engine
  · rw [totalled.orderDiscount, Pricing.orderDiscount, promotionsOf, subtotal, item]
  · rw [sum_final rows finals, subtotal, item, promotion, totalled.final, totalled.orderDiscount,
      orderFinal]
  · intro amount member
    refine ⟨amount.cents, ?_⟩
    rcases List.mem_append.mp member with ofOrder | ofRow
    · exact orderNonneg amount ofOrder
    · obtain ⟨row, inside, ofRow⟩ := List.mem_flatMap.mp ofRow
      exact rows_nonneg db payload lines rows bounded discounted sold.accepted.linesCovered row inside
        amount ofRow

def soda : Product :=
  { Ledger.tea with
    name := "Soda"
    namePinyin := "qishui"
    barcode := "6909999999999"
    internalCode := "SKU-SODA-1"
    unitPrice := sodaPrice }

def sodaShop (rules : List PromotionRule) : Db := Db.start ⟨[soda]⟩ ⟨rules⟩

def sodas (quantity : Nat) (bounds : 1 ≤ quantity ∧ quantity ≤ 999) : OrderLineCreateRequest :=
  ⟨"6909999999999", quantity, some 0, by decide, bounds, Ledger.zero_discount⟩

theorem one_orderable : 1 ≤ 1 ∧ 1 ≤ 999 := by decide

def aSoda : OrderLineCreateRequest := sodas 1 one_orderable

def threeSodas : OrderCreateRequest :=
  ⟨[sodas 3 (by decide)], some 0, by simp, Ledger.zero_discount⟩

def sellSodas (payload : OrderCreateRequest) : Service OrderResponse :=
  createOrder (Ledger.atTime 0 "ORD-1") Ledger.clerk payload

theorem sodaShop_rules : activeRules (sodaShop [buyTwoGetOne]) = [buyTwoGetOne] := by
  decide +kernel

theorem createOrder_reconciles_sodas : ∃ response db' order rows,
    db'.orders = Table.empty.insert order ∧ db'.orderLines = Table.empty.insertAll rows ∧
      response = toOrderResponse db' (Ledger.atTime 0 "ORD-1") 1 order ∧
      Reconciles (sodaShop [buyTwoGetOne]) threeSodas order rows := by
  obtain ⟨response, created⟩ := returns_of_isOk (sellSodas threeSodas) (sodaShop [buyTwoGetOne])
    (by decide +kernel)
  refine ⟨response, _, createOrder_reconciles (Ledger.atTime 0 "ORD-1") Ledger.clerk threeSodas
    (sodaShop [buyTwoGetOne]) _ response ?_ created⟩
  rw [sodaShop_rules]
  simp [buyTwoGetOne_valid]

end RetailApp.Pricing
