import RetailApp.Catalogue.Codes
import RetailApp.Ledger.Runs
import RetailApp.Ledger.Sweeps
import RetailApp.Ledger.Writes
import RetailApp.Pricing.OneMoreRule
import RetailApp.Pricing.Totals

/-! Runs of the whole shop: products and promotion rules come and go between sales, payments
and after-sales calls. -/

namespace RetailApp.Shop

open Pricing Transaction

inductive Call where
  | catalogue (call : Catalogue.Call)
  | createPromotionRule (payload : PromotionRuleCreateRequest)
  | ledger (call : Ledger.Call)

def step (db : Db) : Call → Db
  | .catalogue call => Catalogue.step db call
  | .createPromotionRule payload => after (RetailApp.createPromotionRule payload) db
  | .ledger call => Ledger.step db call

def run (calls : List Call) : Db := Runs.run step (Db.start Table.empty Table.empty) calls

def recordTables (db : Db) :
    Table Order × Table OrderLine × Table PaymentRecord × Table AfterSalesOrder :=
  (db.orders, db.orderLines, db.paymentRecords, db.afterSalesOrders)

/-- The columns of an order that a payment, a refund or a sweep has no business with. -/
def saleOf (order : Order) : Order :=
  { order with
    status := .pending
    paidAmount := Amount.zero
    settledAt := none
    voidedAt := none
    voidReason := none }

def saleAmounts (order : Order) : List Amount :=
  [order.subtotalAmount, order.itemDiscountTotal, order.orderDiscountTotal,
    order.promotionDiscountTotal, order.finalAmount]

/-- An order row that is the sum of its line rows, all of them non-negative. -/
structure AddsUp (order : Order) (rows : List OrderLine) : Prop where
  someLine : rows ≠ []
  lineSubtotal : ∀ line ∈ rows, line.lineSubtotal.value = line.unitPrice.value * line.quantity
  lineFinal : ∀ line ∈ rows, line.finalLineAmount.value =
    line.lineSubtotal.value - line.itemDiscountAmount.value - line.promotionDiscountAmount.value
  subtotal : order.subtotalAmount.value = subtotalOf rows
  itemDiscount : order.itemDiscountTotal.value = itemDiscountOf rows
  promotion : order.promotionDiscountTotal.value =
    (rows.map (fun line => line.promotionDiscountAmount.value)).sum
  final : order.finalAmount.value =
    (rows.map (fun line => line.finalLineAmount.value)).sum - order.orderDiscountTotal.value
  nonneg : ∀ amount ∈ saleAmounts order ++ rows.flatMap lineAmounts, 0 ≤ amount.value

def ValidRules (db : Db) : Prop := ∀ rule ∈ db.promotionRules.rows, rule.Valid

theorem activeRules_mem (db : Db) (rule : PromotionRule)
    (member : rule ∈ PromotionEngine.activeRules db) : rule ∈ db.promotionRules.rows := by
  obtain ⟨entry, inside, rfl⟩ := List.mem_map.mp member
  rw [List.mem_insertionSort, List.mem_filter, Table.mem_entries] at inside
  exact (Table.mem_rows _ _).mpr ⟨entry.1, inside.1⟩

theorem catalogue_records (db : Db) (call : Catalogue.Call) :
    recordTables (Catalogue.step db call) = recordTables db ∧
      (Catalogue.step db call).promotionRules = db.promotionRules := by
  cases call with
  | createProduct env payload =>
      rcases Catalogue.createProduct_written env payload db with same | ⟨_, _, _, _, new⟩
      · rw [Catalogue.step, same]
        exact ⟨rfl, rfl⟩
      · rw [Catalogue.step, new]
        exact ⟨rfl, rfl⟩
  | updateProductStatus productId payload =>
      rcases Catalogue.updateProductStatus_products productId payload db with same | new
      · rw [same]
        exact ⟨rfl, rfl⟩
      · rw [new]
        exact ⟨rfl, rfl⟩

theorem createPromotionRule_records (db : Db) (payload : PromotionRuleCreateRequest)
    (rules : ValidRules db) :
    recordTables (step db (.createPromotionRule payload)) = recordTables db ∧
      ValidRules (step db (.createPromotionRule payload)) := by
  rw [step]
  rcases after_cases (RetailApp.createPromotionRule payload) (allOrNothing_transactional _) db with
    ⟨⟨ruleId, rule⟩, created⟩ | same
  · obtain ⟨stored, written⟩ := createPromotionRule_ok payload db _ ruleId rule created
    rw [written, ValidRules, Table.forall_rows_insert]
    exact ⟨rfl, rules, (storeRule_valid payload rule stored).1⟩
  · rw [same]
    exact ⟨rfl, rules⟩

section Sale

variable (env : Env) (actor : User) (payload : OrderCreateRequest) (db db' : Db)
  (response : OrderResponse) (lines rows : List OrderLine) (order : Order)
  (sold : Sold env actor payload db db' response lines rows order)

include sold

theorem sold_owned : ∀ row ∈ rows, row.orderId = db.orders.nextKey := by
  intro row member
  obtain ⟨line, inside, one⟩ := Accumulate.related_origin _ lines rows sold.discounted row member
  obtain ⟨_, _, isPriced⟩ := Accumulate.related_origin _ _ _ sold.accepted.priced line inside
  rw [one.row]
  exact isPriced.orderId

theorem sold_addsUp (valid : ValidRules db) : AddsUp order rows := by
  have activeValid : ∀ rule ∈ PromotionEngine.activeRules db, rule.Valid :=
    fun rule member => valid rule (activeRules_mem db rule member)
  have discounted := sold.discounted
  have totalled := sold.totalled
  have bounded := priced_bounded db env _ payload lines activeValid sold.accepted.priced
  obtain ⟨subtotal, item, promotion, _⟩ := sums_of_discounted _ lines rows discounted
  have finals (row : OrderLine) (member : row ∈ rows) : row.finalLineAmount.value =
      row.lineSubtotal.value - row.itemDiscountAmount.value - row.promotionDiscountAmount.value := by
    obtain ⟨line, _, one⟩ := Accumulate.related_origin _ lines rows discounted row member
    exact finalLine_of_discounted _ line row one
  have length : rows.length = payload.lines.length :=
    discounted.length_eq.symm.trans sold.accepted.priced.length_eq.symm
  constructor
  · intro none
    rw [none, List.length_nil, eq_comm, List.length_eq_zero_iff] at length
    exact payload.someLine length
  · intro row member
    obtain ⟨line, inside, one⟩ := Accumulate.related_origin _ lines rows discounted row member
    obtain ⟨_, _, isPriced⟩ := Accumulate.related_origin _ _ _ sold.accepted.priced line inside
    obtain ⟨_, quantity, unitPrice, lineSubtotal, _⟩ := Discounted.fields _ line row one
    rw [lineSubtotal, unitPrice, quantity, isPriced.subtotal]
  · exact finals
  · rw [totalled.subtotal, subtotal]
  · rw [totalled.itemDiscount, item]
  · rw [totalled.promotion, promotion]
  · rw [sum_final rows finals, subtotal, item, promotion, totalled.final, totalled.orderDiscount,
      orderFinal]
  · intro amount member
    rcases List.mem_append.mp member with ofOrder | ofRow
    · exact (totals_nonneg env actor payload db lines order bounded totalled
        sold.accepted.orderCovered).1 amount
          (List.Sublist.subset (List.sublist_append_left (saleAmounts order) [order.paidAmount])
            ofOrder)
    · obtain ⟨row, inside, ofRow⟩ := List.mem_flatMap.mp ofRow
      exact rows_nonneg db payload lines rows bounded discounted sold.accepted.linesCovered row
        inside amount ofRow

end Sale

/-- What a ledger call does to the lines: it leaves them, or adds those of a new order. -/
inductive Lined (db db' : Db) : Prop
  | kept (lines : db'.orderLines = db.orderLines)
      (keys : db'.orders.nextKey = db.orders.nextKey)
  | sold (order : Order) (rows : List OrderLine) (orders : db'.orders = db.orders.insert order)
      (lines : db'.orderLines = db.orderLines.insertAll rows)
      (owned : ∀ row ∈ rows, row.orderId = db.orders.nextKey) (adds : AddsUp order rows)

theorem swept_lines (now : Time) (loaded : List (Nat × Order)) (db : Db) :
    (swept now loaded db).orderLines = db.orderLines := by
  rw [Ledger.swept_frame now loaded db]

theorem sale_lined (env : Env) (actor : User) (payload : OrderCreateRequest) (db : Db)
    (valid : ValidRules db) : Lined db (Ledger.step db (.createOrder env actor payload)) := by
  have activeValid : ∀ rule ∈ PromotionEngine.activeRules db, rule.Valid :=
    fun rule member => valid rule (activeRules_mem db rule member)
  rcases after_cases _ (createOrder_allOrNothing env actor payload) db with
    ⟨response, created⟩ | same
  · obtain ⟨lines, rows, order, sold⟩ :=
      createOrder_sold env actor payload db _ response activeValid created
    exact .sold order rows sold.orders sold.orderLines
      (sold_owned env actor payload db _ response lines rows order sold)
      (sold_addsUp env actor payload db _ response lines rows order sold valid)
  · exact .kept (congrArg Db.orderLines same) (congrArg (·.orders.nextKey) same)

theorem writes_lined (db db' : Db) (call : Ledger.Call) (writes : Ledger.Writes db call db')
    (notSale : ∀ env actor payload, call ≠ .createOrder env actor payload) : Lined db db' := by
  cases writes with
  | opened env actor payload order rows opens => exact (notSale env actor payload rfl).elim
  | settled env actor payload plan records paidAmount checked stores =>
      exact .kept rfl (Table.nextKey_modify _ _ _)
  | returned env actor payload record => exact .kept rfl rfl
  | exchanged env actor payload record => exact .kept rfl rfl
  | repeated env actor payload => exact .kept rfl rfl
  | refunded env actor payload order record paidAmount allowed stores =>
      exact .kept rfl (Table.nextKey_modify _ _ _)
  | swept env => exact .kept (swept_lines env.now _ db) (swept_nextKey env.now _ db)

theorem ledger_lined (db : Db) (call : Ledger.Call) (valid : ValidRules db) :
    Lined db (Ledger.step db call) := by
  by_cases sale : ∃ env actor payload, call = .createOrder env actor payload
  · obtain ⟨env, actor, payload, rfl⟩ := sale
    exact sale_lined env actor payload db valid
  · rcases Ledger.step_writes db call with same | writes
    · exact .kept (congrArg Db.orderLines same) (congrArg (·.orders.nextKey) same)
    · exact writes_lined db _ call writes (fun env actor payload is =>
        sale ⟨env, actor, payload, is⟩)

end RetailApp.Shop
