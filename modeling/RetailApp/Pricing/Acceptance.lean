import RetailApp.Services.OrderService
import RetailApp.Pricing.Promotions

/-! When `create_order` accepts a request, and what the order and its lines then hold. -/

namespace RetailApp

theorem Amount.exists_value (value : ℚ) (cents : FixedPoint.OnGrid 100 value)
    (nonneg : 0 ≤ value) (small : value < 10 ^ 10) : ∃ amount : Amount, amount.value = value :=
  ⟨⟨value, cents, by rwa [abs_of_nonneg nonneg]⟩, rfl⟩

theorem Amount.store_value (column : String) (amount : Amount) :
    Amount.store column amount.value = .ok amount := by
  rw [Amount.store_ok, money_amount]
  exact ⟨rfl, amount.fits⟩

namespace Pricing

open Transaction PromotionEngine Accumulate FixedPoint

def catalogue (db : Db) (env : Env) (query : String) : Except Raised (Nat × Product) :=
  findProductByQuery db env query false

theorem found_once (found : Except Raised (Nat × Product)) (productId productId' : Nat)
    (product product' : Product) (first : found = .ok (productId, product))
    (second : found = .ok (productId', product')) :
    productId' = productId ∧ product' = product :=
  Prod.mk.inj (Except.ok.inj (second.symm.trans first))

theorem catalogue_congr (db db' : Db) (same : db'.products = db.products) (env : Env) :
    catalogue db' env = catalogue db env := by
  funext query
  rw [catalogue, catalogue, findProductByQuery, findProductByQuery, same]

/-- The row that one input line becomes before the promotions are known. -/
structure Priced (find : String → Except Raised (Nat × Product)) (orderId : Nat)
    (inputLine : OrderLineCreateRequest) (line : OrderLine) : Prop where
  product : ∃ product, find inputLine.productQuery = .ok (line.productId, product) ∧
    product.isAvailableForSale = true ∧ line.productNameSnapshot = product.name ∧
    line.productBarcodeSnapshot = product.barcode ∧ line.unitPrice = product.unitPrice
  orderId : line.orderId = orderId
  quantity : line.quantity = inputLine.quantity
  subtotal : line.lineSubtotal.value = line.unitPrice.value * line.quantity
  itemDiscount : inputLine.itemDiscountAmount.map money = some line.itemDiscountAmount.value
  covered : line.itemDiscountAmount.value ≤ line.lineSubtotal.value
  promotion : line.promotionDiscountAmount = Amount.zero
  final : line.finalLineAmount.value = line.lineSubtotal.value - line.itemDiscountAmount.value

theorem money_zero : money 0 = 0 := money_of_onGrid 0 (onGrid_zero 100)

theorem priced_undiscounted (find : String → Except Raised (Nat × Product)) (orderId : Nat)
    (inputLine : OrderLineCreateRequest) (line : OrderLine)
    (priced : Priced find orderId inputLine line)
    (noDiscount : inputLine.itemDiscountAmount = some 0) : line.itemDiscountAmount.value = 0 := by
  have asked := priced.itemDiscount
  rw [noDiscount, Option.map_some, money_zero] at asked
  exact (Option.some.inj asked).symm

theorem priced_exists (find : String → Except Raised (Nat × Product)) (orderId : Nat)
    (inputLine : OrderLineCreateRequest) (found : Nat × Product) (asked : ℚ)
    (isFound : find inputLine.productQuery = .ok found)
    (available : found.2.isAvailableForSale = true)
    (stated : inputLine.itemDiscountAmount = some asked)
    (covered : money asked ≤ found.2.unitPrice.value * inputLine.quantity)
    (small : found.2.unitPrice.value * inputLine.quantity < 10 ^ 10) :
    ∃ line, Priced find orderId inputLine line := by
  have discountNonneg := money_nonneg asked (inputLine.discountNonneg asked stated)
  have grid := found.2.unitPrice.onGrid_scaled inputLine.quantity
  rw [Int.cast_natCast] at grid
  have discountGrid := money_onGrid asked
  obtain ⟨subtotal, isSubtotal⟩ :=
    Amount.exists_value _ grid (discountNonneg.trans covered) small
  obtain ⟨discount, isDiscount⟩ :=
    Amount.exists_value _ discountGrid discountNonneg (covered.trans_lt small)
  obtain ⟨final, isFinal⟩ := Amount.exists_value _ (grid.sub discountGrid)
    (sub_nonneg.mpr covered) ((sub_le_self _ discountNonneg).trans_lt small)
  refine ⟨⟨orderId, found.1, found.2.name, found.2.barcode, inputLine.quantity, found.2.unitPrice,
    subtotal, discount, Amount.zero, final⟩, ⟨found.2, isFound, available, rfl, rfl, rfl⟩, rfl,
    rfl, isSubtotal, ?_, ?_, rfl, ?_⟩
  · rw [stated, Option.map_some, isDiscount]
  · simp only [isSubtotal, isDiscount]
    exact covered
  · simp only [isFinal, isSubtotal, isDiscount]

def pushLine (cart : Cart) (lineId : Nat) (line : OrderLine) : Cart where
  lines := cart.lines ++ [(lineId, line)]
  subtotal := cart.subtotal + line.lineSubtotal.value
  itemDiscountTotal := cart.itemDiscountTotal + line.itemDiscountAmount.value

theorem lineSubtotal_exact (unitPrice : Amount) (quantity : Nat) :
    money (unitPrice.value * quantity) = unitPrice.value * quantity := by
  apply money_of_onGrid
  have grid := unitPrice.onGrid_scaled quantity
  rwa [Int.cast_natCast] at grid

theorem addLine_ok (env : Env) (orderId : Nat) (cart cart' : Cart)
    (inputLine : OrderLineCreateRequest) (db db' : Db) :
    addLine env orderId cart inputLine db = .ok cart' db' ↔
      ∃ line, Priced (catalogue db env) orderId inputLine line ∧
        pushLine cart db.orderLines.nextKey line = cart' ∧
        { db with orderLines := db.orderLines.insert line } = db' := by
  simp only [addLine, bind_ok, get_ok, attempt_ok, raiseIf_ok, Amount.store_ok, moneyOf_ok,
    insertOrderLine_eq, pure_ok, EStateM.Result.ok.injEq, not_lt, Bool.not_eq_false,
    lineSubtotal_exact]
  constructor
  · rintro ⟨_, _, ⟨rfl, rfl⟩, ⟨productId, product⟩, _, ⟨found, rfl⟩, _, _, ⟨available, rfl⟩, _, _,
      ⟨asked, rfl⟩, _, _, ⟨covered, rfl⟩, subtotal, _, ⟨⟨isSubtotal, _⟩, rfl⟩, discount, _,
      ⟨⟨isDiscount, _⟩, rfl⟩, final, _, ⟨⟨isFinal, _⟩, rfl⟩, _, _, ⟨rfl, rfl⟩, rfl, rfl⟩
    obtain ⟨stated, isStated, rfl⟩ := Option.map_eq_some_iff.mp asked
    simp only [money_money] at isSubtotal isDiscount isFinal covered
    have difference : final.value = subtotal.value - discount.value := by
      rw [isFinal, ← isSubtotal, ← isDiscount]
      exact money_of_onGrid _ (subtotal.cents.sub discount.cents)
    refine ⟨⟨orderId, productId, product.name, product.barcode, inputLine.quantity,
      product.unitPrice, subtotal, discount, Amount.zero, final⟩, ?_, ?_, rfl⟩
    · refine ⟨⟨product, found, available, rfl, rfl, rfl⟩, rfl, rfl, isSubtotal, ?_, ?_, rfl,
        difference⟩
      · rw [isStated, Option.map_some, isDiscount]
      · rw [isSubtotal, isDiscount]
        exact covered
    · simp only [pushLine, isSubtotal, isDiscount]
  · rintro ⟨line, priced, rfl, rfl⟩
    obtain ⟨product, found, available, name, barcode, unitPrice⟩ := priced.product
    have subtotal : product.unitPrice.value * inputLine.quantity = line.lineSubtotal.value := by
      rw [priced.subtotal, unitPrice, priced.quantity]
    have row : line = ⟨orderId, line.productId, product.name, product.barcode, inputLine.quantity,
        product.unitPrice, line.lineSubtotal, line.itemDiscountAmount, Amount.zero,
        line.finalLineAmount⟩ := by
      rw [← priced.orderId, ← name, ← barcode, ← priced.quantity, ← unitPrice, ← priced.promotion]
    have difference : money (line.lineSubtotal.value - line.itemDiscountAmount.value) =
        line.finalLineAmount.value := by
      rw [← priced.final, money_amount]
    refine ⟨db, db, ⟨rfl, rfl⟩, (line.productId, product), db, ⟨found, rfl⟩, (), db,
      ⟨available, rfl⟩, line.itemDiscountAmount.value, db, ⟨priced.itemDiscount, rfl⟩, (), db,
      ⟨?_, rfl⟩, line.lineSubtotal, db, ⟨⟨?_, ?_⟩, rfl⟩, line.itemDiscountAmount, db,
      ⟨⟨?_, ?_⟩, rfl⟩, line.finalLineAmount, db, ⟨⟨?_, ?_⟩, rfl⟩, _, _, ⟨rfl, rfl⟩, ?_, ?_⟩
    all_goals simp only [subtotal, difference, money_amount]
    · exact priced.covered
    · exact line.lineSubtotal.fits
    · exact line.itemDiscountAmount.fits
    · exact line.finalLineAmount.fits
    · rw [← row]
      rfl
    · rw [← row]

def pushLines (cart : Cart) (entries : List (Nat × OrderLine)) : Cart where
  lines := cart.lines ++ entries
  subtotal := cart.subtotal + (entries.map (fun entry => entry.2.lineSubtotal.value)).sum
  itemDiscountTotal :=
    cart.itemDiscountTotal + (entries.map (fun entry => entry.2.itemDiscountAmount.value)).sum

theorem pushLines_push (cart : Cart) (lineId : Nat) (line : OrderLine)
    (entries : List (Nat × OrderLine)) :
    pushLines (pushLine cart lineId line) entries = pushLines cart ((lineId, line) :: entries) := by
  simp [pushLines, pushLine, add_assoc]

theorem addLines_ok (env : Env) (orderId : Nat) (inputs : List OrderLineCreateRequest)
    (cart cart' : Cart) (db db' : Db) :
    inputs.foldlM (addLine env orderId) cart db = .ok cart' db' ↔
      ∃ lines, List.Forall₂ (Priced (catalogue db env) orderId) inputs lines ∧
        pushLines cart (db.orderLines.numbered lines) = cart' ∧
        { db with orderLines := db.orderLines.insertAll lines } = db' := by
  induction inputs generalizing cart db with
  | nil =>
      simp only [List.foldlM_nil, pure_ok, List.forall₂_nil_left_iff, exists_eq_left,
        Table.numbered_nil, Table.insertAll_nil]
      simp [pushLines]
  | cons inputLine inputs ih =>
      simp only [List.foldlM_cons, bind_ok, addLine_ok, ih]
      constructor
      · rintro ⟨_, _, ⟨line, priced, rfl, rfl⟩, lines, others, rfl, rfl⟩
        refine ⟨line :: lines, List.Forall₂.cons priced others, ?_, ?_⟩
        · rw [Table.numbered_cons, pushLines_push]
        · rw [Table.insertAll_cons]
      · rintro ⟨_, related, rfl, rfl⟩
        cases related with
        | cons priced others =>
            refine ⟨_, _, ⟨_, priced, rfl, rfl⟩, _, others, ?_, ?_⟩
            · rw [Table.numbered_cons, pushLines_push]
            · rw [Table.insertAll_cons]

theorem priced_unique (db : Db) (env : Env) (orderId : Nat) (inputs : List OrderLineCreateRequest)
    (lines lines' : List OrderLine)
    (priced : List.Forall₂ (Priced (catalogue db env) orderId) inputs lines)
    (priced' : List.Forall₂ (Priced (catalogue db env) orderId) inputs lines') :
    lines = lines' := by
  have first := (addLines_ok env orderId inputs Cart.empty _ db _).mpr ⟨lines, priced, rfl, rfl⟩
  have second := (addLines_ok env orderId inputs Cart.empty _ db _).mpr ⟨lines', priced', rfl, rfl⟩
  have same := congrArg Cart.lines (EStateM.Result.ok.inj (first.symm.trans second)).1
  simp only [pushLines, Cart.empty, List.nil_append] at same
  rw [← Table.numbered_rows db.orderLines lines, same, Table.numbered_rows]

def lineFinal (rules : List PromotionRule) (line : OrderLine) : ℚ :=
  line.lineSubtotal.value - line.itemDiscountAmount.value - linePromotion rules line

theorem lineFinal_onGrid (rules : List PromotionRule) (line : OrderLine) :
    OnGrid 100 (lineFinal rules line) :=
  (line.lineSubtotal.cents.sub line.itemDiscountAmount.cents).sub (linePromotion_onGrid rules line)

def discountedLine (rules : List PromotionRule) (entry : Nat × OrderLine) : DiscountedLine :=
  ⟨entry.1, linePromotion rules entry.2, lineFinal rules entry.2⟩

def discounted (promo : PromotionResult) (entry : Nat × OrderLine) : DiscountedLine where
  id := entry.1
  promotionDiscountAmount := money (promo.linePromoDiscounts entry.1)
  finalLineAmount := money (entry.2.lineSubtotal.value - entry.2.itemDiscountAmount.value -
    money (promo.linePromoDiscounts entry.1))

theorem discountLine_ok (promo : PromotionResult) (entry : Nat × OrderLine)
    (output : DiscountedLine) :
    discountLine promo entry = .ok output ↔
      0 ≤ (discounted promo entry).finalLineAmount ∧ discounted promo entry = output := by
  simp only [discountLine, bind_except_ok, raiseIf_ok, pure_except_ok, not_lt, exists_and_left,
    discounted]
  simp

theorem discounted_eq (rules : List PromotionRule) (promo : PromotionResult)
    (entry : Nat × OrderLine)
    (known : promo.linePromoDiscounts entry.1 = linePromotion rules entry.2) :
    discounted promo entry = discountedLine rules entry := by
  have promotion := money_of_onGrid _ (linePromotion_onGrid rules entry.2)
  have final := money_of_onGrid _ (lineFinal_onGrid rules entry.2)
  rw [lineFinal] at final
  rw [discounted, known, promotion, final, discountedLine, lineFinal]

theorem discountLines_ok (rules : List PromotionRule) (promo : PromotionResult)
    (entries : List (Nat × OrderLine)) (outputs : List DiscountedLine)
    (known : ∀ entry ∈ entries, promo.linePromoDiscounts entry.1 = linePromotion rules entry.2) :
    entries.mapM (discountLine promo) = .ok outputs ↔
      (∀ entry ∈ entries, 0 ≤ lineFinal rules entry.2) ∧
        entries.map (discountedLine rules) = outputs := by
  have each (entry : Nat × OrderLine) (member : entry ∈ entries) :
      discounted promo entry = discountedLine rules entry :=
    discounted_eq rules promo entry (known entry member)
  rw [mapM_guarded (discountLine promo) (discounted promo) _ entries outputs
    (discountLine_ok promo), List.map_congr_left each]
  apply and_congr_left
  intro _
  apply forall₂_congr
  intro entry member
  rw [each entry member, discountedLine]

/-- The stored line: the row with the promotion discount and the amount that is left. -/
structure Discounted (rules : List PromotionRule) (line final : OrderLine) : Prop where
  row : final = { line with
    promotionDiscountAmount := final.promotionDiscountAmount
    finalLineAmount := final.finalLineAmount }
  promotion : final.promotionDiscountAmount.value = linePromotion rules line
  amount : final.finalLineAmount.value = lineFinal rules line

theorem Discounted.fields (rules : List PromotionRule) (line final : OrderLine)
    (discounted : Discounted rules line final) :
    final.productId = line.productId ∧ final.quantity = line.quantity ∧
      final.unitPrice = line.unitPrice ∧ final.lineSubtotal = line.lineSubtotal ∧
      final.itemDiscountAmount = line.itemDiscountAmount := by
  rw [discounted.row]
  exact ⟨rfl, rfl, rfl, rfl, rfl⟩

theorem Discounted.linePromotion (rules rules' : List PromotionRule) (line final : OrderLine)
    (discounted : Discounted rules line final) :
    Pricing.linePromotion rules' final = Pricing.linePromotion rules' line := by
  obtain ⟨product, quantity, unitPrice, _, _⟩ := Discounted.fields rules line final discounted
  rw [Pricing.linePromotion, Pricing.linePromotion, product, quantity, unitPrice]

theorem flushLine_ok (rules : List PromotionRule) (lineId : Nat) (line : OrderLine) (db db' : Db)
    (value : PUnit) :
    flushLine (discountedLine rules (lineId, line)) db = .ok value db' ↔
      ∃ promotion final : Amount, promotion.value = linePromotion rules line ∧
        final.value = lineFinal rules line ∧
        { db with orderLines := db.orderLines.modify lineId (fun line =>
          { line with promotionDiscountAmount := promotion, finalLineAmount := final }) } = db' := by
  have promotionExact := money_of_onGrid _ (linePromotion_onGrid rules line)
  have finalExact := money_of_onGrid _ (lineFinal_onGrid rules line)
  simp only [flushLine, discountedLine, bind_ok, attempt_ok, modify_ok, Amount.store_ok,
    promotionExact, finalExact]
  constructor
  · rintro ⟨promotion, _, ⟨⟨isPromotion, _⟩, rfl⟩, final, _, ⟨⟨isFinal, _⟩, rfl⟩, rfl⟩
    exact ⟨promotion, final, isPromotion, isFinal, rfl⟩
  · rintro ⟨promotion, final, isPromotion, isFinal, rfl⟩
    exact ⟨promotion, _, ⟨⟨isPromotion, isPromotion ▸ promotion.fits⟩, rfl⟩, final, _,
      ⟨⟨isFinal, isFinal ▸ final.fits⟩, rfl⟩, rfl⟩

/-- Flushing the lines rewrites the rows the loop inserted, each once. -/
theorem flushLines_ok (rules : List PromotionRule) (table : Table OrderLine)
    (lines : List OrderLine) (db db' : Db) (value : PUnit)
    (rows : db.orderLines = table.insertAll lines) :
    ((table.numbered lines).map (discountedLine rules)).forM flushLine db = .ok value db' ↔
      ∃ finals, List.Forall₂ (Discounted rules) lines finals ∧
        { db with orderLines := table.insertAll finals } = db' := by
  induction lines generalizing table db with
  | nil =>
      have unchanged : { db with orderLines := table } = db := by
        rw [Table.insertAll_nil] at rows
        rw [← rows]
      simp [unchanged]
  | cons line lines ih =>
      simp only [Table.numbered_cons, List.map_cons, List.forM, bind_ok, flushLine_ok]
      have modified (promotion final : Amount) :
          db.orderLines.modify table.nextKey (fun line =>
            { line with promotionDiscountAmount := promotion, finalLineAmount := final }) =
          (table.insert { line with
            promotionDiscountAmount := promotion, finalLineAmount := final }).insertAll lines := by
        rw [rows, Table.insertAll_modify_nextKey, Table.insertAll_cons]
      constructor
      · rintro ⟨_, _, ⟨promotion, final, isPromotion, isFinal, rfl⟩, flushed⟩
        rw [Table.numbered_insert _ _ { line with
          promotionDiscountAmount := promotion, finalLineAmount := final }] at flushed
        obtain ⟨finals, others, rfl⟩ := (ih _ _ (modified promotion final)).mp flushed
        refine ⟨{ line with promotionDiscountAmount := promotion, finalLineAmount := final } ::
          finals, List.Forall₂.cons ⟨rfl, isPromotion, isFinal⟩ others, ?_⟩
        rw [Table.insertAll_cons]
      · rintro ⟨_, related, rfl⟩
        cases related with
        | @cons _ final _ finals discounted others =>
            refine ⟨⟨⟩, _, ⟨_, _, discounted.promotion, discounted.amount, rfl⟩, ?_⟩
            rw [Table.numbered_insert _ _ { line with
              promotionDiscountAmount := final.promotionDiscountAmount
              finalLineAmount := final.finalLineAmount }]
            refine (ih _ _ (modified _ _)).mpr ⟨finals, others, ?_⟩
            rw [← discounted.row, ← Table.insertAll_cons]

def subtotalOf (lines : List OrderLine) : ℚ :=
  (lines.map (fun line => line.lineSubtotal.value)).sum

def itemDiscountOf (lines : List OrderLine) : ℚ :=
  (lines.map (fun line => line.itemDiscountAmount.value)).sum

def promotionOf (rules : List PromotionRule) (lines : List OrderLine) : ℚ :=
  (lines.map (linePromotion rules)).sum

def orderDiscount (rules : List PromotionRule) (manualDiscount : ℚ) (lines : List OrderLine) : ℚ :=
  money manualDiscount + orderPromotion rules (subtotalOf lines - itemDiscountOf lines)

def orderFinal (rules : List PromotionRule) (manualDiscount : ℚ) (lines : List OrderLine) : ℚ :=
  subtotalOf lines - itemDiscountOf lines - promotionOf rules lines -
    orderDiscount rules manualDiscount lines

def statedDiscount (payload : OrderCreateRequest) : ℚ := payload.orderDiscountAmount.getD 0

theorem statedDiscount_nonneg (payload : OrderCreateRequest) : 0 ≤ statedDiscount payload := by
  cases asked : payload.orderDiscountAmount with
  | none => rw [statedDiscount, asked, Option.getD_none]
  | some discount =>
      rw [statedDiscount, asked, Option.getD_some]
      exact payload.discountNonneg discount asked

theorem statedDiscount_eq (payload : OrderCreateRequest)
    (stated : payload.orderDiscountAmount.isSome = true) :
    payload.orderDiscountAmount = some (statedDiscount payload) := by
  obtain ⟨discount, asked⟩ := Option.isSome_iff_exists.mp stated
  rw [statedDiscount, asked, Option.getD_some]

theorem moneyOf_stated (payload : OrderCreateRequest) (amount : ℚ) :
    moneyOf payload.orderDiscountAmount = .ok amount ↔
      payload.orderDiscountAmount.isSome = true ∧ money (statedDiscount payload) = amount := by
  rw [moneyOf_ok, statedDiscount]
  cases payload.orderDiscountAmount <;> simp

/-- The conditions under which `create_order` returns: `lines` are the priced rows. -/
structure Accepted (db : Db) (env : Env) (payload : OrderCreateRequest)
    (lines : List OrderLine) : Prop where
  stated : payload.orderDiscountAmount.isSome = true
  orderNo : db.orders.rows.any (·.orderNo == env.orderNo) = false
  priced : List.Forall₂ (Priced (catalogue db env) db.orders.nextKey) payload.lines lines
  limits : ∀ rule ∈ activeRules db, ¬ LimitExceeded rule (db.orderLines.numbered lines)
  linesCovered : ∀ line ∈ lines, 0 ≤ lineFinal (activeRules db) line
  orderCovered : 0 ≤ orderFinal (activeRules db) (statedDiscount payload) lines
  fits : subtotalOf lines < 10 ^ 10

structure Totalled (env : Env) (actor : User) (payload : OrderCreateRequest)
    (rules : List PromotionRule) (lines : List OrderLine) (order : Order) : Prop where
  placed : order.orderNo = env.orderNo ∧ order.cashierUserId = actor.id ∧ order.status = .pending ∧
    order.createdAt = env.now
  subtotal : order.subtotalAmount.value = subtotalOf lines
  itemDiscount : order.itemDiscountTotal.value = itemDiscountOf lines
  promotion : order.promotionDiscountTotal.value = promotionOf rules lines
  orderDiscount : order.orderDiscountTotal.value =
    Pricing.orderDiscount rules (statedDiscount payload) lines
  final : order.finalAmount.value = orderFinal rules (statedDiscount payload) lines
  paid : order.paidAmount = Amount.zero

theorem subtotalOf_onGrid (lines : List OrderLine) : OnGrid 100 (subtotalOf lines) := by
  apply OnGrid.sum
  intro amount member
  obtain ⟨line, _, rfl⟩ := List.mem_map.mp member
  exact line.lineSubtotal.cents

theorem itemDiscountOf_onGrid (lines : List OrderLine) : OnGrid 100 (itemDiscountOf lines) := by
  apply OnGrid.sum
  intro amount member
  obtain ⟨line, _, rfl⟩ := List.mem_map.mp member
  exact line.itemDiscountAmount.cents

theorem promotionOf_onGrid (rules : List PromotionRule) (lines : List OrderLine) :
    OnGrid 100 (promotionOf rules lines) := by
  apply OnGrid.sum
  intro amount member
  obtain ⟨line, _, rfl⟩ := List.mem_map.mp member
  exact linePromotion_onGrid rules line

theorem orderDiscount_onGrid (rules : List PromotionRule) (manualDiscount : ℚ)
    (lines : List OrderLine) : OnGrid 100 (orderDiscount rules manualDiscount lines) :=
  (money_onGrid _).add (orderPromotion_onGrid rules _)

theorem orderFinal_onGrid (rules : List PromotionRule) (manualDiscount : ℚ)
    (lines : List OrderLine) : OnGrid 100 (orderFinal rules manualDiscount lines) :=
  (((subtotalOf_onGrid lines).sub (itemDiscountOf_onGrid lines)).sub
    (promotionOf_onGrid rules lines)).sub (orderDiscount_onGrid rules manualDiscount lines)

theorem cart_numbered (table : Table OrderLine) (lines : List OrderLine) :
    pushLines Cart.empty (table.numbered lines) =
      ⟨table.numbered lines, subtotalOf lines, itemDiscountOf lines⟩ := by
  have column (amount : OrderLine → ℚ) :
      (table.numbered lines).map (fun entry => amount entry.2) = lines.map amount := by
    calc
      (table.numbered lines).map (fun entry => amount entry.2) =
          ((table.numbered lines).map Prod.snd).map amount := by
        rw [List.map_map, Function.comp_def]
      _ = lines.map amount := by rw [Table.numbered_rows]
  simp only [pushLines, Cart.empty, column (fun line => line.lineSubtotal.value),
    column (fun line => line.itemDiscountAmount.value), List.nil_append, zero_add, subtotalOf,
    itemDiscountOf]

def promotionsOf (rules : List PromotionRule) (table : Table OrderLine) (lines : List OrderLine) :
    PromotionResult where
  orderDiscountAmount := orderPromotion rules (subtotalOf lines - itemDiscountOf lines)
  linePromoDiscounts := fun lineId => money (promotionAt rules (table.numbered lines) lineId)

theorem engine_ok (rules : List PromotionRule) (table : Table OrderLine) (lines : List OrderLine)
    (valid : ∀ rule ∈ rules, rule.Valid) (promo : PromotionResult) :
    PromotionEngine.apply rules (table.numbered lines)
        (money (subtotalOf lines - itemDiscountOf lines)) = .ok promo ↔
      (∀ rule ∈ rules, ¬ LimitExceeded rule (table.numbered lines)) ∧
        promo = promotionsOf rules table lines := by
  have base := money_of_onGrid _ ((subtotalOf_onGrid lines).sub (itemDiscountOf_onGrid lines))
  rw [apply_ok rules _ _ valid, base, money_of_onGrid _ (orderPromotion_onGrid rules _),
    promotionsOf]

theorem promotionsOf_line (rules : List PromotionRule) (table : Table OrderLine)
    (lines : List OrderLine) (entry : Nat × OrderLine) (member : entry ∈ table.numbered lines) :
    (promotionsOf rules table lines).linePromoDiscounts entry.1 = linePromotion rules entry.2 := by
  have atLine := promotionAt_line rules _ (Table.numbered_keys table lines) entry member
  simp only [promotionsOf, atLine]
  exact money_of_onGrid _ (linePromotion_onGrid rules entry.2)

theorem promotionTotal (rules : List PromotionRule) (table : Table OrderLine)
    (lines : List OrderLine) :
    money ((((table.numbered lines).map (discountedLine rules)).map
      (·.promotionDiscountAmount)).sum) = promotionOf rules lines := by
  have column : ((table.numbered lines).map (discountedLine rules)).map
      (·.promotionDiscountAmount) = lines.map (linePromotion rules) := by
    calc
      ((table.numbered lines).map (discountedLine rules)).map (·.promotionDiscountAmount) =
          ((table.numbered lines).map Prod.snd).map (linePromotion rules) := by
        simp [discountedLine, Function.comp_def]
      _ = lines.map (linePromotion rules) := by rw [Table.numbered_rows]
  rw [column]
  exact money_of_onGrid _ (promotionOf_onGrid rules lines)

theorem forall_numbered (table : Table OrderLine) (lines : List OrderLine)
    (holds : OrderLine → Prop) :
    (∀ entry ∈ table.numbered lines, holds entry.2) ↔ ∀ line ∈ lines, holds line := by
  have rows := Table.numbered_rows table lines
  constructor
  · intro all line member
    rw [← rows] at member
    obtain ⟨entry, inside, rfl⟩ := List.mem_map.mp member
    exact all entry inside
  · intro all entry member
    apply all
    rw [← rows]
    exact List.mem_map_of_mem member

theorem orderTotal (rules : List PromotionRule) (manualDiscount : ℚ) (manual : Amount)
    (table : Table OrderLine) (lines : List OrderLine) (known : manual.value = money manualDiscount) :
    money (manual.value + (promotionsOf rules table lines).orderDiscountAmount) =
      orderDiscount rules manualDiscount lines := by
  rw [known]
  exact money_of_onGrid _ (orderDiscount_onGrid rules manualDiscount lines)

theorem finalTotal (rules : List PromotionRule) (manualDiscount : ℚ) (lines : List OrderLine) :
    money (money (subtotalOf lines) - money (itemDiscountOf lines) - promotionOf rules lines -
        orderDiscount rules manualDiscount lines) = orderFinal rules manualDiscount lines := by
  rw [money_of_onGrid _ (subtotalOf_onGrid lines), money_of_onGrid _ (itemDiscountOf_onGrid lines)]
  exact money_of_onGrid _ (orderFinal_onGrid rules manualDiscount lines)

def pendingOrder (env : Env) (actor : User) (manualDiscount : Amount) : Order where
  orderNo := env.orderNo
  cashierUserId := actor.id
  status := .pending
  subtotalAmount := Amount.zero
  itemDiscountTotal := Amount.zero
  orderDiscountTotal := manualDiscount
  promotionDiscountTotal := Amount.zero
  finalAmount := Amount.zero
  paidAmount := Amount.zero
  createdAt := env.now
  settledAt := none
  voidedAt := none
  voidReason := none

/-- The products and quantities of the rows, all that a purchase limit looks at. -/
def quantities (lines : List OrderLine) : List (Nat × Int) :=
  lines.map (fun line => (line.productId, (line.quantity : Int)))

theorem totalQuantity_numbered (table : Table OrderLine) (lines : List OrderLine)
    (productId : Nat) :
    totalQuantity (table.numbered lines) productId = tally (quantities lines) productId := by
  have column : quantities lines =
      (table.numbered lines).map (fun entry => (entry.2.productId, (entry.2.quantity : Int))) := by
    calc
      quantities lines = quantities ((table.numbered lines).map Prod.snd) := by
        rw [Table.numbered_rows]
      _ = (table.numbered lines).map
            (fun entry => (entry.2.productId, (entry.2.quantity : Int))) := by
        rw [quantities, List.map_map, Function.comp_def]
  rw [column, tally, under, totalQuantity, List.filter_map, List.map_map]
  rfl

theorem limitExceeded_congr (rule : PromotionRule) (table table' : Table OrderLine)
    (lines lines' : List OrderLine)
    (same : tally (quantities lines') = tally (quantities lines)) :
    LimitExceeded rule (table'.numbered lines') ↔ LimitExceeded rule (table.numbered lines) := by
  unfold LimitExceeded
  simp only [totalQuantity_numbered, same]

theorem placeOrder_accepted (env : Env) (actor : User) (payload : OrderCreateRequest) (db db' : Db)
    (orderId : Nat) (valid : ∀ rule ∈ activeRules db, rule.Valid)
    (placed : placeOrder env actor payload db = .ok orderId db') :
    ∃ lines finals order, Accepted db env payload lines ∧
      List.Forall₂ (Discounted (activeRules db)) lines finals ∧
      Totalled env actor payload (activeRules db) lines order ∧
      orderId = db.orders.nextKey ∧ db'.orders = db.orders.insert order ∧
      db'.orderLines = db.orderLines.insertAll finals := by
  simp only [placeOrder, bind_ok, get_ok, attempt_ok, raiseIf_ok, not_lt, updateOrder_eq,
    writeAuditLog_eq, pure_ok, EStateM.Result.ok.injEq, and_assoc, exists_and_left,
    exists_eq_left', insertOrder_ok_iff, addLines_ok, moneyOf_stated] at placed
  obtain ⟨stated, manual, isManual, orderNo, _, _, ⟨lines, priced, rfl, rfl⟩, placed⟩ := placed
  rw [cart_numbered] at placed
  obtain ⟨promo, engine, outputs, discounts, covered, _, subtotal, isSubtotal, item, isItem, order,
    isOrder, promotion, isPromotion, final, isFinal, _, _, _, between, flushed, _, rfl, _, rfl⟩ :=
    placed
  have rules : activeRules { db with
      orders := db.orders.insert (pendingOrder env actor manual)
      orderLines := db.orderLines.insertAll lines } = activeRules db := rfl
  obtain ⟨limits, rfl⟩ := (engine_ok (activeRules db) db.orderLines lines valid promo).mp
    (rules ▸ engine)
  obtain ⟨linesCovered, rfl⟩ := (discountLines_ok (activeRules db) _ _ outputs
    (promotionsOf_line (activeRules db) db.orderLines lines)).mp discounts
  obtain ⟨finals, stored, rfl⟩ := (flushLines_ok (activeRules db) db.orderLines lines _ _ _ rfl).mp
    flushed
  rw [Amount.store_ok] at isManual isSubtotal isItem isOrder isPromotion isFinal
  have manualValue : manual.value = money (statedDiscount payload) := by
    rw [isManual.1, money_money]
  rw [orderTotal (activeRules db) (statedDiscount payload) manual db.orderLines lines manualValue]
    at isOrder covered isFinal
  rw [promotionTotal] at isPromotion covered isFinal
  rw [finalTotal] at covered isFinal
  have subtotalValue : subtotal.value = subtotalOf lines := by
    rw [isSubtotal.1, money_money]
    exact money_of_onGrid _ (subtotalOf_onGrid lines)
  refine ⟨lines, finals, { pendingOrder env actor manual with
      subtotalAmount := subtotal
      itemDiscountTotal := item
      orderDiscountTotal := order
      promotionDiscountTotal := promotion
      finalAmount := final }, ⟨stated, orderNo, priced, limits, ?_, covered, ?_⟩, stored,
    ⟨⟨rfl, rfl, rfl, rfl⟩, subtotalValue, ?_, ?_, ?_, ?_, rfl⟩, rfl, ?_, rfl⟩
  · exact (forall_numbered db.orderLines lines _).mp linesCovered
  · rw [← subtotalValue]
    exact (abs_lt.mp subtotal.fits).2
  · rw [isItem.1, money_money]
    exact money_of_onGrid _ (itemDiscountOf_onGrid lines)
  · rw [isPromotion.1]
    exact money_of_onGrid _ (promotionOf_onGrid _ lines)
  · rw [isOrder.1]
    exact money_of_onGrid _ (orderDiscount_onGrid _ _ lines)
  · rw [isFinal.1]
    exact money_of_onGrid _ (orderFinal_onGrid _ _ lines)
  · rw [Table.insert_modify_nextKey, Order.flush_loaded]
    rfl

theorem priced_nonneg (find : String → Except Raised (Nat × Product)) (orderId : Nat)
    (inputLine : OrderLineCreateRequest) (line : OrderLine)
    (priced : Priced find orderId inputLine line) :
    0 ≤ line.itemDiscountAmount.value ∧ 0 ≤ line.unitPrice.value := by
  have discount : 0 ≤ line.itemDiscountAmount.value := by
    obtain ⟨asked, stated, is⟩ := Option.map_eq_some_iff.mp priced.itemDiscount
    rw [← is]
    exact money_nonneg asked (inputLine.discountNonneg asked stated)
  have subtotal : 0 ≤ line.unitPrice.value * line.quantity := by
    rw [← priced.subtotal]
    exact discount.trans priced.covered
  have quantity : (0 : ℚ) < line.quantity := by
    rw [priced.quantity]
    exact_mod_cast inputLine.quantityBounds.1
  exact ⟨discount, (mul_nonneg_iff_of_pos_right quantity).mp subtotal⟩

/-- Nothing an accepted order is made of is negative. -/
structure Bounded (db : Db) (manualDiscount : ℚ) (lines : List OrderLine) : Prop where
  items : ∀ line ∈ lines, 0 ≤ line.itemDiscountAmount.value
  unitPrices : ∀ line ∈ lines, 0 ≤ line.unitPrice.value
  promotions : ∀ line ∈ lines, 0 ≤ linePromotion (activeRules db) line
  itemDiscount : 0 ≤ itemDiscountOf lines
  promotion : 0 ≤ promotionOf (activeRules db) lines
  manual : 0 ≤ money manualDiscount
  order : 0 ≤ orderPromotion (activeRules db) (subtotalOf lines - itemDiscountOf lines)

theorem priced_bounded (db : Db) (env : Env) (orderId : Nat) (payload : OrderCreateRequest)
    (lines : List OrderLine) (valid : ∀ rule ∈ activeRules db, rule.Valid)
    (priced : List.Forall₂ (Priced (catalogue db env) orderId) payload.lines lines) :
    Bounded db (statedDiscount payload) lines := by
  have each (line : OrderLine) (member : line ∈ lines) :
      0 ≤ line.itemDiscountAmount.value ∧ 0 ≤ line.unitPrice.value := by
    obtain ⟨inputLine, _, isPriced⟩ := related_origin _ _ _ priced line member
    exact priced_nonneg _ orderId inputLine line isPriced
  have promotions (line : OrderLine) (member : line ∈ lines) :
      0 ≤ linePromotion (activeRules db) line :=
    linePromotion_nonneg (activeRules db) valid line (each line member).2
  constructor
  · exact fun line member => (each line member).1
  · exact fun line member => (each line member).2
  · exact promotions
  · apply List.sum_nonneg
    intro amount member
    obtain ⟨line, inside, rfl⟩ := List.mem_map.mp member
    exact (each line inside).1
  · apply List.sum_nonneg
    intro amount member
    obtain ⟨line, inside, rfl⟩ := List.mem_map.mp member
    exact promotions line inside
  · exact money_nonneg _ (statedDiscount_nonneg payload)
  · exact orderPromotion_nonneg (activeRules db) valid _

theorem discounted_exists (rules : List PromotionRule) (line : OrderLine)
    (item : 0 ≤ line.itemDiscountAmount.value) (promotion : 0 ≤ linePromotion rules line)
    (covered : 0 ≤ lineFinal rules line) : ∃ final, Discounted rules line final := by
  have small := (abs_lt.mp line.lineSubtotal.fits).2
  have split : lineFinal rules line =
      line.lineSubtotal.value - line.itemDiscountAmount.value - linePromotion rules line := rfl
  obtain ⟨stored, isPromotion⟩ := Amount.exists_value (linePromotion rules line)
    (linePromotion_onGrid rules line) promotion (by linarith)
  obtain ⟨final, isFinal⟩ := Amount.exists_value (lineFinal rules line)
    (lineFinal_onGrid rules line) covered (by linarith)
  exact ⟨{ line with promotionDiscountAmount := stored, finalLineAmount := final }, rfl,
    isPromotion, isFinal⟩

theorem totals_exist (env : Env) (actor : User) (payload : OrderCreateRequest) (db : Db)
    (lines : List OrderLine) (valid : ∀ rule ∈ activeRules db, rule.Valid)
    (accepted : Accepted db env payload lines) :
    ∃ manual : Amount, manual.value = money (statedDiscount payload) ∧
      ∃ order, Totalled env actor payload (activeRules db) lines order := by
  obtain ⟨_, _, _, itemNonneg, promotionNonneg, manualNonneg, engineNonneg⟩ :=
    priced_bounded db env _ payload lines valid accepted.priced
  have covered := accepted.orderCovered
  have fits := accepted.fits
  have whole : orderFinal (activeRules db) (statedDiscount payload) lines =
      subtotalOf lines - itemDiscountOf lines - promotionOf (activeRules db) lines -
        orderDiscount (activeRules db) (statedDiscount payload) lines := rfl
  have discount : orderDiscount (activeRules db) (statedDiscount payload) lines =
      money (statedDiscount payload) +
        orderPromotion (activeRules db) (subtotalOf lines - itemDiscountOf lines) := rfl
  obtain ⟨manual, isManual⟩ := Amount.exists_value _ (money_onGrid (statedDiscount payload))
    manualNonneg (by linarith)
  obtain ⟨subtotal, isSubtotal⟩ := Amount.exists_value _ (subtotalOf_onGrid lines) (by linarith) fits
  obtain ⟨item, isItem⟩ := Amount.exists_value _ (itemDiscountOf_onGrid lines) itemNonneg
    (by linarith)
  obtain ⟨order, isOrder⟩ := Amount.exists_value _
    (orderDiscount_onGrid (activeRules db) (statedDiscount payload) lines) (by linarith)
    (by linarith)
  obtain ⟨promotion, isPromotion⟩ := Amount.exists_value _
    (promotionOf_onGrid (activeRules db) lines) promotionNonneg (by linarith)
  obtain ⟨final, isFinal⟩ := Amount.exists_value _
    (orderFinal_onGrid (activeRules db) (statedDiscount payload) lines) covered (by linarith)
  exact ⟨manual, isManual, { pendingOrder env actor manual with
    subtotalAmount := subtotal
    itemDiscountTotal := item
    orderDiscountTotal := order
    promotionDiscountTotal := promotion
    finalAmount := final }, ⟨rfl, rfl, rfl, rfl⟩, isSubtotal, isItem, isPromotion, isOrder, isFinal,
    rfl⟩

theorem placeOrder_accepts (env : Env) (actor : User) (payload : OrderCreateRequest) (db : Db)
    (lines : List OrderLine) (valid : ∀ rule ∈ activeRules db, rule.Valid)
    (accepted : Accepted db env payload lines) :
    ∃ orderId db', placeOrder env actor payload db = .ok orderId db' := by
  have bounded := priced_bounded db env _ payload lines valid accepted.priced
  obtain ⟨manual, isManual, order, totalled⟩ :=
    totals_exist env actor payload db lines valid accepted
  obtain ⟨finals, stored⟩ := exists_related (Discounted (activeRules db)) lines
    (fun line member => discounted_exists _ line (bounded.items line member)
      (bounded.promotions line member) (accepted.linesCovered line member))
  simp only [placeOrder, bind_ok, get_ok, attempt_ok, raiseIf_ok, not_lt, updateOrder_eq,
    writeAuditLog_eq, pure_ok, EStateM.Result.ok.injEq, and_assoc, exists_and_left,
    exists_eq_left', insertOrder_ok_iff, addLines_ok, moneyOf_stated]
  have storedManual : Amount.store "order_discount_total" (money (statedDiscount payload)) =
      .ok manual := by rw [← isManual, Amount.store_value]
  refine ⟨accepted.stated, db.orders.nextKey, ?_⟩
  apply Exists.intro
  refine ⟨manual, storedManual, accepted.orderNo, _, _, ⟨lines, accepted.priced, rfl, rfl⟩, ?_⟩
  rw [cart_numbered]
  refine ⟨promotionsOf (activeRules db) db.orderLines lines, (engine_ok (activeRules db) _ _ valid
    _).mpr ⟨accepted.limits, rfl⟩, _, (discountLines_ok (activeRules db) _ _ _
      (promotionsOf_line (activeRules db) db.orderLines lines)).mpr ⟨?_, rfl⟩, ?_⟩
  · exact (forall_numbered db.orderLines lines _).mpr accepted.linesCovered
  rw [orderTotal _ _ _ _ _ isManual, promotionTotal, finalTotal,
    money_of_onGrid _ (subtotalOf_onGrid lines), money_of_onGrid _ (itemDiscountOf_onGrid lines),
    ← totalled.subtotal, ← totalled.itemDiscount, ← totalled.orderDiscount, ← totalled.promotion,
    ← totalled.final]
  simp only [Amount.store_value]
  refine ⟨?_, (), _, rfl, _, rfl, _, rfl, _, rfl, _, rfl, trivial, (), (), _,
    (flushLines_ok (activeRules db) db.orderLines lines _ _ _ rfl).mpr ⟨finals, stored, rfl⟩,
    trivial, trivial, (), rfl⟩
  rw [totalled.final]
  exact accepted.orderCovered

/-- What `create_order` has written when it returns: `lines` are the priced rows and `finals`
the rows as they are stored. -/
structure Sold (env : Env) (actor : User) (payload : OrderCreateRequest) (db db' : Db)
    (response : OrderResponse) (lines finals : List OrderLine) (order : Order) : Prop where
  accepted : Accepted db env payload lines
  discounted : List.Forall₂ (Discounted (activeRules db)) lines finals
  totalled : Totalled env actor payload (activeRules db) lines order
  orders : db'.orders = db.orders.insert order
  orderLines : db'.orderLines = db.orderLines.insertAll finals
  response : response = toOrderResponse db' env db.orders.nextKey order

theorem createOrder_sold (env : Env) (actor : User) (payload : OrderCreateRequest) (db db' : Db)
    (response : OrderResponse) (valid : ∀ rule ∈ activeRules db, rule.Valid)
    (created : createOrder env actor payload db = .ok response db') :
    ∃ lines finals order, Sold env actor payload db db' response lines finals order := by
  simp only [createOrder, bind_ok, get_ok, attempt_ok, transactional_ok] at created
  obtain ⟨_, _, ⟨_, rfl⟩, orderId, _, committed, _, _, ⟨rfl, rfl⟩, answered⟩ := created
  obtain ⟨lines, finals, order, accepted, discounted, totalled, rfl, orders, orderLines⟩ :=
    placeOrder_accepted env actor payload db _ orderId valid committed
  rw [orders, Table.get?_insert_self] at answered
  obtain ⟨rfl, rfl⟩ := (pure_ok _ _ _ _).mp answered
  exact ⟨lines, finals, order, accepted, discounted, totalled, orders, orderLines, rfl⟩

theorem createOrder_accepts (env : Env) (actor : User) (payload : OrderCreateRequest) (db : Db)
    (lines : List OrderLine) (valid : ∀ rule ∈ activeRules db, rule.Valid)
    (accepted : Accepted db env payload lines) :
    ∃ response db', createOrder env actor payload db = .ok response db' := by
  obtain ⟨orderId, between, committed⟩ :=
    placeOrder_accepts env actor payload db lines valid accepted
  obtain ⟨_, _, order, _, _, _, rfl, orders, _⟩ :=
    placeOrder_accepted env actor payload db between orderId valid committed
  refine ⟨toOrderResponse between env db.orders.nextKey order, between, ?_⟩
  simp only [createOrder, bind_ok, get_ok, attempt_ok, transactional_ok, raiseIf_ok]
  refine ⟨(), db, ⟨payload.someLine, rfl⟩, _, between, committed, between, between, ⟨rfl, rfl⟩, ?_⟩
  rw [orders, Table.get?_insert_self]
  rfl

end Pricing

end RetailApp
