import RetailApp.Ledger.Refunds
import RetailApp.Ledger.SplitSettlement
import RetailApp.Services.ShopEndpoints
import RetailApp.Shop.Statements

/-! How the calls that move money fail. In the states of a shop nothing stops them but their checks
and, after these, texts that are too long for their columns. This is said of requests that the
decimal context and the database can represent: beyond them `quantize` or the driver raises, at a
point that the model does not have. -/

namespace RetailApp.Answers

open FixedPoint Transaction Ledger

def textFits (column : String) (width : Nat) (text : Option String) : Except Raised Unit :=
  (nullableVarchar column width text).map (fun _ => ())

def lineFits (line : NormalizedLine) : Except Raised Unit := do
  textFits "offline_approval_code" 64 (storedApproval line.offlineApprovalCode)
  textFits "external_reference" 128 line.externalReference

def settleVerdict (payload : PaymentSettleRequest) (db : Db) : Except Raised Unit := do
  let plan ← settleChecks db payload
  plan.lines.forM lineFits

def returnVerdict (env : Env) (payload : ReturnRequest) (db : Db) : Except Raised Unit := do
  let _ ← returnChecks env payload db
  textFits "reason" 255 payload.reason

def exchangeVerdict (env : Env) (payload : ExchangeRequest) (db : Db) : Except Raised Unit := do
  exchangeChecks env payload db
  textFits "note" 255 payload.note

/-- A repeated request stores nothing, so nothing has to fit. -/
def refundVerdict (env : Env) (payload : ReverseSettlementRequest) (db : Db) :
    Except Raised Unit := do
  match ← refundChecks env payload db with
  | .inl _ => return ()
  | .inr _ => textFits "reason" 255 payload.reason

/-- `quantize` brings the amount to cents within the 28 digits of the decimal context. -/
def Quantizes (amount : ℚ) : Prop := |money amount| < 10 ^ 26

def KeyHeld (key : Nat) : Prop := key < 2 ^ 31

/-- PostgreSQL holds any text but one with a NUL. -/
def TextHeld (text : Option String) : Prop := ∀ given ∈ text, Char.ofNat 0 ∉ given.toList

structure SettleHeld (payload : PaymentSettleRequest) : Prop where
  orderId : KeyHeld payload.orderId
  amounts : ∀ line ∈ payload.payments, Quantizes line.amount
  total : Quantizes (payload.payments.map (fun line => money line.amount)).sum
  texts : ∀ line ∈ payload.payments,
    TextHeld line.offlineApprovalCode ∧ TextHeld line.externalReference

structure ReturnHeld (payload : ReturnRequest) : Prop where
  orderId : KeyHeld payload.originalOrderId
  amount : Quantizes payload.refundAmount
  reason : TextHeld payload.reason

structure ExchangeHeld (payload : ExchangeRequest) : Prop where
  orderId : KeyHeld payload.originalOrderId
  note : TextHeld payload.note

structure RefundHeld (payload : ReverseSettlementRequest) : Prop where
  orderId : KeyHeld payload.originalOrderId
  amount : Quantizes payload.refundAmount
  key : TextHeld (some payload.idempotencyKey)
  reason : TextHeld payload.reason

def Refusal (raised : Raised) : Prop := (errorResponse raised).statusCode ≠ 500

theorem store_fits (column : String) (given : ℚ) (fits : |money given| < 10 ^ 10) :
    Amount.store column given = .ok ⟨money given, money_onGrid given, fits⟩ :=
  (Amount.store_ok _ _ _).mpr ⟨rfl, fits⟩

section Settlement

variable (env : Env) (actor : User)

theorem toPaymentRecord_fits (orderId : Nat) (line : NormalizedLine) (amount : Amount)
    (stored : Amount.store "amount" line.amount = .ok amount) :
    (toPaymentRecord env actor orderId line).map (fun _ => ()) = lineFits line := by
  rw [toPaymentRecord, stored, lineFits, textFits, textFits]
  cases nullableVarchar "offline_approval_code" 64 (storedApproval line.offlineApprovalCode) with
  | error raised => rfl
  | ok approval => cases nullableVarchar "external_reference" 128 line.externalReference <;> rfl

theorem recordPayments_verdict (orderId : Nat) (lines : List NormalizedLine)
    (stored : ∀ line ∈ lines, ∃ amount, Amount.store "amount" line.amount = .ok amount) (db : Db) :
    verdict (recordPayments env actor orderId lines) db = lines.forM lineFits := by
  induction lines generalizing db with
  | nil => rfl
  | cons line rest ih =>
      obtain ⟨⟨amount, first⟩, others⟩ := List.forall_mem_cons.mp stored
      have both : (line :: rest).forM lineFits = lineFits line >>= fun _ => rest.forM lineFits := rfl
      have unmapped : (toPaymentRecord env actor orderId line).map (fun _ => ()) >>=
          (fun _ => rest.forM lineFits) =
            toPaymentRecord env actor orderId line >>= fun _ => rest.forM lineFits :=
        bind_map_left _ _ _
      rw [recordPayments, verdict_attempt, both,
        ← toPaymentRecord_fits env actor orderId line amount first, unmapped]
      refine bind_except_congr _ _ _ (fun record _ => ?_)
      have inserted := ih others { db with paymentRecords := db.paymentRecords.insert record }
      rw [← inserted]
      exact verdict_answer _ _ _

theorem settleCommit_verdict (db : Db) (payload : PaymentSettleRequest) (plan : SettlePlan)
    (checked : plan.Checked db payload) (nonneg : 0 ≤ plan.order.paidAmount.value)
    (lines : ∀ line ∈ plan.lines, 0 < line.amount) :
    verdict (settleCommit env actor plan) db = plan.lines.forM lineFits := by
  have covered := checked.covered
  rw [remaining_exact] at covered
  have stored (line : NormalizedLine) (member : line ∈ plan.lines) :
      ∃ amount, Amount.store "amount" line.amount = .ok amount := by
    have part : line.amount ≤ plan.linesTotal := by
      rw [checked.total]
      refine List.single_le_sum (fun amount inside => ?_) _ (List.mem_map_of_mem member)
      obtain ⟨other, given, rfl⟩ := List.mem_map.mp inside
      exact (lines other given).le
    have fits : |money line.amount| < 10 ^ 10 := by
      rw [money_of_onGrid _ (checked.cents line member)]
      exact amount_fits plan.order _ (lines line member).le (by linarith)
    exact ⟨_, store_fits "amount" line.amount fits⟩
  have paid : ∃ paidAmount, Amount.store "paid_amount"
      (money (plan.order.paidAmount.value + plan.linesTotal)) = .ok paidAmount := by
    have grid : OnGrid 100 plan.linesTotal := by
      rw [checked.total]
      apply OnGrid.sum
      intro amount inside
      obtain ⟨line, member, rfl⟩ := List.mem_map.mp inside
      exact checked.cents line member
    have positive := checked.positive
    have fits : |money (money (plan.order.paidAmount.value + plan.linesTotal))| < 10 ^ 10 := by
      rw [money_money, money_of_onGrid _ (plan.order.paidAmount.cents.add grid)]
      exact amount_fits plan.order _ (by linarith) (by linarith)
    exact ⟨_, store_fits "paid_amount" _ fits⟩
  obtain ⟨paidAmount, isPaid⟩ := paid
  have recorded := recordPayments_verdict env actor plan.orderId plan.lines stored db
  rw [← recorded]
  cases outcome : recordPayments env actor plan.orderId plan.lines db with
  | error raised written =>
      simp [verdict, reply, settleCommit, transactional, settleWrites, run_bind, outcome]
      rfl
  | ok created written =>
      obtain ⟨records, made, _⟩ := (recordPayments_ok env actor _ _ db written created).mp outcome
      have loaded : db.orders.get? plan.orderId = some plan.order := by
        rw [checked.target]
        exact checked.loaded
      have committed := (settleCommit_ok env actor plan db _ _).mpr
        ⟨records, paidAmount, plan.order, ⟨made, isPaid⟩, loaded, rfl, rfl⟩
      rw [verdict_ok _ _ _ _ committed, verdict_ok _ _ _ _ outcome]

theorem settleOrder_verdict (payload : PaymentSettleRequest) (db : Db) (books : Books db) :
    verdict (settleOrder env actor payload) db = settleVerdict payload db := by
  refine (verdict_checked (fun db => settleChecks db payload) (settleCommit env actor) db).trans ?_
  refine bind_except_congr _ _ _ (fun plan passed => ?_)
  have checked := settleChecks_ok db payload plan passed
  have nonneg := (books.orders _ plan.order checked.loaded).reconciled.nonneg
  refine settleCommit_verdict env actor db payload plan checked nonneg (fun line member => ?_)
  obtain ⟨order, lines, _, _, _, normalized, _, rfl⟩ :=
    (settleChecks_iff db payload plan).mp passed
  obtain ⟨given, _, gave⟩ := mapM_except_origin normalizeLine _ lines normalized line member
  exact (normalizeLine_ok given line gave).2

end Settlement

section AfterSales

variable (env : Env) (actor : User)

theorem createReturn_verdict (payload : ReturnRequest) (db : Db) (books : Books db) :
    verdict (createReturn env actor payload) db = returnVerdict env payload db := by
  refine (verdict_checked (returnChecks env payload) (returnCommit env actor payload) db).trans ?_
  refine bind_except_congr _ _ _ (fun refundAmount passed => ?_)
  obtain ⟨rfl, order, allowed⟩ := (returnChecks_ok env payload db refundAmount).mp passed
  have fits : |money (money payload.refundAmount)| < 10 ^ 10 := by
    have past := (books.orders _ order allowed.loaded).sound.refunded
    have ceiling := allowed.ceiling
    rw [totalRefunded_refunded] at ceiling
    rw [money_money]
    exact amount_fits order _ (money_nonneg _ payload.positive.le)
      ((le_add_of_nonneg_left past).trans ceiling)
  rw [returnCommit, verdict_answer, verdict_transactional, verdict_attempt, bind_except_done]
  · rw [toReturnRecord, store_fits _ _ fits, store_fits _ _ fits, textFits]
    cases nullableVarchar "reason" 255 payload.reason <;> rfl
  · intro record made
    have keyless := (toReturnRecord_ok env actor payload _ record made).2.2.2.2.1
    exact verdict_ok _ _ _ _ ((recordAfterSales_ok _ _ _ _ _ _ _).mpr
      ⟨by rw [keyless]; rfl, rfl, rfl⟩)

theorem createExchange_verdict (payload : ExchangeRequest) (db : Db) :
    verdict (createExchange env actor payload) db = exchangeVerdict env payload db := by
  refine (verdict_checked (exchangeChecks env payload)
    (fun _ => exchangeCommit env actor payload) db).trans ?_
  refine bind_except_congr _ _ _ (fun _ _ => ?_)
  rw [exchangeCommit, verdict_answer, verdict_transactional, verdict_attempt, bind_except_done]
  · rw [toExchangeRecord, textFits]
    cases nullableVarchar "note" 255 payload.note <;> rfl
  · intro record made
    have keyless := (toExchangeRecord_ok env actor payload record made).2.2
    exact verdict_ok _ _ _ _ ((recordAfterSales_ok _ _ _ _ _ _ _).mpr
      ⟨by rw [keyless]; rfl, rfl, rfl⟩)

/-- Only refunds carry keys, so a key that is taken is found again. -/
def KeyedRefunds (db : Db) : Prop :=
  ∀ record ∈ db.afterSalesOrders.rows, record.idempotencyKey.isSome = true →
    record.afterSalesType = .refund

theorem change_keyed (db db' : Db) (call : Ledger.Call) (change : Change db db' call)
    (keyed : KeyedRefunds db) : KeyedRefunds db' := by
  have inserted (record : AfterSalesOrder)
      (fits : record.idempotencyKey.isSome = true → record.afterSalesType = .refund)
      (afterSales : db'.afterSalesOrders = db.afterSalesOrders.insert record) :
      KeyedRefunds db' := by
    rw [KeyedRefunds, afterSales, Table.forall_rows_insert]
    exact ⟨keyed, fits⟩
  cases change with
  | unchanged call same =>
      have afterSales : db'.afterSalesOrders = db.afterSalesOrders := congrArg (·.2.2) same
      exact fun record member => keyed record (afterSales ▸ member)
  | placed env actor payload orderId order change =>
      exact fun record member => keyed record (change.afterSales ▸ member)
  | settled env actor payload order records paidAmount change =>
      exact fun record member => keyed record (change.afterSales ▸ member)
  | returned env actor payload order record change =>
      refine inserted record ?_ change.filed.afterSales
      simp [change.keyless]
  | exchanged env actor payload order record change =>
      refine inserted record ?_ change.filed.afterSales
      simp [change.keyless]
  | refunded env actor payload order record paidAmount change =>
      exact inserted record (fun _ => change.kind) change.afterSales
  | swept env change => exact fun record member => keyed record (change.afterSales ▸ member)

theorem run_keyed (calls : List Shop.Call) : KeyedRefunds (Shop.run calls) := by
  have each (db : Db) (call : Shop.Call) (before : Shop.Kept db ∧ KeyedRefunds db) :
      Shop.Kept (Shop.step db call) ∧ KeyedRefunds (Shop.step db call) := by
    obtain ⟨kept, keyed⟩ := before
    refine ⟨Shop.step_kept db call kept, ?_⟩
    have unfiled (db' : Db) (same : Shop.recordTables db' = Shop.recordTables db) :
        KeyedRefunds db' := by
      have afterSales : db'.afterSalesOrders = db.afterSalesOrders := congrArg (·.2.2.2) same
      exact fun record member => keyed record (afterSales ▸ member)
    cases call with
    | catalogue call => exact unfiled _ (Shop.catalogue_records db call).1
    | createPromotionRule payload =>
        exact unfiled _ (Shop.createPromotionRule_records db payload kept.rules).1
    | ledger call => exact change_keyed db _ call (step_change db call) keyed
  have first : KeyedRefunds (Db.start Table.empty Table.empty) := by
    intro record member
    cases member
  exact (Runs.run_preserves Shop.step _ each _ calls ⟨Shop.start_kept, first⟩).2

theorem key_free (db : Db) (keyed : KeyedRefunds db) (idempotencyKey : String)
    (missing : refundByKey db idempotencyKey = none) :
    keyTaken db (some idempotencyKey) = false := by
  rw [keyTaken, Option.isSome_some, Bool.true_and, List.any_eq_false]
  intro record member taken
  obtain ⟨key, present⟩ := (Table.mem_rows _ record).mp member
  have listed := (Table.mem_entries _ key record).mpr present
  have same := beq_iff_eq.mp taken
  have kind := keyed record member (by rw [same]; rfl)
  refine List.find?_eq_none.mp missing (key, record) listed ?_
  simp [same, kind]

theorem toRefundRecord_fits (payload : ReverseSettlementRequest) (order : Order)
    (positive : 0 < money payload.refundAmount)
    (within : money payload.refundAmount ≤ order.finalAmount.value) :
    (toRefundRecord env actor payload (money payload.refundAmount)).map (fun _ => ()) =
      textFits "reason" 255 payload.reason := by
  have fits : |money (money payload.refundAmount)| < 10 ^ 10 := by
    rw [money_money]
    exact amount_fits order _ positive.le within
  rw [toRefundRecord, store_fits _ _ fits, store_fits _ _ fits, textFits]
  cases nullableVarchar "reason" 255 payload.reason <;> rfl

theorem reverseSettlementRefund_verdict (payload : ReverseSettlementRequest) (db : Db)
    (books : Books db) (keyed : KeyedRefunds db) :
    verdict (reverseSettlementRefund env actor payload) db = refundVerdict env payload db := by
  refine (verdict_checked (refundChecks env payload) (refundFinish env actor payload) db).trans ?_
  refine bind_except_congr _ _ _ (fun answer passed => ?_)
  cases answer with
  | inl existing => rfl
  | inr plan =>
      obtain ⟨order, allowed, looked⟩ := (refundChecks_ok env payload db _).mp passed
      obtain ⟨missing, rfl⟩ := (refundLookup_inr payload order _ plan).mp looked
      have free := key_free db keyed payload.idempotencyKey missing
      have held := allowed.held.trans (books.orders _ order allowed.loaded).reconciled.covered
      have record_fits := toRefundRecord_fits env actor payload order allowed.positive held
      rw [refundFinish, refundCommit, verdict_answer, verdict_transactional]
      cases made : toRefundRecord env actor payload (money payload.refundAmount) with
      | error raised =>
          rw [made] at record_fits
          rw [refundWrites, verdict_attempt, made]
          exact record_fits
      | ok record =>
          rw [made] at record_fits
          have reason := (toRefundRecord_ok env actor payload _ record made).2.2.2.2.2.2
          obtain ⟨other, paidAmount, stores⟩ :=
            (refund_stores_iff env actor payload db order books allowed).mpr reason
          have wrote := (refundWrites_ok env actor payload _ db _ _).mpr
            ⟨other, paidAmount, stores, free, rfl, rfl⟩
          rw [verdict_ok _ _ _ _ wrote]
          exact record_fits

end AfterSales

section Refusals

theorem refusal_validation (message : String) : Refusal (.validation message) := by
  simp [Refusal, errorResponse]

theorem refusal_conflict (message : String) : Refusal (.conflict message) := by
  simp [Refusal, errorResponse]

theorem refusal_notFound (message : String) : Refusal (.notFound message) := by
  simp [Refusal, errorResponse]

theorem refusal_security (message : String) : Refusal (.security message) := by
  simp [Refusal, errorResponse]

theorem normalizeLine_refuses (line : PaymentLineRequest) : FailsOnly Refusal (normalizeLine line) := by
  have method : FailsOnly Refusal (validateMethod line.method) := by
    unfold validateMethod
    intro raised failed
    split at failed
    · cases failed
    · split at failed
      · cases failed
      · split at failed
        · cases failed
        · cases failed
          exact refusal_validation _
  refine failsOnly_bind _ _ _ method (fun method => ?_)
  refine failsOnly_bind _ _ _ (failsOnly_raiseIf _ _ _ (refusal_validation _)) (fun _ => ?_)
  refine failsOnly_bind _ _ _ (failsOnly_raiseIf _ _ _ (refusal_validation _)) (fun _ => ?_)
  exact failsOnly_ok _ _

theorem settleChecks_refuses (db : Db) (payload : PaymentSettleRequest) :
    FailsOnly Refusal (settleChecks db payload) := by
  refine failsOnly_bind _ _ _ (failsOnly_orRaise _ _ _ (refusal_notFound _)) (fun order => ?_)
  refine failsOnly_bind _ _ _ (failsOnly_raiseIf _ _ _ (refusal_security _)) (fun _ => ?_)
  refine failsOnly_bind _ _ _ (failsOnly_raiseIf _ _ _ (refusal_conflict _)) (fun _ => ?_)
  refine failsOnly_bind _ _ _ (failsOnly_raiseIf _ _ _ (refusal_validation _)) (fun _ => ?_)
  refine failsOnly_bind _ _ _ (failsOnly_raiseIf _ _ _ (refusal_conflict _)) (fun _ => ?_)
  refine failsOnly_bind _ _ _ (failsOnly_mapM _ _ _ normalizeLine_refuses) (fun lines => ?_)
  refine failsOnly_bind _ _ _ (failsOnly_raiseIf _ _ _ (refusal_validation _)) (fun _ => ?_)
  exact failsOnly_ok _ _

theorem getOriginalOrder_refuses (db : Db) (orderId : Nat) :
    FailsOnly Refusal (getOriginalOrder db orderId) := by
  refine failsOnly_bind _ _ _ (failsOnly_orRaise _ _ _ (refusal_notFound _)) (fun order => ?_)
  refine failsOnly_bind _ _ _ (failsOnly_raiseIf _ _ _ (refusal_validation _)) (fun _ => ?_)
  exact failsOnly_ok _ _

theorem returnChecks_refuses (env : Env) (payload : ReturnRequest) (db : Db) :
    FailsOnly Refusal (returnChecks env payload db) := by
  refine failsOnly_bind _ _ _ (getOriginalOrder_refuses db _) (fun order => ?_)
  refine failsOnly_bind _ _ _ (failsOnly_raiseIf _ _ _ (refusal_validation _)) (fun _ => ?_)
  refine failsOnly_bind _ _ _ (failsOnly_raiseIf _ _ _ (refusal_validation _)) (fun _ => ?_)
  exact failsOnly_ok _ _

theorem exchangeChecks_refuses (env : Env) (payload : ExchangeRequest) (db : Db) :
    FailsOnly Refusal (exchangeChecks env payload db) :=
  failsOnly_bind _ _ _ (getOriginalOrder_refuses db _)
    (fun _ => failsOnly_raiseIf _ _ _ (refusal_validation _))

theorem refundChecks_refuses (env : Env) (payload : ReverseSettlementRequest) (db : Db) :
    FailsOnly Refusal (refundChecks env payload db) := by
  refine failsOnly_bind _ _ _ (getOriginalOrder_refuses db _) (fun order => ?_)
  refine failsOnly_bind _ _ _ (failsOnly_raiseIf _ _ _ (refusal_validation _)) (fun _ => ?_)
  refine failsOnly_bind _ _ _ (failsOnly_raiseIf _ _ _ (refusal_validation _)) (fun _ => ?_)
  refine failsOnly_bind _ _ _ (failsOnly_raiseIf _ _ _ (refusal_validation _)) (fun _ => ?_)
  refine failsOnly_bind _ _ _ (failsOnly_raiseIf _ _ _ (refusal_validation _)) (fun _ => ?_)
  refine failsOnly_bind _ _ _ (failsOnly_raiseIf _ _ _ (refusal_validation _)) (fun _ => ?_)
  cases refundByKey db payload.idempotencyKey with
  | none => exact failsOnly_ok _ _
  | some existing =>
      refine failsOnly_bind _ _ _ (failsOnly_raiseIf _ _ _ (refusal_conflict _)) (fun _ => ?_)
      exact failsOnly_ok _ _

end Refusals

/-- A text that a request leaves unbounded and a column does not. -/
def Overlong (raised : Raised) : Prop :=
  raised ∈ [.dataError "offline_approval_code", .dataError "external_reference",
    .dataError "reason", .dataError "note"]

def Clean (raised : Raised) : Prop := Refusal raised ∨ Overlong raised

theorem textFits_clean (column : String) (width : Nat) (text : Option String)
    (listed : Overlong (.dataError column)) : FailsOnly Clean (textFits column width text) := by
  intro raised failed
  right
  cases text with
  | none => cases failed
  | some text =>
      rw [textFits, nullableVarchar, varchar] at failed
      split at failed
      · cases failed
      · split at failed
        · cases failed
        · cases failed
          exact listed

theorem lines_clean (lines : List NormalizedLine) : FailsOnly Clean (lines.forM lineFits) := by
  induction lines with
  | nil => exact failsOnly_ok _ ()
  | cons line lines ih =>
      refine failsOnly_bind _ _ _ (failsOnly_bind _ _ _ ?_ (fun _ => ?_)) (fun _ => ih)
      · exact textFits_clean _ _ _ (by simp [Overlong])
      · exact textFits_clean _ _ _ (by simp [Overlong])

theorem checked_clean {α : Type} (checks : Except Raised α) (texts : α → Except Raised Unit)
    (refuses : FailsOnly Refusal checks) (clean : ∀ value, FailsOnly Clean (texts value)) :
    FailsOnly Clean (checks >>= texts) :=
  failsOnly_bind _ _ _ (failsOnly_imp _ _ _ refuses (fun _ refusal => .inl refusal)) clean

/-- In every state of a shop a call that moves money, with a request that can be represented, does
what its checks say, unless a text that the request leaves unbounded is too long for its column: no
amount overflows, the guard against a negative paid amount never fires, no key collides and no row
is gone. The checks themselves raise exceptions of the application alone. -/
theorem money_calls_stop_at_checks (calls : List Shop.Call) (env : Env) (actor : User) :
    (∀ payload, SettleHeld payload → verdict (settleOrder env actor payload) (Shop.run calls) =
        settleVerdict payload (Shop.run calls) ∧
      FailsOnly Clean (settleVerdict payload (Shop.run calls))) ∧
    (∀ payload, ReturnHeld payload → verdict (createReturn env actor payload) (Shop.run calls) =
        returnVerdict env payload (Shop.run calls) ∧
      FailsOnly Clean (returnVerdict env payload (Shop.run calls))) ∧
    (∀ payload, ExchangeHeld payload → verdict (createExchange env actor payload) (Shop.run calls) =
        exchangeVerdict env payload (Shop.run calls) ∧
      FailsOnly Clean (exchangeVerdict env payload (Shop.run calls))) ∧
    (∀ payload, RefundHeld payload → verdict (reverseSettlementRefund env actor payload)
        (Shop.run calls) =
        refundVerdict env payload (Shop.run calls) ∧
      FailsOnly Clean (refundVerdict env payload (Shop.run calls))) ∧
    verdict (expireUnpaidOrders env) (Shop.run calls) = .ok () := by
  have books := (Shop.run_kept calls).books
  refine ⟨fun payload _ => ⟨?_, ?_⟩, fun payload _ => ⟨?_, ?_⟩, fun payload _ => ⟨?_, ?_⟩,
    fun payload _ => ⟨?_, ?_⟩, ?_⟩
  · exact settleOrder_verdict env actor payload _ books
  · exact checked_clean _ _ (settleChecks_refuses _ payload)
      (fun plan => lines_clean plan.lines)
  · exact createReturn_verdict env actor payload _ books
  · exact checked_clean _ _ (returnChecks_refuses env payload _)
      (fun _ => textFits_clean _ _ _ (by simp [Overlong]))
  · exact createExchange_verdict env actor payload _
  · exact checked_clean _ _ (exchangeChecks_refuses env payload _)
      (fun _ => textFits_clean _ _ _ (by simp [Overlong]))
  · exact reverseSettlementRefund_verdict env actor payload _ books (run_keyed calls)
  · refine checked_clean _ _ (refundChecks_refuses env payload _) (fun answer => ?_)
    cases answer with
    | inl existing => exact failsOnly_ok _ ()
    | inr plan => exact textFits_clean _ _ _ (by simp [Overlong])
  · exact verdict_ok _ _ _ _ (expireUnpaidOrders_eq env _)

end RetailApp.Answers
