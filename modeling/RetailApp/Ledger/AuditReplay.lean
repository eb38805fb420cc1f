import RetailApp.Ledger.Runs
import RetailApp.Ledger.Writes

/-! The audit log as a second copy of the books: its rows, replayed in order, give every order's
total, paid amount and status. -/

namespace RetailApp.Ledger

open Transaction

structure Account where
  finalAmount : ℚ
  paidAmount : ℚ
  status : OrderStatus
  deriving DecidableEq

def account (order : Order) : Account where
  finalAmount := order.finalAmount
  paidAmount := order.paidAmount
  status := order.status

abbrev Accounts := Nat → Option Account

def accounts (db : Db) : Accounts := fun orderId => (db.orders.get? orderId).map account

def amend (accounts : Accounts) (orderId : Nat) (change : Account → Account) : Accounts :=
  Function.update accounts orderId ((accounts orderId).map change)

def replayRow (accounts : Accounts) (row : ImmutableAuditLog) : Accounts :=
  match row.action, row.details with
  | "order.create", .orderCreate _ finalAmount =>
      Function.update accounts row.entityId (some ⟨finalAmount, 0, .pending⟩)
  | "payment.settle", .paymentSettle _ _ paidAmount orderStatus =>
      amend accounts row.entityId
        (fun account => { account with paidAmount := paidAmount, status := orderStatus })
  | "after_sales.reverse_settlement", .reverseSettlement originalOrderId _ _ newPaidAmount =>
      amend accounts originalOrderId (fun account =>
        { account with
          paidAmount := newPaidAmount
          status := if newPaidAmount = 0 then .pending else .partiallyPaid })
  | "order.auto_void", .autoVoid _ =>
      amend accounts row.entityId (fun account => { account with status := .void })
  | _, _ => accounts

def replay (rows : List ImmutableAuditLog) : Accounts :=
  Runs.run replayRow (fun _ => none) rows

/-- A recorded paid amount is the previous one and the amount that the row says has moved. -/
def Follows (accounts : Accounts) (row : ImmutableAuditLog) : Prop :=
  match row.action, row.details with
  | "payment.settle", .paymentSettle _ settleAmount paidAmount _ =>
      ∃ before, accounts row.entityId = some before ∧
        paidAmount = before.paidAmount + settleAmount
  | "after_sales.reverse_settlement",
      .reverseSettlement originalOrderId refundAmount _ newPaidAmount =>
      ∃ before, accounts originalOrderId = some before ∧
        newPaidAmount = before.paidAmount - refundAmount
  | _, _ => True

/-- The rows that one piece of work adds to the log replay what it does to the orders. -/
def Journaled (db db' : Db) : Prop :=
  ∃ rows, db'.auditLogs.rows = db.auditLogs.rows ++ rows ∧
    Runs.run replayRow (accounts db) rows = accounts db' ∧
    Runs.Along replayRow Follows (accounts db) rows

theorem Journaled.refl (db : Db) : Journaled db db := ⟨[], (List.append_nil _).symm, rfl, trivial⟩

theorem Journaled.trans (first second third : Db) (early : Journaled first second)
    (late : Journaled second third) : Journaled first third := by
  obtain ⟨rows, grown, replayed, follow⟩ := early
  obtain ⟨rows', grown', replayed', follow'⟩ := late
  refine ⟨rows ++ rows', ?_, ?_, ?_⟩
  · rw [grown', grown, List.append_assoc]
  · rw [Runs.run_append, replayed, replayed']
  · rw [Runs.along_append, replayed]
    exact ⟨follow, follow'⟩

theorem journaled_row (db db' : Db) (row : ImmutableAuditLog)
    (logged : db'.auditLogs = db.auditLogs.insert row)
    (replayed : replayRow (accounts db) row = accounts db') (follows : Follows (accounts db) row) :
    Journaled db db' :=
  ⟨[row], by rw [logged]; rfl, replayed, follows, trivial⟩

theorem accounts_insert (db db' : Db) (order : Order) (orders : db'.orders = db.orders.insert order) :
    accounts db' = Function.update (accounts db) db.orders.nextKey (some (account order)) := by
  funext orderId
  rw [accounts, orders, Table.get?_insert]
  by_cases here : orderId = db.orders.nextKey
  · rw [if_pos here, here, Function.update_self, Option.map_some]
  · rw [if_neg here, Function.update_of_ne here, accounts]

theorem accounts_modify (db db' : Db) (orderId : Nat) (update : Order → Order)
    (change : Account → Account) (orders : db'.orders = db.orders.modify orderId update)
    (shown : ∀ order, db.orders.get? orderId = some order →
      account (update order) = change (account order)) :
    accounts db' = amend (accounts db) orderId change := by
  funext other
  rw [accounts, orders, Table.get?_modify, amend]
  by_cases here : other = orderId
  · subst here
    rw [if_pos rfl, Function.update_self, accounts, Option.map_map, Option.map_map]
    cases present : db.orders.get? other with
    | none => rfl
    | some order => exact congrArg some (shown order present)
  · rw [if_neg here, Function.update_of_ne here, accounts]

theorem opened_journaled (env : Env) (actor : User) (payload : OrderCreateRequest) (order : Order)
    (rows : List OrderLine) (db : Db) (opens : Opens env payload db order rows) :
    Journaled db (opened actor order rows db) := by
  refine journaled_row db _ _ rfl ?_ trivial
  refine Eq.trans ?_ (accounts_insert db (opened actor order rows db) order rfl).symm
  rw [account, opens.pending, opens.unpaid, Amount.zero_value]
  rfl

theorem settled_journaled (env : Env) (actor : User) (payload : PaymentSettleRequest)
    (plan : SettlePlan) (records : List PaymentRecord) (paidAmount : Amount) (db : Db)
    (checked : plan.Checked db payload) (stores : plan.Stores env actor records paidAmount) :
    Journaled db (plan.written env actor records paidAmount db) := by
  have amounts := settledAmounts env actor payload db plan records paidAmount checked stores
  have loaded : db.orders.get? plan.orderId = some plan.order := checked.target ▸ checked.loaded
  refine journaled_row db _ _ rfl ?_ ⟨account plan.order, ?_, amounts.paid⟩
  · refine (accounts_modify db _ plan.orderId _ _ rfl ?_).symm
    intro order present
    obtain rfl := Option.some.inj (loaded.symm.trans present)
    obtain ⟨paid, final, _⟩ := paidOrder_keeps env.now plan.order paidAmount
    rw [Order.flush_loaded, account, account, paid, final]
  · rw [accounts, loaded, Option.map_some]

theorem refunded_journaled (env : Env) (actor : User) (payload : ReverseSettlementRequest)
    (order : Order) (record : AfterSalesOrder) (paidAmount : Amount) (db : Db) (books : Books db)
    (allowed : RefundAllowed env payload db order)
    (stores : RefundPlan.Stores env actor payload
      ⟨payload.originalOrderId, order, money payload.refundAmount⟩ record paidAmount) :
    Journaled db (RefundPlan.written actor payload
      ⟨payload.originalOrderId, order, money payload.refundAmount⟩ record paidAmount db) := by
  have paid := refundedAmount env actor payload _ record paidAmount rfl stores
  have stored : money (order.paidAmount.value - money payload.refundAmount) = paidAmount.value :=
    (money_of_onGrid _ (order.paidAmount.cents.sub (money_onGrid _))).trans paid.symm
  have coherent := books.orders payload.originalOrderId order allowed.loaded
  have below : paidAmount.value < order.finalAmount.value := by
    rw [paid]
    exact coherent_below db _ order _ coherent allowed.positive
  refine journaled_row db _ _ rfl ?_ ⟨account order, ?_, stored.trans paid⟩
  · refine (accounts_modify db _ payload.originalOrderId _ _ rfl ?_).symm
    intro order' present
    obtain rfl := Option.some.inj (allowed.loaded.symm.trans present)
    obtain ⟨newPaid, final, _⟩ := refundedOrder_keeps order paidAmount
    rw [Order.flush_loaded, account, account, newPaid, final, refundedOrder_status, if_pos below,
      stored]
  · rw [accounts, allowed.loaded, Option.map_some]

theorem sweepEntry_journaled (now : Time) (db : Db) (entry : Nat × Order)
    (unsettled : isUnsettled entry.2 = true) : Journaled db (sweepEntry now db entry) := by
  rw [sweepEntry]
  split
  · refine journaled_row db _ _ rfl ?_ trivial
    refine (accounts_modify db _ entry.1 _ _ rfl ?_).symm
    intro order present
    have alive := unsettled_alive entry.2 unsettled
    simp [account, Order.flush, voided, changed, alive.symm]
  · exact Journaled.refl db

theorem swept_journaled (now : Time) (loaded : List (Nat × Order)) (db : Db)
    (unsettled : ∀ entry ∈ loaded, isUnsettled entry.2 = true) :
    Journaled db (swept now loaded db) := by
  induction loaded generalizing db with
  | nil => exact Journaled.refl db
  | cons entry rest ih =>
      obtain ⟨first, others⟩ := List.forall_mem_cons.mp unsettled
      exact (sweepEntry_journaled now db entry first).trans db _ _
        (ih (sweepEntry now db entry) others)

theorem step_journaled (db : Db) (call : Call) (books : Books db) :
    Journaled db (step db call) := by
  rcases step_writes db call with same | writes
  · rw [same]
    exact Journaled.refl db
  · generalize step db call = db' at writes ⊢
    cases writes with
    | opened env actor payload order rows opens =>
        exact opened_journaled env actor payload order rows db opens
    | settled env actor payload plan records paidAmount checked stores =>
        exact settled_journaled env actor payload plan records paidAmount db checked stores
    | returned env actor payload record => exact journaled_row db _ _ rfl rfl trivial
    | exchanged env actor payload record => exact journaled_row db _ _ rfl rfl trivial
    | repeated env actor payload => exact Journaled.refl db
    | refunded env actor payload order record paidAmount allowed stores =>
        exact refunded_journaled env actor payload order record paidAmount db books allowed stores
    | swept env =>
        exact swept_journaled env.now (unpaidOrders db env) db
          (fun entry member => ((Table.mem_select _ _ _ _ _).mp member).2)

theorem run_journaled (db : Db) (calls : List Call) (books : Books db) :
    Journaled db (run db calls) := by
  have kept := Runs.run_preserves step (fun db' => Books db' ∧ Journaled db db')
    (fun db' call both => ⟨step_books db' call both.1,
      both.2.trans db db' _ (step_journaled db' call both.1)⟩) db calls ⟨books, Journaled.refl db⟩
  exact kept.2

/-- In every state a run reaches, the log has only grown, its rows replay to the orders, and
every paid amount in it follows from the one before. -/
theorem audit_log_replays (products : Table Product) (promotionRules : Table PromotionRule)
    (early late : List Call) :
    let start := Db.start products promotionRules
    (run start early).auditLogs.rows <+: (run start (early ++ late)).auditLogs.rows ∧
      (∀ orderId, replay (run start early).auditLogs.rows orderId =
        ((run start early).orders.get? orderId).map account) ∧
      Runs.Along replayRow Follows (fun _ => none) (run start early).auditLogs.rows := by
  intro start
  obtain ⟨rows, grown, replayed, follow⟩ :=
    run_journaled start early (start_books products promotionRules)
  obtain ⟨rows', grown', _⟩ := run_journaled (run start early) late
    (run_books products promotionRules early)
  have empty : accounts start = fun _ => none := by
    funext orderId
    simp [accounts, start, Db.start]
  have whole : (run start early).auditLogs.rows = rows := grown
  refine ⟨⟨rows', ?_⟩, ?_, ?_⟩
  · rw [run, run, Runs.run_append]
    exact grown'.symm
  · intro orderId
    rw [whole, replay, ← empty, replayed, accounts]
  · rw [whole, ← empty]
    exact follow

end RetailApp.Ledger
