import RetailApp.Concurrency.Requests

/-! Refunds under one idempotency key. The early lookup and the unique constraint together
leave one record of it, whatever requests race for the key and for whichever orders. -/

namespace RetailApp.Concurrency

open Ledger Transaction

def underKey (idempotencyKey : String) (record : AfterSalesOrder) : Bool :=
  record.idempotencyKey == some idempotencyKey && record.afterSalesType == .refund

def refundsUnder (db : Db) (idempotencyKey : String) : List (Nat × AfterSalesOrder) :=
  db.afterSalesOrders.entries.filter (fun entry => underKey idempotencyKey entry.2)

/-- A plan whose commit takes money off an order under the key. -/
def debits (idempotencyKey : String) : Plan → Bool
  | .settle _ _ _ => false
  | .refund _ _ payload _ => payload.idempotencyKey == idempotencyKey
  | .expire _ _ => false

def Answers (db : Db) (payload : ReverseSettlementRequest) (reply : Reply) : Prop :=
  ∃ entry ∈ refundsUnder db payload.idempotencyKey, reply = .refunded (toResponse entry) ∧
    entry.2.originalOrderId = payload.originalOrderId ∧
    entry.2.requestedAmount.value = money payload.refundAmount

theorem refundsUnder_insert (db db' : Db) (idempotencyKey : String) (record : AfterSalesOrder)
    (afterSales : db'.afterSalesOrders = db.afterSalesOrders.insert record) :
    refundsUnder db' idempotencyKey = refundsUnder db idempotencyKey ++
      if underKey idempotencyKey record then [(db.afterSalesOrders.nextKey, record)] else [] := by
  rw [refundsUnder, afterSales, Table.entries_insert, List.filter_append, List.filter_singleton,
    Bool.cond_eq_ite, refundsUnder]

theorem refundsUnder_congr (db db' : Db) (idempotencyKey : String)
    (afterSales : db'.afterSalesOrders = db.afterSalesOrders) :
    refundsUnder db' idempotencyKey = refundsUnder db idempotencyKey := by
  rw [refundsUnder, afterSales, refundsUnder]

theorem refundByKey_head (db : Db) (idempotencyKey : String) :
    refundByKey db idempotencyKey = (refundsUnder db idempotencyKey).head? := by
  rw [refundsUnder, List.head?_filter]
  rfl

theorem refundsUnder_unused (db : Db) (idempotencyKey : String)
    (unused : keyTaken db (some idempotencyKey) = false) : refundsUnder db idempotencyKey = [] := by
  rw [← List.head?_eq_none_iff, ← refundByKey_head]
  exact refundByKey_unused db idempotencyKey unused

inductive Files (db db' : Db) : Plan → Reply → Prop
  | nothing (plan : Plan) (reply : Reply)
      (silent : ∀ idempotencyKey, debits idempotencyKey plan = false)
      (same : db'.afterSalesOrders = db.afterSalesOrders) : Files db db' plan reply
  | refund (env : Env) (actor : User) (payload : ReverseSettlementRequest) (plan : RefundPlan)
      (record : AfterSalesOrder) (fresh : keyTaken db (some payload.idempotencyKey) = false)
      (stored : toRefundRecord env actor payload plan.refundAmount = .ok record)
      (inserted : db'.afterSalesOrders = db.afterSalesOrders.insert record) :
      Files db db' (.refund env actor payload plan)
        (.refunded (toResponse (db.afterSalesOrders.nextKey, record)))

theorem commit_files (plan : Plan) (db db' : Db) (reply : Reply)
    (committed : commit plan db = .ok reply db') : Files db db' plan reply := by
  cases plan with
  | settle env actor plan =>
      obtain ⟨response, settled, _⟩ := (map_ok _ _ _ _ _).mp committed
      obtain ⟨_, _, _, _, _, _, rfl⟩ := (settleCommit_ok env actor plan db db' response).mp settled
      exact .nothing _ _ (fun _ => rfl) rfl
  | refund env actor payload plan =>
      obtain ⟨response, refunded, rfl⟩ := (map_ok _ _ _ _ _).mp committed
      obtain ⟨record, paidAmount, stores, fresh, rfl, rfl⟩ :=
        (refundCommit_ok env actor payload plan db db' response).mp refunded
      exact .refund env actor payload plan record fresh stores.record rfl
  | expire env loaded =>
      obtain ⟨counts, swept'⟩ := commit_expire env loaded db
      obtain ⟨_, rfl⟩ := EStateM.Result.ok.inj (swept'.symm.trans committed)
      exact .nothing _ _ (fun _ => rfl) (swept_keeps env.now loaded db).2

/-- A commit that raises files nothing: a settlement may raise after its transaction, when
the row it answers from is gone, and has then written payments only. -/
theorem commit_raised_keeps (plan : Plan) (db db' : Db) (raised : Raised)
    (failed : commit plan db = .error raised db') :
    db'.afterSalesOrders = db.afterSalesOrders := by
  cases plan with
  | settle env actor plan =>
      rcases (bind_error _ _ _ _ _).mp ((map_error _ _ _ _ _).mp failed) with
        rolledBack | ⟨created, between, committed, answerless⟩
      · rw [transactional_error _ _ _ _ rolledBack]
      · obtain ⟨_, _, _, _, rfl⟩ := (settleWrites_ok env actor plan db between created).mp
          ((transactional_ok _ _ _ _).mp committed)
        have same := allOrNothing_checked (fun db : Db => orRaise (db.orders.get? plan.orderId) _)
          (fun order => pure (toSettleResponse plan.orderId order created))
          (fun tables order _ => allOrNothing_pure _ tables) _ _ _ answerless
        rw [same, SettlePlan.written]
  | refund env actor payload plan =>
      rw [allOrNothing_answer _ toResponse (allOrNothing_transactional _) db db' raised
        ((map_error _ _ _ _ _).mp failed)]
  | expire env loaded =>
      obtain ⟨counts, committed⟩ := commit_expire env loaded db
      cases committed.symm.trans failed

/-- The records under a key grow by one for each of the plans that debit under it. -/
def Grows (idempotencyKey : String) (db db' : Db) (plans : List Plan) : Prop :=
  ∃ filed, refundsUnder db' idempotencyKey = refundsUnder db idempotencyKey ++ filed ∧
    filed.length = plans.countP (debits idempotencyKey)

theorem grows_same (idempotencyKey : String) (db db' : Db)
    (same : db'.afterSalesOrders = db.afterSalesOrders) : Grows idempotencyKey db db' [] :=
  ⟨[], by rw [refundsUnder_congr db db' idempotencyKey same, List.append_nil], rfl⟩

theorem grows_trans (idempotencyKey : String) (first second third : Db) (plans plans' : List Plan)
    (early : Grows idempotencyKey first second plans)
    (late : Grows idempotencyKey second third plans') :
    Grows idempotencyKey first third (plans ++ plans') := by
  obtain ⟨filed, middle, counted⟩ := early
  obtain ⟨filed', final, counted'⟩ := late
  exact ⟨filed ++ filed', by rw [final, middle, List.append_assoc],
    by rw [List.length_append, counted, counted', List.countP_append]⟩

theorem files_grows (db db' : Db) (plan : Plan) (reply : Reply) (idempotencyKey : String)
    (files : Files db db' plan reply) : Grows idempotencyKey db db' [plan] := by
  cases files with
  | nothing _ _ silent same =>
      obtain ⟨filed, grown, counted⟩ := grows_same idempotencyKey db db' same
      exact ⟨filed, grown, by simp [counted, silent]⟩
  | refund env actor payload plan record fresh stored inserted =>
      obtain ⟨_, kind, _, _, _, keyed, _⟩ := toRefundRecord_ok env actor payload _ record stored
      refine ⟨_, refundsUnder_insert db db' idempotencyKey record inserted, ?_⟩
      by_cases same : payload.idempotencyKey = idempotencyKey
      · simp [underKey, debits, keyed, kind, same]
      · simp [underKey, debits, keyed, kind, same]

theorem files_first (db db' : Db) (plan : Plan) (reply : Reply) (idempotencyKey : String)
    (files : Files db db' plan reply) (hit : debits idempotencyKey plan = true) :
    refundsUnder db idempotencyKey = [] := by
  cases files with
  | nothing _ _ silent same => cases (silent idempotencyKey).symm.trans hit
  | refund env actor payload plan record fresh stored inserted =>
      obtain rfl : payload.idempotencyKey = idempotencyKey := beq_iff_eq.mp hit
      exact refundsUnder_unused db _ fresh

abbrev RequestWorld := Protocol.World Request Db Reply Plan

theorem step_grows (world : RequestWorld) (event : Protocol.Event Request)
    (idempotencyKey : String) :
    Grows idempotencyKey world.tables (backend.step world event).tables
      (backend.committing world event).toList := by
  have stepped := backend.step_stepped world event
  generalize backend.committing world event = commits, backend.step world event = world'
    at stepped ⊢
  cases stepped with
  | refused request raised outcome => exact grows_same _ _ _ rfl
  | answered request answer outcome => exact grows_same _ _ _ rfl
  | planned request plan outcome => exact grows_same _ _ _ rfl
  | missing position entry => exact grows_same _ _ _ rfl
  | raised position request plan raised tables entry outcome =>
      exact grows_same _ _ _ (commit_raised_keeps plan world.tables tables raised outcome)
  | committed position request plan answer tables entry outcome =>
      exact files_grows _ _ plan answer _ (commit_files plan world.tables tables answer outcome)

theorem step_atMostOne (world : RequestWorld) (event : Protocol.Event Request)
    (idempotencyKey : String) (atMostOne : (refundsUnder world.tables idempotencyKey).length ≤ 1) :
    (refundsUnder (backend.step world event).tables idempotencyKey).length ≤ 1 := by
  obtain ⟨filed, grown, counted⟩ := step_grows world event idempotencyKey
  have stepped := backend.step_stepped world event
  generalize backend.committing world event = commits, backend.step world event = world'
    at stepped grown counted ⊢
  rw [grown, List.length_append, counted]
  cases stepped with
  | committed position request plan answer tables entry outcome =>
      have files := commit_files plan world.tables tables answer outcome
      by_cases hit : debits idempotencyKey plan = true
      · simp [files_first _ _ plan answer idempotencyKey files hit, hit]
      · simpa [hit] using atMostOne
  | _ => exact atMostOne

theorem run_grows (world : RequestWorld) (schedule : List (Protocol.Event Request))
    (idempotencyKey : String) :
    Grows idempotencyKey world.tables (backend.run world schedule).tables
      (backend.committed world schedule) := by
  induction schedule generalizing world with
  | nil => exact grows_same _ _ _ rfl
  | cons event schedule ih =>
      exact grows_trans _ _ _ _ _ _ (step_grows world event idempotencyKey)
        (ih (backend.step world event))

theorem run_atMostOne (world : RequestWorld) (schedule : List (Protocol.Event Request))
    (idempotencyKey : String) (atMostOne : (refundsUnder world.tables idempotencyKey).length ≤ 1) :
    (refundsUnder (backend.run world schedule).tables idempotencyKey).length ≤ 1 :=
  Runs.run_preserves backend.step
    (fun world => (refundsUnder world.tables idempotencyKey).length ≤ 1)
    (fun world event => step_atMostOne world event idempotencyKey) world schedule atMostOne

theorem answers_grow (idempotencyKey : String) (db db' : Db) (plans : List Plan)
    (payload : ReverseSettlementRequest) (reply : Reply)
    (keyed : payload.idempotencyKey = idempotencyKey) (grows : Grows idempotencyKey db db' plans)
    (answers : Answers db payload reply) : Answers db' payload reply := by
  obtain ⟨entry, member, shown⟩ := answers
  obtain ⟨filed, grown, _⟩ := grows
  subst keyed
  exact ⟨entry, grown ▸ List.mem_append_left filed member, shown⟩

structure Tracked (world : RequestWorld) : Prop where
  planned : ∀ env actor payload plan,
    (.reverseSettlementRefund env actor payload, plan) ∈ world.inFlight → ∃ order,
      plan = .refund env actor payload ⟨payload.originalOrderId, order, money payload.refundAmount⟩
  answered : ∀ env actor payload reply,
    (.reverseSettlementRefund env actor payload, reply) ∈ world.answered →
      Answers world.tables payload reply

theorem read_answers (env : Env) (actor : User) (payload : ReverseSettlementRequest) (db : Db)
    (reply : Reply) (outcome : read (.reverseSettlementRefund env actor payload) db =
      .ok (.inl reply)) : Answers db payload reply := by
  obtain ⟨_, _, _, _, same, checks, rfl⟩ := read_answered _ db reply outcome
  obtain ⟨rfl, rfl, rfl⟩ := Request.reverseSettlementRefund.inj same
  obtain ⟨order, _, looked⟩ := (refundChecks_ok env payload db _).mp checks
  obtain ⟨existing, found, target, amount, rfl⟩ := (refundLookup_inl payload order _ _).mp looked
  rw [refundByKey_head] at found
  exact ⟨existing, List.mem_of_head? found, rfl, target, amount⟩

theorem read_plans (env : Env) (actor : User) (payload : ReverseSettlementRequest) (db : Db)
    (plan : Plan) (outcome : read (.reverseSettlementRefund env actor payload) db =
      .ok (.inr plan)) : ∃ order, plan =
        .refund env actor payload ⟨payload.originalOrderId, order, money payload.refundAmount⟩ := by
  cases read_planned _ db plan outcome with
  | refund _ _ _ order _ _ => exact ⟨order, rfl⟩

theorem files_answers (env : Env) (actor : User) (payload : ReverseSettlementRequest)
    (plan : RefundPlan) (db db' : Db) (reply : Reply)
    (amount : plan.refundAmount = money payload.refundAmount)
    (files : Files db db' (.refund env actor payload plan) reply) : Answers db' payload reply := by
  cases files with
  | nothing _ _ silent same =>
      have loud := silent payload.idempotencyKey
      simp [debits] at loud
  | refund _ _ _ _ record fresh stored inserted =>
      obtain ⟨target, kind, _, requested, _, keyed, _⟩ :=
        toRefundRecord_ok env actor payload _ record stored
      refine ⟨(db.afterSalesOrders.nextKey, record), ?_, rfl, target, ?_⟩
      · rw [refundsUnder_insert db db' _ record inserted]
        simp [underKey, keyed, kind]
      · rw [requested, amount, money_money]

theorem step_tracked (world : RequestWorld) (event : Protocol.Event Request)
    (tracked : Tracked world) : Tracked (backend.step world event) := by
  have grows := step_grows world event
  have stepped := backend.step_stepped world event
  generalize backend.committing world event = commits, backend.step world event = world'
    at stepped grows ⊢
  have kept : ∀ env actor payload reply,
      (.reverseSettlementRefund env actor payload, reply) ∈ world.answered →
        Answers world'.tables payload reply := by
    intro env actor payload reply member
    exact answers_grow payload.idempotencyKey _ _ _ payload reply rfl
      (grows payload.idempotencyKey) (tracked.answered env actor payload reply member)
  have remaining : ∀ position env actor payload plan,
      (.reverseSettlementRefund env actor payload, plan) ∈ world.inFlight.eraseIdx position →
        ∃ order, plan = .refund env actor payload
          ⟨payload.originalOrderId, order, money payload.refundAmount⟩ := by
    intro position env actor payload plan member
    exact tracked.planned env actor payload plan (List.mem_of_mem_eraseIdx member)
  cases stepped with
  | refused request raised outcome => exact tracked
  | answered request answer outcome =>
      refine ⟨tracked.planned, ?_⟩
      intro env actor payload reply member
      rcases List.mem_append.mp member with old | new
      · exact kept env actor payload reply old
      · obtain ⟨rfl, rfl⟩ := Prod.mk.inj (List.mem_singleton.mp new)
        exact read_answers env actor payload world.tables reply outcome
  | planned request plan outcome =>
      refine ⟨?_, kept⟩
      intro env actor payload plan' member
      rcases List.mem_append.mp member with old | new
      · exact tracked.planned env actor payload plan' old
      · obtain ⟨rfl, rfl⟩ := Prod.mk.inj (List.mem_singleton.mp new)
        exact read_plans env actor payload world.tables plan' outcome
  | missing position entry => exact tracked
  | raised position request plan raised tables entry outcome => exact ⟨remaining position, kept⟩
  | committed position request plan answer tables entry outcome =>
      refine ⟨remaining position, ?_⟩
      intro env actor payload reply member
      rcases List.mem_append.mp member with old | new
      · exact kept env actor payload reply old
      · obtain ⟨rfl, rfl⟩ := Prod.mk.inj (List.mem_singleton.mp new)
        obtain ⟨order, rfl⟩ :=
          tracked.planned env actor payload plan (List.mem_of_getElem? entry)
        exact files_answers env actor payload _ world.tables tables reply rfl
          (commit_files _ world.tables tables reply outcome)

theorem run_tracked (start : Db) (schedule : List (Protocol.Event Request)) :
    Tracked (backend.run (Protocol.World.idle start) schedule) := by
  refine Runs.run_preserves backend.step Tracked step_tracked _ schedule ⟨?_, ?_⟩
  · intro env actor payload plan member
    cases member
  · intro env actor payload reply member
    cases member

theorem call_atMostOne (db : Db) (call : Call) (idempotencyKey : String)
    (atMostOne : (refundsUnder db idempotencyKey).length ≤ 1) :
    (refundsUnder (step db call) idempotencyKey).length ≤ 1 := by
  have change := step_change db call
  generalize step db call = db' at change ⊢
  have kept (same : db'.afterSalesOrders = db.afterSalesOrders) :
      (refundsUnder db' idempotencyKey).length ≤ 1 := by
    rwa [refundsUnder_congr db db' idempotencyKey same]
  have keyless_kept (record : AfterSalesOrder) (keyless : record.idempotencyKey = none)
      (inserted : db'.afterSalesOrders = db.afterSalesOrders.insert record) :
      (refundsUnder db' idempotencyKey).length ≤ 1 := by
    rw [refundsUnder_insert db db' idempotencyKey record inserted]
    simpa [underKey, keyless] using atMostOne
  cases change with
  | unchanged call same => exact kept (congrArg (fun tables => tables.2.2) same)
  | placed env actor payload orderId order change => exact kept change.afterSales
  | settled env actor payload order records paidAmount change => exact kept change.afterSales
  | returned env actor payload order record change =>
      exact keyless_kept record change.keyless change.filed.afterSales
  | exchanged env actor payload order record change =>
      exact keyless_kept record change.keyless change.filed.afterSales
  | refunded env actor payload order record paidAmount change =>
      rw [refundsUnder_insert db db' idempotencyKey record change.afterSales]
      by_cases hit : underKey idempotencyKey record = true
      · have same : payload.idempotencyKey = idempotencyKey := by
          simpa [underKey, change.keyed, change.kind] using hit
        rw [refundsUnder_unused db idempotencyKey (same ▸ change.fresh), if_pos hit]
        exact le_rfl
      · simpa [hit] using atMostOne
  | swept env change => exact kept change.afterSales

theorem one_refund_per_key (products : Table Product) (promotionRules : Table PromotionRule)
    (calls : List Call) (schedule : List (Protocol.Event Request)) (idempotencyKey : String) :
    let start := run (Db.start products promotionRules) calls
    let world := backend.run (Protocol.World.idle start) schedule
    (refundsUnder world.tables idempotencyKey).length ≤ 1 ∧
      (refundsUnder start idempotencyKey).length +
        (backend.committed (Protocol.World.idle start) schedule).countP
          (debits idempotencyKey) ≤ 1 ∧
      ∀ env actor payload reply,
        (.reverseSettlementRefund env actor payload, reply) ∈ world.answered →
          payload.idempotencyKey = idempotencyKey →
            ∃ entry ∈ refundsUnder world.tables idempotencyKey,
              reply = .refunded (toResponse entry) ∧
              entry.2.originalOrderId = payload.originalOrderId ∧
              entry.2.requestedAmount.value = money payload.refundAmount := by
  intro start world
  have atMostOne : (refundsUnder start idempotencyKey).length ≤ 1 :=
    Runs.run_preserves step (fun db => (refundsUnder db idempotencyKey).length ≤ 1)
      (fun db call => call_atMostOne db call idempotencyKey) _ calls (Nat.zero_le 1)
  have atMostOneNow := run_atMostOne (Protocol.World.idle start) schedule idempotencyKey atMostOne
  refine ⟨atMostOneNow, ?_, ?_⟩
  · obtain ⟨filed, grown, counted⟩ :=
      run_grows (Protocol.World.idle start) schedule idempotencyKey
    rwa [grown, List.length_append, counted] at atMostOneNow
  · rintro env actor payload reply member rfl
    exact (run_tracked start schedule).answered env actor payload reply member

/-- Three requests that give back 5.00 under one key: two race, the third finds the record. -/
def refundRace : List (Protocol.Event Request) :=
  [.start (.reverseSettlementRefund (atTime 2 "") clerk fiveBack),
    .start (.reverseSettlementRefund (atTime 3 "") clerk fiveBack), .finish 0, .finish 0,
    .start (.reverseSettlementRefund (atTime 4 "") clerk fiveBack)]

theorem one_refund_per_key_race :
    let world := backend.run (Protocol.World.idle paidTea) refundRace
    world.inFlight.length = 0 ∧ world.answered.length = 2 ∧
      (backend.committed (Protocol.World.idle paidTea) refundRace).length = 1 ∧
      (refundsUnder world.tables fiveBack.idempotencyKey).length ≤ 1 :=
  ⟨by decide +kernel, by decide +kernel, by decide +kernel,
    (one_refund_per_key ⟨[tea]⟩ Table.empty [sellTea 0 "ORD-1", payTen 1] refundRace
      fiveBack.idempotencyKey).1⟩

end RetailApp.Concurrency
