import RetailApp.Ledger.Runs
import RetailApp.Library.TwoStep

/-! Requests in sessions of their own: the checks of a service read the tables in one step and
its transaction writes them in another, from the rows the checks loaded. -/

namespace RetailApp.Concurrency

open Transaction

inductive Request where
  | settleOrder (env : Env) (actor : User) (payload : PaymentSettleRequest)
  | reverseSettlementRefund (env : Env) (actor : User) (payload : ReverseSettlementRequest)
  | expireUnpaidOrders (env : Env)

inductive Reply where
  | settled (response : PaymentSettleResponse)
  | refunded (response : AfterSalesResponse)
  | expired (counts : Nat × Nat)
  deriving DecidableEq

inductive Plan where
  | settle (env : Env) (actor : User) (plan : SettlePlan)
  | refund (env : Env) (actor : User) (payload : ReverseSettlementRequest) (plan : RefundPlan)
  | expire (env : Env) (loaded : List (Nat × Order))

def read : Request → Db → Except Raised (Reply ⊕ Plan)
  | .settleOrder env actor payload, db =>
      (settleChecks db payload).map (fun plan => .inr (.settle env actor plan))
  | .reverseSettlementRefund env actor payload, db =>
      (refundChecks env payload db).map (Sum.map .refunded (.refund env actor payload))
  | .expireUnpaidOrders env, db => .ok (.inr (.expire env (unpaidOrders db env)))

def commit : Plan → Service Reply
  | .settle env actor plan => .settled <$> settleCommit env actor plan
  | .refund env actor payload plan => .refunded <$> refundCommit env actor payload plan
  | .expire env loaded => .expired <$> transactional (expireLoaded env.now loaded)

def backend : Protocol Request Db Raised Reply Plan := ⟨read, commit⟩

def Request.call : Request → Ledger.Call
  | .settleOrder env actor payload => .settleOrder env actor payload
  | .reverseSettlementRefund env actor payload => .reverseSettlementRefund env actor payload
  | .expireUnpaidOrders env => .expireUnpaidOrders env

theorem read_settle_ok (env : Env) (actor : User) (payload : PaymentSettleRequest) (db : Db)
    (answer : Reply ⊕ Plan) :
    read (.settleOrder env actor payload) db = .ok answer ↔
      ∃ plan, settleChecks db payload = .ok plan ∧ answer = .inr (.settle env actor plan) := by
  rw [read, map_except_ok]
  simp only [eq_comm]

theorem read_refund_ok (env : Env) (actor : User) (payload : ReverseSettlementRequest) (db : Db)
    (answer : Reply ⊕ Plan) :
    read (.reverseSettlementRefund env actor payload) db = .ok answer ↔
      (∃ response, refundChecks env payload db = .ok (.inl response) ∧
          answer = .inl (.refunded response)) ∨
        ∃ plan, refundChecks env payload db = .ok (.inr plan) ∧
          answer = .inr (.refund env actor payload plan) := by
  rw [read, map_except_ok, Sum.exists]
  simp only [Sum.map_inl, Sum.map_inr, eq_comm]

inductive Planned (db : Db) : Request → Plan → Prop
  | settle (env : Env) (actor : User) (payload : PaymentSettleRequest) (plan : SettlePlan)
      (checks : settleChecks db payload = .ok plan) :
      Planned db (.settleOrder env actor payload) (.settle env actor plan)
  | refund (env : Env) (actor : User) (payload : ReverseSettlementRequest) (order : Order)
      (allowed : RefundAllowed env payload db order)
      (checks : refundChecks env payload db =
        .ok (.inr ⟨payload.originalOrderId, order, money payload.refundAmount⟩)) :
      Planned db (.reverseSettlementRefund env actor payload) (.refund env actor payload
        ⟨payload.originalOrderId, order, money payload.refundAmount⟩)
  | expire (env : Env) :
      Planned db (.expireUnpaidOrders env) (.expire env (unpaidOrders db env))

theorem read_planned (request : Request) (db : Db) (plan : Plan)
    (planned : read request db = .ok (.inr plan)) : Planned db request plan := by
  cases request with
  | settleOrder env actor payload =>
      obtain ⟨settlePlan, checks, same⟩ := (read_settle_ok env actor payload db _).mp planned
      obtain rfl := Sum.inr.inj same
      exact .settle env actor payload settlePlan checks
  | reverseSettlementRefund env actor payload =>
      rcases (read_refund_ok env actor payload db _).mp planned with
        ⟨_, _, same⟩ | ⟨refundPlan, checks, same⟩
      · cases same
      · obtain rfl := Sum.inr.inj same
        obtain ⟨order, allowed, looked⟩ := (refundChecks_ok env payload db _).mp checks
        obtain ⟨_, rfl⟩ := (refundLookup_inr payload order _ refundPlan).mp looked
        exact .refund env actor payload order allowed checks
  | expireUnpaidOrders env =>
      obtain rfl := Sum.inr.inj (Except.ok.inj planned)
      exact .expire env

/-- Only a refund is ever answered by its read alone. -/
theorem read_answered (request : Request) (db : Db) (reply : Reply)
    (answered : read request db = .ok (.inl reply)) :
    ∃ env actor payload response, request = .reverseSettlementRefund env actor payload ∧
      refundChecks env payload db = .ok (.inl response) ∧ reply = .refunded response := by
  cases request with
  | settleOrder env actor payload =>
      obtain ⟨_, _, same⟩ := (read_settle_ok env actor payload db _).mp answered
      cases same
  | reverseSettlementRefund env actor payload =>
      rcases (read_refund_ok env actor payload db _).mp answered with
        ⟨response, checks, same⟩ | ⟨_, _, same⟩
      · exact ⟨env, actor, payload, response, rfl, checks, Sum.inl.inj same⟩
      · cases same
  | expireUnpaidOrders env => cases answered

theorem commit_expire (env : Env) (loaded : List (Nat × Order)) (db : Db) :
    ∃ counts, commit (.expire env loaded) db = .ok (.expired counts) (swept env.now loaded db) := by
  have swept := expireLoaded_eq env.now loaded db
  exact ⟨_, (map_ok _ _ _ _ _).mpr ⟨_, (transactional_ok _ _ _ _).mpr swept, rfl⟩⟩

/-- Both steps of a request with nothing in between are the call of its service. -/
theorem serve_call (request : Request) (db db' : Db) (reply : Reply)
    (returned : backend.serve request db = .ok reply db') : Ledger.step db request.call = db' := by
  rcases (Protocol.serve_ok backend request db db' reply).mp returned with
    ⟨answered, rfl⟩ | ⟨plan, planned, committed⟩
  · obtain ⟨env, actor, payload, response, rfl, checks, _⟩ := read_answered request _ reply answered
    exact after_ok _ _ _ response
      ((reverseSettlementRefund_ok env actor payload _ _ response).mpr (.inl ⟨checks, rfl⟩))
  · cases read_planned request db plan planned with
    | settle env actor payload plan checks =>
        obtain ⟨response, settled, _⟩ := (map_ok _ _ _ _ _).mp committed
        exact after_ok _ _ _ response
          ((settleOrder_ok env actor payload db db' response).mpr ⟨plan, checks, settled⟩)
    | refund env actor payload order allowed checks =>
        obtain ⟨response, refunded, _⟩ := (map_ok _ _ _ _ _).mp committed
        exact after_ok _ _ _ response ((reverseSettlementRefund_ok env actor payload db db'
          response).mpr (.inr ⟨_, checks, refunded⟩))
    | expire env =>
        obtain ⟨counts, swept, _⟩ := (map_ok _ _ _ _ _).mp committed
        exact after_ok _ _ _ counts swept

end RetailApp.Concurrency
