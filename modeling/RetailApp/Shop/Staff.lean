import RetailApp.Auth.Grants
import RetailApp.Services.ShopEndpoints
import RetailApp.Shop.Statements

/-! Who the books name. Administration and the shop run side by side; every row of the books was
signed by somebody whom superusers had let do so by then. -/

namespace RetailApp.Staff

open Transaction Access

inductive Request where
  | createOrder (env : Env) (payload : OrderCreateRequest)
  | listOrders (env : Env) (limit : Nat)
  | getOrder (env : Env) (orderId : Nat)
  | createPromotionRule (payload : PromotionRuleCreateRequest)
  | expireUnpaidOrders (env : Env)
  | settleOrder (env : Env) (payload : PaymentSettleRequest)
  | listOrderPayments (orderId : Nat)
  | createReturn (env : Env) (payload : ReturnRequest)
  | createExchange (env : Env) (payload : ExchangeRequest)
  | reverseSettlement (env : Env) (payload : ReverseSettlementRequest)
  | createProduct (env : Env) (payload : ProductCreateRequest)
  | updateProductStatus (productId : Nat) (payload : ProductStatusUpdateRequest)

inductive Call where
  | access (call : Access.Call)
  | shop (userId : Nat) (request : Request)

def Request.endpoint (userId : Nat) : Request → ShopEndpoint Unit
  | .createOrder env payload => (fun _ => ()) <$> createOrderEndpoint env payload userId
  | .listOrders env limit => (fun _ => ()) <$> listOrdersEndpoint env limit userId
  | .getOrder env orderId => (fun _ => ()) <$> getOrderEndpoint env orderId userId
  | .createPromotionRule payload => (fun _ => ()) <$> createPromotionRuleEndpoint payload userId
  | .expireUnpaidOrders env => (fun _ => ()) <$> expireUnpaidOrdersEndpoint env userId
  | .settleOrder env payload => (fun _ => ()) <$> settleOrderPaymentEndpoint env payload userId
  | .listOrderPayments orderId => (fun _ => ()) <$> listOrderPaymentsEndpoint orderId userId
  | .createReturn env payload => (fun _ => ()) <$> createReturnEndpoint env payload userId
  | .createExchange env payload => (fun _ => ()) <$> createExchangeEndpoint env payload userId
  | .reverseSettlement env payload => (fun _ => ()) <$> reverseSettlementEndpoint env payload userId
  | .createProduct env payload => (fun _ => ()) <$> createProductEndpoint env payload userId
  | .updateProductStatus productId payload =>
      (fun _ => ()) <$> updateProductStatusEndpoint productId payload userId

def Request.permission : Request → String
  | .createOrder _ _ => "order:create"
  | .listOrders _ _ => "order:read"
  | .getOrder _ _ => "order:read"
  | .createPromotionRule _ => "promotion:manage"
  | .expireUnpaidOrders _ => "order:manage"
  | .settleOrder _ _ => "payment:settle"
  | .listOrderPayments _ => "payment:read"
  | .createReturn _ _ => "after_sales:handle"
  | .createExchange _ _ => "after_sales:handle"
  | .reverseSettlement _ _ => "after_sales:refund"
  | .createProduct _ _ => "product:manage"
  | .updateProductStatus _ _ => "product:manage"

/-- What a request that is let through calls, unless it only reads. -/
def Request.call (user : User) : Request → Option Shop.Call
  | .createOrder env payload => some (.ledger (.createOrder env user payload))
  | .listOrders _ _ => none
  | .getOrder _ _ => none
  | .createPromotionRule payload => some (.createPromotionRule payload)
  | .expireUnpaidOrders env => some (.ledger (.expireUnpaidOrders env))
  | .settleOrder env payload => some (.ledger (.settleOrder env user payload))
  | .listOrderPayments _ => none
  | .createReturn env payload => some (.ledger (.createReturn env user payload))
  | .createExchange env payload => some (.ledger (.createExchange env user payload))
  | .reverseSettlement env payload => some (.ledger (.reverseSettlementRefund env user payload))
  | .createProduct env payload => some (.catalogue (.createProduct env payload))
  | .updateProductStatus productId payload =>
      some (.catalogue (.updateProductStatus productId payload))

def step (db : ShopBackend) : Call → ShopBackend
  | .access call => { db with access := Access.step db.access call }
  | .shop userId request => after (request.endpoint userId) db

def run (accounts : Table Account) (calls : List Call) : ShopBackend :=
  Runs.run step ⟨AccessDb.start accounts, Db.start Table.empty Table.empty⟩ calls

abbrev Signature := Option String × Nat

def signed : Shop.Call → Option Signature
  | .catalogue _ => none
  | .createPromotionRule _ => none
  | .ledger (.createOrder _ actor _) => some (some "order:create", actor.id)
  | .ledger (.settleOrder _ actor _) => some (some "payment:settle", actor.id)
  | .ledger (.createReturn _ actor _) => some (some "after_sales:handle", actor.id)
  | .ledger (.createExchange _ actor _) => some (some "after_sales:handle", actor.id)
  | .ledger (.reverseSettlementRefund _ actor _) => some (some "after_sales:refund", actor.id)
  | .ledger (.expireUnpaidOrders _) => none

section Gate

end Gate

section Signatures

end Signatures

section Runs

end Runs

end RetailApp.Staff
