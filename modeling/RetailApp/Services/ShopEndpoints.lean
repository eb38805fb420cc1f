import RetailApp.Services.AccessAdmin
import RetailApp.Services.AfterSalesService
import RetailApp.Services.OrderService
import RetailApp.Services.PaymentService

/-! The endpoints of the shop, each behind the permission it asks for, and the responses that the
application's handlers make of what is raised. -/

namespace RetailApp

open Transaction

/-- The accounts with what they may do, and the tables of the shop. -/
structure ShopBackend where
  access : AccessDb
  shop : Db

abbrev ShopEndpoint (α : Type) := Session ShopBackend Raised α

def onShop {α : Type} (service : Service α) : ShopEndpoint α := fun db =>
  match service db.shop with
  | .ok value written => .ok value { db with shop := written }
  | .error raised written => .error raised { db with shop := written }

/-- A handler behind `require_permission`, for the user that the token of a request belongs to. -/
def permitted {α : Type} (permissionCode : String) (userId : Nat) (handler : User → Service α) :
    ShopEndpoint α := do
  let user ← attempt (loadCurrentUser (← get).access userId)
  let user ← attempt (requirePermission permissionCode user)
  onShop (handler user)

def createOrderEndpoint (env : Env) (payload : OrderCreateRequest) (userId : Nat) :
    ShopEndpoint OrderResponse :=
  permitted "order:create" userId (fun user => createOrder env user payload)

def listOrdersEndpoint (env : Env) (limit userId : Nat) : ShopEndpoint (List OrderResponse) :=
  permitted "order:read" userId (fun _ => return listOrders (← get) env limit)

def getOrderEndpoint (env : Env) (orderId userId : Nat) : ShopEndpoint OrderResponse :=
  permitted "order:read" userId (fun _ => do attempt (getOrder (← get) env orderId))

def createPromotionRuleEndpoint (payload : PromotionRuleCreateRequest) (userId : Nat) :
    ShopEndpoint (Nat × String) :=
  permitted "promotion:manage" userId (fun _ =>
    (fun entry => (entry.1, entry.2.name)) <$> createPromotionRule payload)

def expireUnpaidOrdersEndpoint (env : Env) (userId : Nat) : ShopEndpoint (Nat × Nat) :=
  permitted "order:manage" userId (fun _ => expireUnpaidOrders env)

def settleOrderPaymentEndpoint (env : Env) (payload : PaymentSettleRequest) (userId : Nat) :
    ShopEndpoint PaymentSettleResponse :=
  permitted "payment:settle" userId (fun user => settleOrder env user payload)

def listOrderPaymentsEndpoint (orderId userId : Nat) :
    ShopEndpoint (List PaymentRecordResponse) :=
  permitted "payment:read" userId (fun _ =>
    return (listPaymentsByOrder (← get) orderId).map toPaymentRecordResponse)

def createReturnEndpoint (env : Env) (payload : ReturnRequest) (userId : Nat) :
    ShopEndpoint AfterSalesResponse :=
  permitted "after_sales:handle" userId (fun user => createReturn env user payload)

def createExchangeEndpoint (env : Env) (payload : ExchangeRequest) (userId : Nat) :
    ShopEndpoint AfterSalesResponse :=
  permitted "after_sales:handle" userId (fun user => createExchange env user payload)

def reverseSettlementEndpoint (env : Env) (payload : ReverseSettlementRequest) (userId : Nat) :
    ShopEndpoint AfterSalesResponse :=
  permitted "after_sales:refund" userId (fun user => reverseSettlementRefund env user payload)

def createProductEndpoint (env : Env) (payload : ProductCreateRequest) (userId : Nat) :
    ShopEndpoint (Nat × String × String) :=
  permitted "product:manage" userId (fun _ =>
    (fun entry => (entry.1, entry.2.barcode, entry.2.internalCode)) <$> createProduct env payload)

def updateProductStatusEndpoint (productId : Nat) (payload : ProductStatusUpdateRequest)
    (userId : Nat) : ShopEndpoint ProductSearchResponse :=
  permitted "product:manage" userId (fun _ => updateProductStatus productId payload)

structure ErrorResponse where
  statusCode : Nat
  errorCode : String
  message : String
  deriving DecidableEq

/-- `app_exception_handler`, and `unhandled_exception_handler` for everything else. -/
def errorResponse : Raised → ErrorResponse
  | .validation message => ⟨422, "VALIDATION_ERROR", message⟩
  | .authentication message => ⟨401, "AUTHENTICATION_ERROR", message⟩
  | .authorization message => ⟨403, "AUTHORIZATION_ERROR", message⟩
  | .notFound message => ⟨404, "NOT_FOUND", message⟩
  | .conflict message => ⟨409, "CONFLICT", message⟩
  | .security message => ⟨423, "SECURITY_ERROR", message⟩
  | .integrityError _ => ⟨500, "INTERNAL_ERROR", "An internal error occurred"⟩
  | .dataError _ => ⟨500, "INTERNAL_ERROR", "An internal error occurred"⟩
  | .pendingRollbackError => ⟨500, "INTERNAL_ERROR", "An internal error occurred"⟩
  | .objectDeletedError => ⟨500, "INTERNAL_ERROR", "An internal error occurred"⟩
  | .zeroDivisionError => ⟨500, "INTERNAL_ERROR", "An internal error occurred"⟩
  | .attributeError => ⟨500, "INTERNAL_ERROR", "An internal error occurred"⟩

end RetailApp
