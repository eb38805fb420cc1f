import RetailApp.Money
import RetailApp.Text
import RetailApp.Library.Table

namespace RetailApp

/-- Microseconds, the resolution of a datetime. -/
abbrev Time := Int

def timedeltaMinutes (minutes : Int) : Time := minutes * 60 * 1000000

def timedeltaDays (days : Int) : Time := timedeltaMinutes (days * 24 * 60)

structure Permission where
  code : String
  deriving DecidableEq

structure Role where
  permissions : List Permission
  deriving DecidableEq

structure User where
  id : Nat
  isSuperuser : Bool
  roles : List Role
  deriving DecidableEq

/-- A row of the users table; a `User` is what a session makes of it and its key. -/
structure UserRow where
  username : String
  passwordHash : String
  failedLoginAttempts : Nat
  lockedUntil : Option Time
  lastLoginAt : Option Time
  isSuperuser : Bool
  isActive : Bool
  isDeleted : Bool
  roles : List Role
  deriving DecidableEq

structure SessionToken where
  userId : Nat
  tokenHash : String
  refreshTokenHash : String
  expiresAt : Time
  refreshExpiresAt : Time
  isRevoked : Bool
  deriving DecidableEq

structure Product where
  name : String
  namePinyin : String
  barcode : String
  internalCode : String
  unitPrice : Amount
  isActive : Bool
  isDeleted : Bool
  isAvailableForSale : Bool
  isPosVisible : Bool
  deriving DecidableEq

structure PromotionRule where
  name : String
  ruleType : String
  thresholdAmount : Option Amount
  discountAmount : Option Amount
  buyQuantity : Option Int
  getQuantity : Option Int
  tierQuantity : Option Int
  tierUnitPrice : Option Amount
  purchaseLimitQuantity : Option Int
  appliesToProductId : Option Nat
  isActive : Bool
  priority : Int
  details : Option String
  deriving DecidableEq

inductive OrderStatus where
  | pending
  | partiallyPaid
  | settled
  | void
  deriving DecidableEq, Repr

def OrderStatus.value : OrderStatus → String
  | .pending => "pending"
  | .partiallyPaid => "partially_paid"
  | .settled => "settled"
  | .void => "void"

structure Order where
  orderNo : String
  cashierUserId : Nat
  status : OrderStatus
  subtotalAmount : Amount
  itemDiscountTotal : Amount
  orderDiscountTotal : Amount
  promotionDiscountTotal : Amount
  finalAmount : Amount
  paidAmount : Amount
  createdAt : Time
  settledAt : Option Time
  voidedAt : Option Time
  voidReason : Option String
  deriving DecidableEq

structure OrderLine where
  orderId : Nat
  productId : Nat
  productNameSnapshot : String
  productBarcodeSnapshot : String
  quantity : Nat
  unitPrice : Amount
  lineSubtotal : Amount
  itemDiscountAmount : Amount
  promotionDiscountAmount : Amount
  finalLineAmount : Amount
  deriving DecidableEq

inductive PaymentMethod where
  | cash
  | bankCard
  | storedValue
  deriving DecidableEq, Repr

def PaymentMethod.value : PaymentMethod → String
  | .cash => "cash"
  | .bankCard => "bank_card"
  | .storedValue => "stored_value"

inductive PaymentStatus where
  | completed
  deriving DecidableEq, Repr

structure PaymentRecord where
  orderId : Nat
  cashierUserId : Nat
  method : PaymentMethod
  amount : Amount
  status : PaymentStatus
  offlineApprovalCode : Option String
  externalReference : Option String
  createdAt : Time
  deriving DecidableEq

inductive AfterSalesType where
  | goodsReturn
  | exchange
  | refund
  deriving DecidableEq, Repr

inductive AfterSalesStatus where
  | created
  | approved
  | rejected
  | completed
  deriving DecidableEq, Repr

structure AfterSalesOrder where
  originalOrderId : Nat
  staffUserId : Nat
  afterSalesType : AfterSalesType
  status : AfterSalesStatus
  requestedAmount : Amount
  approvedAmount : Amount
  idempotencyKey : Option String
  reason : Option String
  note : Option String
  createdAt : Time
  deriving DecidableEq

inductive ProjectStatus where
  | draft
  | submitted
  | rejected
  | deactivated
  deriving DecidableEq, Repr

def ProjectStatus.value : ProjectStatus → String
  | .draft => "draft"
  | .submitted => "submitted"
  | .rejected => "rejected"
  | .deactivated => "deactivated"

structure Project where
  applicantUserId : Nat
  assignedReviewerUserId : Option Nat
  name : Varchar 160
  category : Varchar 80
  description : String
  contactPhoneEncrypted : Option String
  status : ProjectStatus
  currentVersion : Nat
  rejectionReason : Option (Varchar 255)
  reviewedByUserId : Option Nat
  reviewedAt : Option Time
  isActive : Bool
  createdAt : Time
  updatedAt : Time
  deriving DecidableEq

/-- What `snapshot_json` holds, as `json.loads` gives it back. -/
structure Snapshot where
  name : String
  category : String
  description : String
  contactPhoneEncrypted : Option String
  status : ProjectStatus
  deriving DecidableEq

structure ProjectVersion where
  projectId : Nat
  versionNo : Nat
  snapshotJson : Snapshot
  diffSummary : String
  submittedByUserId : Nat
  createdAt : Time
  deriving DecidableEq

/-- The JSON object of an audit row, one constructor for each action that writes one. -/
inductive AuditDetails where
  | orderCreate (orderNo : String) (finalAmount : ℚ)
  | paymentSettle (orderNo : String) (settleAmount paidAmount : ℚ) (orderStatus : OrderStatus)
  | afterSalesReturn (originalOrderId : Nat) (amount : ℚ)
  | afterSalesExchange (originalOrderId : Nat)
  | reverseSettlement (originalOrderId : Nat) (refundAmount : ℚ) (idempotencyKey : String)
      (newPaidAmount : ℚ)
  | autoVoid (orderNo : String)
  | operationConfigCreate (configKey : String) (rolloutPercent : Int) (version : Nat)
  | operationConfigRollout (rolloutPercent : Int)
  | operationConfigRollback (rolledBackTo : Nat) (configKey : String)
  | projectCreate (status : ProjectStatus)
  | projectEdit (status : ProjectStatus)
  | projectSubmission (versionNo : Nat) (submissionNote : Option String)
  | projectReject (reason : String)
  | projectDeactivate (reason : String)
  | authLoginFailed (failedLoginAttempts : Nat)
  | userCreate (username : String)
  | noDetails
  deriving DecidableEq

structure ImmutableAuditLog where
  actorUserId : Option Nat
  action : String
  entityType : String
  entityId : Nat
  details : AuditDetails
  deriving DecidableEq

structure OperationConfiguration where
  configKey : String
  configValue : String
  rolloutPercent : Int
  version : Nat
  previousConfigId : Option Nat
  isActive : Bool
  isRolledBack : Bool
  changedByUserId : Option Nat
  createdAt : Time
  deriving DecidableEq

inductive NotificationChannel where
  | inSite
  | inProcess
  deriving DecidableEq, Repr

def NotificationChannel.value : NotificationChannel → String
  | .inSite => "in_site"
  | .inProcess => "in_process"

structure Notification where
  recipientUserId : Nat
  eventType : String
  objectType : String
  objectId : String
  channel : NotificationChannel
  title : String
  message : String
  isDelivered : Bool
  deliveredAt : Option Time
  isRead : Bool
  readAt : Option Time
  createdAt : Time
  deriving DecidableEq

structure NotificationSubscription where
  userId : Nat
  eventType : String
  objectType : Option String
  channel : String
  isActive : Bool
  createdAt : Time
  deriving DecidableEq

structure SensitiveAccessLog where
  actorUserId : Option Nat
  targetUserId : Option Nat
  fieldName : String
  action : String
  reason : Option String
  deriving DecidableEq

structure Attachment where
  ownerUserId : Nat
  entityType : Option String
  entityId : Option String
  fileName : Varchar 255
  contentType : String
  fileSizeBytes : Int
  fingerprintSha256 : String
  storageKey : Option String
  isActive : Bool
  isDeleted : Bool
  createdAt : Time
  deriving DecidableEq

/-- The tables of the order, payment and after-sales domains, and those they read. -/
structure Db where
  products : Table Product
  promotionRules : Table PromotionRule
  orders : Table Order
  orderLines : Table OrderLine
  paymentRecords : Table PaymentRecord
  afterSalesOrders : Table AfterSalesOrder
  auditLogs : Table ImmutableAuditLog
  deriving DecidableEq

def Db.start (products : Table Product) (promotionRules : Table PromotionRule) : Db where
  products := products
  promotionRules := promotionRules
  orders := Table.empty
  orderLines := Table.empty
  paymentRecords := Table.empty
  afterSalesOrders := Table.empty
  auditLogs := Table.empty

/-- What one call takes from outside the tables: the clock (`utcnow()` and the database's
`now()`), the order number drawn from `uuid4`, `str.lower`, and the orders in which queries
without ORDER BY return products, orders and order lines. -/
structure Env where
  now : Time
  orderNo : String
  lower : String → String
  rowOrder : RowOrder (Nat × Product)
  orderRows : RowOrder (Nat × Order)
  lineRows : RowOrder (Nat × OrderLine)

end RetailApp
