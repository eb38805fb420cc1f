import RetailApp.Models

/-! Request bodies as pydantic hands them to the services: the bounds of the schema are
fields, so a value that fails them cannot be built. -/

namespace RetailApp

/-- A discount that the request leaves out is `none`: the default of the schema is not validated
and stays the int 0. -/
structure OrderLineCreateRequest where
  productQuery : String
  quantity : Nat
  itemDiscountAmount : Option ℚ
  queryLength : 1 ≤ productQuery.length ∧ productQuery.length ≤ 255
  quantityBounds : 1 ≤ quantity ∧ quantity ≤ 999
  discountNonneg : ∀ discount ∈ itemDiscountAmount, 0 ≤ discount

structure OrderCreateRequest where
  lines : List OrderLineCreateRequest
  orderDiscountAmount : Option ℚ
  someLine : lines ≠ []
  discountNonneg : ∀ discount ∈ orderDiscountAmount, 0 ≤ discount

structure PromotionRuleCreateRequest where
  name : String
  ruleType : String
  thresholdAmount : Option ℚ
  discountAmount : Option ℚ
  buyQuantity : Option Int
  getQuantity : Option Int
  tierQuantity : Option Int
  tierUnitPrice : Option ℚ
  purchaseLimitQuantity : Option Int
  appliesToProductId : Option Nat
  priority : Int
  nameLength : 2 ≤ name.length ∧ name.length ≤ 120
  thresholdNonneg : ∀ threshold ∈ thresholdAmount, 0 ≤ threshold
  discountNonneg : ∀ discount ∈ discountAmount, 0 ≤ discount
  buyPositive : ∀ buy ∈ buyQuantity, 1 ≤ buy
  getPositive : ∀ free ∈ getQuantity, 1 ≤ free
  tierPositive : ∀ tier ∈ tierQuantity, 1 ≤ tier
  tierPriceNonneg : ∀ price ∈ tierUnitPrice, 0 ≤ price
  limitPositive : ∀ limit ∈ purchaseLimitQuantity, 1 ≤ limit
  priorityBounds : 1 ≤ priority ∧ priority ≤ 1000

structure PaymentLineRequest where
  method : String
  amount : ℚ
  offlineApprovalCode : Option String
  externalReference : Option String
  positive : 0 < amount

structure PaymentSettleRequest where
  orderId : Nat
  payments : List PaymentLineRequest
  somePayment : payments ≠ []

structure ReturnRequest where
  originalOrderId : Nat
  refundAmount : ℚ
  reason : Option String
  positive : 0 < refundAmount

structure ExchangeRequest where
  originalOrderId : Nat
  note : Option String

structure ReverseSettlementRequest where
  originalOrderId : Nat
  refundAmount : ℚ
  idempotencyKey : String
  reason : Option String
  positive : 0 < refundAmount
  keyLength : 8 ≤ idempotencyKey.length ∧ idempotencyKey.length ≤ 128

structure OrderLineResponse where
  id : Nat
  productId : Nat
  productNameSnapshot : String
  productBarcodeSnapshot : String
  quantity : Nat
  unitPrice : ℚ
  lineSubtotal : ℚ
  itemDiscountAmount : ℚ
  promotionDiscountAmount : ℚ
  finalLineAmount : ℚ
  deriving DecidableEq

structure OrderResponse where
  id : Nat
  orderNo : String
  cashierUserId : Nat
  status : OrderStatus
  subtotalAmount : ℚ
  itemDiscountTotal : ℚ
  orderDiscountTotal : ℚ
  promotionDiscountTotal : ℚ
  finalAmount : ℚ
  paidAmount : ℚ
  createdAt : Time
  settledAt : Option Time
  voidedAt : Option Time
  voidReason : Option String
  lines : List OrderLineResponse
  deriving DecidableEq

structure PaymentRecordResponse where
  id : Nat
  orderId : Nat
  cashierUserId : Nat
  method : PaymentMethod
  amount : ℚ
  status : PaymentStatus
  createdAt : Time
  deriving DecidableEq

structure PaymentSettleResponse where
  orderId : Nat
  orderStatus : OrderStatus
  paidAmount : ℚ
  finalAmount : ℚ
  remainingAmount : ℚ
  paymentRecords : List PaymentRecordResponse
  deriving DecidableEq

structure AfterSalesResponse where
  id : Nat
  originalOrderId : Nat
  staffUserId : Nat
  afterSalesType : AfterSalesType
  status : AfterSalesStatus
  requestedAmount : ℚ
  approvedAmount : ℚ
  idempotencyKey : Option String
  reason : Option String
  note : Option String
  createdAt : Time
  deriving DecidableEq

structure OperationConfigCreateRequest where
  configKey : String
  configValue : String
  rolloutPercent : Int
  keyLength : 2 ≤ configKey.length ∧ configKey.length ≤ 128
  valueLength : 2 ≤ configValue.length ∧ configValue.length ≤ 10000
  rolloutBounds : 0 ≤ rolloutPercent ∧ rolloutPercent ≤ 100

structure OperationConfigResponse where
  id : Nat
  configKey : String
  configValue : String
  rolloutPercent : Int
  version : Nat
  previousConfigId : Option Nat
  isActive : Bool
  isRolledBack : Bool
  changedByUserId : Option Nat
  createdAt : Time
  deriving DecidableEq

structure UserCreateRequest where
  username : BoundedText 3 64
  password : BoundedText 8 128
  idNumber : Option String
  contactInfo : Option String

structure LoginRequest where
  username : String
  password : String

structure ChangePasswordRequest where
  oldPassword : String
  newPassword : BoundedText 8 128

structure TokenResponse where
  accessToken : String
  refreshToken : String
  expiresAt : Time
  deriving DecidableEq

structure ProjectCreateRequest where
  name : BoundedText 2 160
  category : BoundedText 2 80
  description : BoundedText 10 5000
  contactPhone : Option String
  assignedReviewerUserId : Option Nat

structure ProjectEditRequest where
  name : Option (BoundedText 2 160)
  category : Option (BoundedText 2 80)
  description : Option (BoundedText 10 5000)
  contactPhone : Option String

structure ProjectSubmitRequest where
  submissionNote : Option (BoundedText 0 255)

structure ProjectRejectRequest where
  reason : BoundedText 3 255

structure ProjectResubmitRequest where
  submissionNote : Option (BoundedText 0 255)

structure ProjectDeactivateRequest where
  reason : BoundedText 3 255

structure ProjectResponse where
  id : Nat
  applicantUserId : Nat
  assignedReviewerUserId : Option Nat
  name : String
  category : String
  description : String
  status : ProjectStatus
  currentVersion : Nat
  rejectionReason : Option String
  reviewedByUserId : Option Nat
  reviewedAt : Option Time
  createdAt : Time
  updatedAt : Time
  deriving DecidableEq

structure ProjectVersionResponse where
  id : Nat
  projectId : Nat
  versionNo : Nat
  snapshotJson : Snapshot
  diffSummary : String
  submittedByUserId : Nat
  createdAt : Time
  deriving DecidableEq

structure ProductCreateRequest where
  name : BoundedText 2 255
  namePinyin : BoundedText 1 255
  barcode : BoundedText 4 64
  internalCode : BoundedText 2 64
  unitPrice : ℚ
  isAvailableForSale : Bool
  isPosVisible : Bool
  pricePositive : 0 < unitPrice

structure ProductQuickMatchItem where
  id : Nat
  name : String
  barcode : String
  internalCode : String
  unitPrice : ℚ
  deriving DecidableEq

structure AddToCartRequest where
  query : String
  quantity : Nat
  queryLength : 1 ≤ query.length ∧ query.length ≤ 255
  quantityBounds : 1 ≤ quantity ∧ quantity ≤ 999

structure PreCheckoutItem where
  productId : Nat
  barcode : String
  internalCode : String
  name : String
  quantity : Nat
  unitPrice : ℚ
  lineTotal : ℚ
  deriving DecidableEq

structure ProductStatusUpdateRequest where
  isActive : Option Bool
  isAvailableForSale : Option Bool
  isPosVisible : Option Bool

structure ProductSearchResponse where
  id : Nat
  name : String
  namePinyin : String
  barcode : String
  internalCode : String
  unitPrice : ℚ
  isActive : Bool
  isAvailableForSale : Bool
  isPosVisible : Bool
  deriving DecidableEq

structure NotificationSubscribeRequest where
  eventType : BoundedText 2 128
  objectType : Option String
  channel : String

structure NotificationEventTriggerRequest where
  recipientUserId : Nat
  eventType : BoundedText 2 128
  objectType : BoundedText 2 64
  objectId : BoundedText 1 64
  title : BoundedText 2 255
  message : BoundedText 2 5000

structure NotificationResponse where
  id : Nat
  recipientUserId : Nat
  eventType : String
  objectType : String
  objectId : String
  channel : String
  title : String
  message : String
  isDelivered : Bool
  deliveredAt : Option Time
  isRead : Bool
  readAt : Option Time
  createdAt : Time
  deriving DecidableEq

structure NotificationSubscriptionResponse where
  id : Nat
  userId : Nat
  eventType : String
  objectType : Option String
  channel : String
  isActive : Bool
  createdAt : Time
  deriving DecidableEq

structure AttachmentCreateRequest where
  fileName : BoundedText 1 255
  contentType : String
  fileSizeBytes : Int
  fileContentBase64 : String
  entityType : Option String
  entityId : Option String
  sizePositive : 0 < fileSizeBytes
  contentLength : 1 ≤ fileContentBase64.length

structure AttachmentResponse where
  id : Nat
  ownerUserId : Nat
  entityType : Option String
  entityId : Option String
  fileName : String
  contentType : String
  fileSizeBytes : Int
  fingerprintSha256 : String
  createdAt : Time
  deriving DecidableEq

end RetailApp
