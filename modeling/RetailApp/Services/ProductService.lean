import RetailApp.Schemas
import RetailApp.Session
import RetailApp.Text
import RetailApp.Library.Like

namespace RetailApp

open Transaction

/-- `find_product_by_query`: the first matching row the database returns decides, and the
checks on it come after the match. -/
def findProductByQuery (db : Db) (env : Env) (query : String) (allowInactive : Bool) :
    Except Raised (Nat × Product) := do
  let cleaned := strip query
  raiseIf (cleaned = "") (.validation "Product query cannot be empty")
  match db.products.select env.rowOrder (fun product =>
      product.barcode == cleaned || product.internalCode == cleaned ||
        product.namePinyin == env.lower cleaned) with
  | [] => .error (.notFound "Product not found")
  | found :: _ => do
      raiseIf (allowInactive = false ∧ (found.2.isActive = false ∨ found.2.isDeleted = true))
        (.security "Product is inactive and cannot be used")
      return found

def toProductSearchResponse (entry : Nat × Product) : ProductSearchResponse where
  id := entry.1
  name := entry.2.name
  namePinyin := entry.2.namePinyin
  barcode := entry.2.barcode
  internalCode := entry.2.internalCode
  unitPrice := entry.2.unitPrice
  isActive := entry.2.isActive
  isAvailableForSale := entry.2.isAvailableForSale
  isPosVisible := entry.2.isPosVisible

/-- Stripping never lengthens, but lowering a text may, beyond the width of its column. -/
def newProduct (env : Env) (payload : ProductCreateRequest) : Except Raised Product := do
  let namePinyin ← varchar "name_pinyin" 255 (env.lower (strip payload.namePinyin.1))
  let unitPrice ← Amount.store "unit_price" payload.unitPrice
  return { name := strip payload.name.1
           namePinyin := namePinyin
           barcode := strip payload.barcode.1
           internalCode := strip payload.internalCode.1
           unitPrice := unitPrice
           isActive := true
           isDeleted := false
           isAvailableForSale := payload.isAvailableForSale
           isPosVisible := payload.isPosVisible }

def insertProduct (row : Product) : Service Nat := do
  let db ← get
  attempt (raiseIf (db.products.rows.any (·.barcode == row.barcode) = true)
    (.integrityError "ix_products_barcode"))
  attempt (raiseIf (db.products.rows.any (·.internalCode == row.internalCode) = true)
    (.integrityError "ix_products_internal_code"))
  set { db with products := db.products.insert row }
  return db.products.nextKey

def addProduct (env : Env) (payload : ProductCreateRequest) : Service (Nat × Product) :=
  transactional do
    let product ← attempt (newProduct env payload)
    let productId ← insertProduct product
    return (productId, product)

def createProduct (env : Env) (payload : ProductCreateRequest) : Service (Nat × Product) := fun db =>
  match addProduct env payload db with
  | .error (.integrityError _) written =>
      .error (.conflict "Product barcode or internal code already exists") written
  | outcome => outcome

structure ProductScopeContext where
  actorUserId : Nat
  actorIsSuperuser : Bool
  actorPermissions : List String

namespace ProductPolicy

def permissionCodes (actor : User) : List String :=
  actor.roles.flatMap (fun role => role.permissions.map (·.code))

def scopeContext (actor : User) : ProductScopeContext where
  actorUserId := actor.id
  actorIsSuperuser := actor.isSuperuser
  actorPermissions := permissionCodes actor

/-- Everybody may, until stores have owners. -/
def canAccessStoreProduct (context : ProductScopeContext) (_storeId : Option Nat) : Bool :=
  if context.actorIsSuperuser then true else true

end ProductPolicy

def buildPrecheckoutItem (db : Db) (env : Env) (actor : User) (payload : AddToCartRequest) :
    Except Raised PreCheckoutItem := do
  let (productId, product) ← findProductByQuery db env payload.query false
  let context := ProductPolicy.scopeContext actor
  raiseIf (ProductPolicy.canAccessStoreProduct context none = false)
    (.security "Product access denied by scope policy")
  raiseIf (product.isAvailableForSale = false) (.security "Product is not available for sale")
  raiseIf (product.isPosVisible = false) (.security "Product is not visible in POS")
  let lineTotal := product.unitPrice.value * (payload.quantity : ℚ)
  return { productId := productId
           barcode := product.barcode
           internalCode := product.internalCode
           name := product.name
           quantity := payload.quantity
           unitPrice := product.unitPrice
           lineTotal := lineTotal }

/-- What the database brings to a query: the escape character of LIKE, which standard SQL does
not have and PostgreSQL takes to be the backslash, and the order of texts under its collation. -/
structure Dialect where
  backslashEscapes : Bool
  collation : String → String → Bool

def Dialect.escape (dialect : Dialect) : Option Char :=
  if dialect.backslashEscapes then some '\\' else none

def toQuickMatchItem (entry : Nat × Product) : ProductQuickMatchItem where
  id := entry.1
  name := entry.2.name
  barcode := entry.2.barcode
  internalCode := entry.2.internalCode
  unitPrice := entry.2.unitPrice

def quickMatchProducts (dialect : Dialect) (db : Db) (env : Env) (query : String) (limit : Nat) :
    Except Raised (List ProductQuickMatchItem) := do
  let cleaned := strip query
  raiseIf (cleaned = "") (.validation "Query cannot be empty")
  let pattern := "%" ++ env.lower cleaned ++ "%"
  let products := (db.products.select env.rowOrder (fun product =>
      product.isActive && !product.isDeleted && product.isPosVisible &&
        (product.barcode == cleaned || product.internalCode == cleaned ||
          Like.like dialect.escape product.namePinyin pattern))).mergeSort
    (fun first second => dialect.collation first.2.name second.2.name)
  return (products.take limit).map toQuickMatchItem

/-- Activity first: a product that is deactivated is not deleted any more. -/
def statusUpdated (payload : ProductStatusUpdateRequest) (product : Product) : Product where
  name := product.name
  namePinyin := product.namePinyin
  barcode := product.barcode
  internalCode := product.internalCode
  unitPrice := product.unitPrice
  isActive := payload.isActive.getD product.isActive
  isDeleted := if payload.isActive = some false then false else product.isDeleted
  isAvailableForSale := payload.isAvailableForSale.getD product.isAvailableForSale
  isPosVisible := payload.isPosVisible.getD product.isPosVisible

def updateProductStatus (productId : Nat) (payload : ProductStatusUpdateRequest) :
    Service ProductSearchResponse := do
  let db ← get
  let product ← attempt
    (orRaise (db.products.get? productId) (.notFound "Product not found"))
  transactional (modify fun db =>
    { db with products := db.products.modify productId (statusUpdated payload) })
  return toProductSearchResponse (productId, statusUpdated payload product)

end RetailApp
