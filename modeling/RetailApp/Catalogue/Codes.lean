import RetailApp.Library.Runs
import RetailApp.Services.ProductService

/-! Whether a scan of a product's own codes finds that product. A code is unique in its column
only, and a scan looks it up in three columns at once. -/

namespace RetailApp.Catalogue

open Transaction

inductive Call where
  | createProduct (env : Env) (payload : ProductCreateRequest)
  | updateProductStatus (productId : Nat) (payload : ProductStatusUpdateRequest)

def step (db : Db) : Call → Db
  | .createProduct env payload => after (RetailApp.createProduct env payload) db
  | .updateProductStatus productId payload =>
      after (RetailApp.updateProductStatus productId payload) db

def run (calls : List Call) : Db := Runs.run step (Db.start Table.empty Table.empty) calls

/-- A row as `create_product` stores it: its codes have no space around them. -/
structure Tidy (product : Product) : Prop where
  barcode : strip product.barcode = product.barcode
  internalCode : strip product.internalCode = product.internalCode
  present : product.isDeleted = false

structure Kept (db : Db) : Prop where
  tidy : ∀ product ∈ db.products.rows, Tidy product
  barcodes : (db.products.rows.map (·.barcode)).Nodup
  internalCodes : (db.products.rows.map (·.internalCode)).Nodup

/-- The code says something, and no other product, active or not, has it in any column that a
scan looks at. -/
structure Owns (lower : String → String) (db : Db) (productId : Nat) (code : String) : Prop where
  nonblank : code ≠ ""
  alone : ∀ otherId other, db.products.get? otherId = some other → otherId ≠ productId →
    other.barcode ≠ code ∧ other.internalCode ≠ code ∧ other.namePinyin ≠ lower code

def scans (lower : String → String) (code : String) (product : Product) : Bool :=
  product.barcode == code || product.internalCode == code || product.namePinyin == lower code

theorem scans_iff (lower : String → String) (code : String) (product : Product) :
    scans lower code product = true ↔ product.barcode = code ∨ product.internalCode = code ∨
      product.namePinyin = lower code := by
  simp [scans, or_assoc]

theorem newProduct_tidy (env : Env) (payload : ProductCreateRequest) (product : Product)
    (made : newProduct env payload = .ok product) : Tidy product := by
  simp only [newProduct, bind_except_ok, pure_except_ok] at made
  obtain ⟨_, _, _, _, rfl⟩ := made
  exact ⟨strip_strip _, strip_strip _, rfl⟩

theorem insertProduct_ok (row : Product) (db db' : Db) (productId : Nat)
    (inserted : insertProduct row db = .ok productId db') :
    row.barcode ∉ db.products.rows.map (·.barcode) ∧
      row.internalCode ∉ db.products.rows.map (·.internalCode) ∧
      db' = { db with products := db.products.insert row } := by
  simp only [insertProduct, bind_ok, get_ok, attempt_ok, set_ok, pure_ok, raiseIf_ok] at inserted
  obtain ⟨_, _, ⟨rfl, rfl⟩, _, _, ⟨freeBarcode, rfl⟩, _, _, ⟨freeCode, rfl⟩, _, _, rfl, _, rfl⟩ :=
    inserted
  refine ⟨?_, ?_, rfl⟩
  · simpa [List.any_eq_true] using freeBarcode
  · simpa [List.any_eq_true] using freeCode

theorem createProduct_written (env : Env) (payload : ProductCreateRequest) (db : Db) :
    after (createProduct env payload) db = db ∨
      ∃ product, newProduct env payload = .ok product ∧
        product.barcode ∉ db.products.rows.map (·.barcode) ∧
        product.internalCode ∉ db.products.rows.map (·.internalCode) ∧
        after (createProduct env payload) db =
          { db with products := db.products.insert product } := by
  cases outcome : addProduct env payload db with
  | error raised written =>
      have same : written = db := transactional_error _ db written raised outcome
      left
      rw [after, createProduct, outcome, same]
      cases raised <;> rfl
  | ok entry written =>
      right
      have returned := (transactional_ok _ db written entry).mp outcome
      simp only [bind_ok, attempt_ok, pure_ok] at returned
      obtain ⟨product, _, ⟨made, rfl⟩, productId, _, inserted, rfl, rfl⟩ := returned
      obtain ⟨freeBarcode, freeCode, rfl⟩ := insertProduct_ok product db _ productId inserted
      refine ⟨product, made, freeBarcode, freeCode, ?_⟩
      rw [after, createProduct, outcome]

theorem createProduct_cases (env : Env) (payload : ProductCreateRequest) (db : Db) :
    step db (.createProduct env payload) = db ∨
      ∃ product, Tidy product ∧ product.barcode ∉ db.products.rows.map (·.barcode) ∧
        product.internalCode ∉ db.products.rows.map (·.internalCode) ∧
        step db (.createProduct env payload) =
          { db with products := db.products.insert product } := by
  rcases createProduct_written env payload db with
    same | ⟨product, made, freeBarcode, freeCode, new⟩
  · left
    exact same
  · right
    exact ⟨product, newProduct_tidy env payload product made, freeBarcode, freeCode, new⟩

theorem updateProductStatus_products (productId : Nat) (payload : ProductStatusUpdateRequest)
    (db : Db) :
    step db (.updateProductStatus productId payload) = db ∨
      step db (.updateProductStatus productId payload) =
        { db with products := db.products.modify productId (statusUpdated payload) } := by
  cases found : db.products.get? productId with
  | none =>
      left
      simp [step, after, updateProductStatus, run_bind, found]
  | some product =>
      right
      simp [step, after, updateProductStatus, run_bind, run_map, found, transactional]

theorem statusUpdated_tidy (payload : ProductStatusUpdateRequest) (product : Product)
    (tidy : Tidy product) : Tidy (statusUpdated payload product) := by
  refine ⟨tidy.barcode, tidy.internalCode, ?_⟩
  rw [statusUpdated]
  dsimp only
  split
  · rfl
  · exact tidy.present

theorem step_kept (db : Db) (call : Call) (kept : Kept db) : Kept (step db call) := by
  cases call with
  | createProduct env payload =>
      rcases createProduct_cases env payload db with
        same | ⟨product, tidy, freeBarcode, freeCode, new⟩
      · rw [same]
        exact kept
      · rw [new]
        refine ⟨?_, ?_, ?_⟩
        · intro row member
          rcases List.mem_append.mp member with old | added
          · exact kept.tidy row old
          · rw [List.mem_singleton.mp added]
            exact tidy
        · rw [Table.insert, List.map_append, List.map_singleton, List.nodup_append_comm,
            List.singleton_append, List.nodup_cons]
          exact ⟨freeBarcode, kept.barcodes⟩
        · rw [Table.insert, List.map_append, List.map_singleton, List.nodup_append_comm,
            List.singleton_append, List.nodup_cons]
          exact ⟨freeCode, kept.internalCodes⟩
  | updateProductStatus productId payload =>
      rcases updateProductStatus_products productId payload db with same | changed
      · rw [same]
        exact kept
      · rw [changed]
        refine ⟨?_, ?_, ?_⟩
        · intro row member
          obtain ⟨key, found⟩ := (Table.mem_rows _ row).mp member
          rw [Table.get?_modify] at found
          split at found
          · obtain ⟨old, present, rfl⟩ := Option.map_eq_some_iff.mp found
            exact statusUpdated_tidy payload old
              (kept.tidy old ((Table.mem_rows _ old).mpr ⟨key, present⟩))
          · exact kept.tidy row ((Table.mem_rows _ row).mpr ⟨key, found⟩)
        · have same := Table.map_modify db.products productId (statusUpdated payload) (·.barcode)
            (fun _ => rfl)
          exact same.symm ▸ kept.barcodes
        · have same := Table.map_modify db.products productId (statusUpdated payload)
            (·.internalCode) (fun _ => rfl)
          exact same.symm ▸ kept.internalCodes

theorem run_kept (calls : List Call) : Kept (run calls) := by
  refine Runs.run_preserves step Kept step_kept _ calls ?_
  exact ⟨fun _ member => (nomatch member), List.nodup_nil, List.nodup_nil⟩

theorem findProductByQuery_ok (db : Db) (env : Env) (query : String) (allowInactive : Bool)
    (found : Nat × Product) :
    findProductByQuery db env query allowInactive = .ok found ↔
      strip query ≠ "" ∧
        (db.products.select env.rowOrder (scans env.lower (strip query))).head? = some found ∧
        ¬ (allowInactive = false ∧ (found.2.isActive = false ∨ found.2.isDeleted = true)) := by
  have condition : scans env.lower (strip query) = fun product : Product =>
      product.barcode == strip query || product.internalCode == strip query ||
        product.namePinyin == env.lower (strip query) := rfl
  simp only [findProductByQuery, bind_except_ok, raiseIf_ok, condition]
  generalize db.products.select env.rowOrder _ = rows
  cases rows with
  | nil => simp
  | cons head tail =>
      simp only [bind_except_ok, raiseIf_ok, pure_except_ok, List.head?_cons, Option.some.injEq]
      constructor
      · rintro ⟨_, nonblank, _, allowed, rfl⟩
        exact ⟨nonblank, rfl, allowed⟩
      · rintro ⟨nonblank, rfl, allowed⟩
        exact ⟨(), nonblank, (), allowed, rfl⟩

section Scan

variable (lower : String → String) (db : Db) (productId : Nat) (product : Product)
  (present : db.products.get? productId = some product) (active : product.isActive = true)
  (tidy : Tidy product) (allowInactive : Bool)

include present active tidy in
theorem scan_code_iff (code : String) (stripped : strip code = code)
    (own : scans lower code product = true) :
    (∀ env : Env, env.lower = lower →
        findProductByQuery db env code allowInactive = .ok (productId, product)) ↔
      Owns lower db productId code := by
  have usable :
      ¬ (allowInactive = false ∧ (product.isActive = false ∨ product.isDeleted = true)) := by
    simp [active, tidy.present]
  have heads := Table.select_head_iff db.products (scans lower code) productId product present own
  constructor
  · intro always
    have each (order : RowOrder (Nat × Product)) := (findProductByQuery_ok db
      ⟨0, "", lower, order, RowOrder.byKey, RowOrder.byKey⟩ code allowInactive
      (productId, product)).mp (always _ rfl)
    have alone := heads.mp fun order => by
      have first := (each order).2.1
      rwa [stripped] at first
    refine ⟨?_, ?_⟩
    · have nonblank := (each RowOrder.byKey).1
      rwa [stripped] at nonblank
    · intro otherId other found apart
      have missed : ¬ scans lower code other = true :=
        fun hit => apart (alone otherId other found hit)
      rw [scans_iff, not_or, not_or] at missed
      exact missed
  · rintro ⟨nonblank, alone⟩ env rfl
    rw [findProductByQuery_ok, stripped]
    refine ⟨nonblank, heads.mpr ?_ env.rowOrder, usable⟩
    intro otherId other found hit
    by_contra apart
    obtain ⟨barcode, internalCode, pinyin⟩ := alone otherId other found apart
    rcases (scans_iff env.lower code other).mp hit with same | same | same
    · exact barcode same
    · exact internalCode same
    · exact pinyin same

end Scan

/-- In every product table that can arise, both codes of an active product find it, whatever
order the rows come in, exactly when the product owns both. -/
theorem own_codes_find_iff (calls : List Call) (productId : Nat) (product : Product)
    (present : (run calls).products.get? productId = some product)
    (active : product.isActive = true) (lower : String → String) (allowInactive : Bool) :
    (∀ env : Env, env.lower = lower →
        findProductByQuery (run calls) env product.barcode allowInactive =
            .ok (productId, product) ∧
          findProductByQuery (run calls) env product.internalCode allowInactive =
            .ok (productId, product)) ↔
      Owns lower (run calls) productId product.barcode ∧
        Owns lower (run calls) productId product.internalCode := by
  have tidy := (run_kept calls).tidy product ((Table.mem_rows _ product).mpr ⟨productId, present⟩)
  rw [← scan_code_iff lower (run calls) productId product present active tidy allowInactive
      product.barcode tidy.barcode ((scans_iff _ _ _).mpr (.inl rfl)),
    ← scan_code_iff lower (run calls) productId product present active tidy allowInactive
      product.internalCode tidy.internalCode ((scans_iff _ _ _).mpr (.inr (.inl rfl)))]
  constructor
  · intro both
    exact ⟨fun env same => (both env same).1, fun env same => (both env same).2⟩
  · rintro ⟨barcode, internalCode⟩ env same
    exact ⟨barcode env same, internalCode env same⟩

def listed (rowOrder : RowOrder (Nat × Product)) : Env :=
  ⟨0, "", id, rowOrder, RowOrder.byKey, RowOrder.byKey⟩

def colaAndMilk (milkCode : BoundedText 2 64) : List Call :=
  [.createProduct (listed RowOrder.byKey)
      ⟨⟨"Cola 500ml", by decide⟩, ⟨"kele", by decide⟩, ⟨"6901111111111", by decide⟩,
        ⟨"SKU-COLA-500", by decide⟩, 9 / 2, true, true, by norm_num⟩,
    .createProduct (listed RowOrder.byKey)
      ⟨⟨"Milk 1L", by decide⟩, ⟨"niunai", by decide⟩, ⟨"6903333333333", by decide⟩, milkCode,
        11 / 2, true, true, by norm_num⟩]

def cola (milkCode : BoundedText 2 64) : Option Product :=
  (run (colaAndMilk milkCode)).products.get? 1

theorem cola_found : ∃ product, cola ⟨"SKU-MILK-1L", by decide⟩ = some product ∧
    (Owns id (run (colaAndMilk ⟨"SKU-MILK-1L", by decide⟩)) 1 product.barcode ∧
      Owns id (run (colaAndMilk ⟨"SKU-MILK-1L", by decide⟩)) 1 product.internalCode ↔
    ∀ env : Env, env.lower = id →
      findProductByQuery (run (colaAndMilk ⟨"SKU-MILK-1L", by decide⟩)) env product.barcode false =
          .ok (1, product) ∧
        findProductByQuery (run (colaAndMilk ⟨"SKU-MILK-1L", by decide⟩)) env product.internalCode
          false = .ok (1, product)) := by
  have stored : (cola ⟨"SKU-MILK-1L", by decide⟩).map (·.isActive) = some true := by decide +kernel
  obtain ⟨product, present, active⟩ := Option.map_eq_some_iff.mp stored
  exact ⟨product, present, (own_codes_find_iff (colaAndMilk ⟨"SKU-MILK-1L", by decide⟩) 1 product
    present active id false).symm⟩

/-- Milk gets the barcode of the cola as its internal code, which no index refuses: a scan of
the cola finds the milk where the database returns that row first. -/
theorem cola_scanned_as_milk : ∃ product env,
    cola ⟨"6901111111111", by decide⟩ = some product ∧ product.isActive = true ∧
      product.barcode = "6901111111111" ∧
      (findProductByQuery (run (colaAndMilk ⟨"6901111111111", by decide⟩)) env product.barcode
        false).toOption.map (fun found => (found.1, found.2.name)) = some (2, "Milk 1L") := by
  have stored : (cola ⟨"6901111111111", by decide⟩).map (fun product =>
      (product.isActive, product.barcode)) = some (true, "6901111111111") := by decide +kernel
  obtain ⟨product, present, same⟩ := Option.map_eq_some_iff.mp stored
  obtain ⟨active, barcode⟩ := Prod.mk.inj same
  refine ⟨product, listed ⟨List.reverse, List.reverse_perm⟩, present, active, barcode, ?_⟩
  rw [barcode]
  decide +kernel

end RetailApp.Catalogue
