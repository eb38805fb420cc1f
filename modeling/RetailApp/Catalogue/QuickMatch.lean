import RetailApp.Ledger.Runs
import RetailApp.Services.ProductService

/-! What a quick match returns. The text of the cashier becomes part of a LIKE pattern, where
some characters do not stand for themselves. -/

namespace RetailApp.Catalogue

open Transaction

/-- A product the till may show, with the text as one of its codes or inside its pinyin. -/
def Matches (lower : String → String) (query : String) (product : Product) : Prop :=
  product.isActive = true ∧ product.isDeleted = false ∧ product.isPosVisible = true ∧
    (product.barcode = strip query ∨ product.internalCode = strip query ∨
      (lower (strip query)).toList <:+: product.namePinyin.toList)

instance (lower : String → String) (query : String) (product : Product) :
    Decidable (Matches lower query product) :=
  inferInstanceAs (Decidable (_ ∧ _))

structure OnlyMatches (lower : String → String) (query : String) (limit : Nat) (db : Db)
    (items : List ProductQuickMatchItem) : Prop where
  sound : ∀ item ∈ items, ∃ product, db.products.get? item.id = some product ∧
    item = toQuickMatchItem (item.id, product) ∧ Matches lower query product
  complete : db.products.rows.countP (fun product => Matches lower query product) < limit →
    ∀ productId product, db.products.get? productId = some product →
      Matches lower query product → toQuickMatchItem (productId, product) ∈ items

def hits (dialect : Dialect) (lower : String → String) (query : String) (product : Product) : Bool :=
  product.isActive && !product.isDeleted && product.isPosVisible &&
    (product.barcode == strip query || product.internalCode == strip query ||
      Like.like dialect.escape product.namePinyin ("%" ++ lower (strip query) ++ "%"))

theorem hits_iff (dialect : Dialect) (lower : String → String) (query : String)
    (product : Product) :
    hits dialect lower query product = true ↔
      product.isActive = true ∧ product.isDeleted = false ∧ product.isPosVisible = true ∧
        (product.barcode = strip query ∨ product.internalCode = strip query ∨
          Like.accepts (Like.read dialect.escape false
            ('%' :: ((lower (strip query)).toList ++ ['%']))) product.namePinyin.toList = true) := by
  have pattern : ("%" ++ lower (strip query) ++ "%").toList =
      '%' :: ((lower (strip query)).toList ++ ['%']) := by
    rw [String.toList_append, String.toList_append]
    rfl
  simp [hits, Like.like, Like.tokens, pattern, and_assoc, or_assoc]

def selected (dialect : Dialect) (db : Db) (env : Env) (query : String) : List (Nat × Product) :=
  (db.products.select env.rowOrder (hits dialect env.lower query)).mergeSort
    (fun first second => dialect.collation first.2.name second.2.name)

theorem quickMatchProducts_eq (dialect : Dialect) (db : Db) (env : Env) (query : String)
    (limit : Nat) (nonblank : strip query ≠ "") :
    quickMatchProducts dialect db env query limit =
      .ok (((selected dialect db env query).take limit).map toQuickMatchItem) := by
  rw [quickMatchProducts, raiseIf_neg _ _ nonblank]
  rfl

theorem selected_perm (dialect : Dialect) (db : Db) (env : Env) (query : String) :
    (selected dialect db env query).Perm
      (db.products.entries.filter (fun entry => hits dialect env.lower query entry.2)) :=
  (List.mergeSort_perm _ _).trans (env.rowOrder.perm _)

theorem mem_selected (dialect : Dialect) (db : Db) (env : Env) (query : String)
    (productId : Nat) (product : Product) :
    (productId, product) ∈ selected dialect db env query ↔
      db.products.get? productId = some product ∧
        hits dialect env.lower query product = true := by
  rw [(selected_perm dialect db env query).mem_iff, List.mem_filter, Table.mem_entries]

theorem onlyMatches_of_hits (dialect : Dialect) (db : Db) (env : Env) (query : String)
    (limit : Nat)
    (same : ∀ product, hits dialect env.lower query product = true ↔
      Matches env.lower query product) :
    OnlyMatches env.lower query limit db
      (((selected dialect db env query).take limit).map toQuickMatchItem) := by
  constructor
  · intro item member
    obtain ⟨⟨productId, product⟩, inside, rfl⟩ := List.mem_map.mp member
    obtain ⟨present, hit⟩ :=
      (mem_selected dialect db env query productId product).mp (List.mem_of_mem_take inside)
    exact ⟨product, present, rfl, (same product).mp hit⟩
  · intro room productId product present isMatch
    have count : (selected dialect db env query).length =
        db.products.rows.countP (fun product => Matches env.lower query product) := by
      rw [(selected_perm dialect db env query).length_eq,
        Table.length_filter_entries db.products (hits dialect env.lower query)]
      congr 1
      funext product
      rw [Bool.eq_iff_iff, decide_eq_true_iff, same]
    rw [List.take_of_length_le (count ▸ room.le)]
    exact List.mem_map_of_mem
      ((mem_selected dialect db env query productId product).mpr ⟨present, (same product).mpr isMatch⟩)

/-- A product with neither code, for the till to find by its pinyin alone. -/
def uncoded (query : String) (pinyin : List Char) : Product :=
  { Ledger.tea with
    namePinyin := String.ofList pinyin
    barcode := strip query ++ "-"
    internalCode := strip query ++ "-" }

def uncodedShop (query : String) (pinyin : List Char) : Db :=
  Db.start ⟨[uncoded query pinyin]⟩ Table.empty

theorem matches_uncoded (lower : String → String) (query : String) (pinyin : List Char) :
    Matches lower query (uncoded query pinyin) ↔ (lower (strip query)).toList <:+: pinyin := by
  simp [Matches, uncoded, Ledger.tea]

theorem hits_uncoded (dialect : Dialect) (lower : String → String) (query : String)
    (pinyin : List Char) :
    hits dialect lower query (uncoded query pinyin) = true ↔
      Like.accepts (Like.read dialect.escape false
        ('%' :: ((lower (strip query)).toList ++ ['%']))) pinyin = true := by
  rw [hits_iff]
  simp [uncoded, Ledger.tea]

theorem dialect_escape (dialect : Dialect) : dialect.escape ≠ some '%' := by
  rw [Dialect.escape]
  split
  · decide
  · exact nofun

/-- A text is looked up as it stands exactly when none of its characters means anything in a
pattern. -/
theorem quick_match_iff (dialect : Dialect) (env : Env) (query : String)
    (nonblank : strip query ≠ "") :
    (∀ db rowOrder limit, ∃ items,
        quickMatchProducts dialect db { env with rowOrder := rowOrder } query limit = .ok items ∧
          OnlyMatches env.lower query limit db items) ↔
      ∀ character ∈ (env.lower (strip query)).toList, Like.Plain dialect.escape character := by
  rw [← Like.contains_iff dialect.escape (dialect_escape dialect)]
  constructor
  · intro right pinyin
    obtain ⟨items, returned, only⟩ := right (uncodedShop query pinyin) env.rowOrder 2
    rw [quickMatchProducts_eq _ _ _ _ _ nonblank] at returned
    obtain rfl := Except.ok.inj returned
    rw [← hits_uncoded, ← matches_uncoded]
    have here : (uncodedShop query pinyin).products.get? 1 = some (uncoded query pinyin) := rfl
    have alone (productId : Nat) (product : Product)
        (present : (uncodedShop query pinyin).products.get? productId = some product) :
        product = uncoded query pinyin :=
      List.mem_singleton.mp ((Table.mem_rows _ product).mpr ⟨productId, present⟩)
    have few : (selected dialect (uncodedShop query pinyin) env query).length ≤ 2 := by
      rw [(selected_perm _ _ _ _).length_eq, Table.length_filter_entries]
      exact List.countP_le_length.trans (Nat.le_succ 1)
    rw [List.take_of_length_le few] at only
    constructor
    · intro hit
      have inside := (mem_selected dialect _ env query 1 _).mpr ⟨here, hit⟩
      obtain ⟨product, present, _, isMatch⟩ := only.sound _ (List.mem_map_of_mem inside)
      exact alone _ product present ▸ isMatch
    · intro isMatch
      have room : (uncodedShop query pinyin).products.rows.countP
          (fun product => Matches env.lower query product) < 2 :=
        Nat.lt_succ_of_le List.countP_le_length
      obtain ⟨entry, inside, _⟩ := List.mem_map.mp (only.complete room 1 _ here isMatch)
      obtain ⟨present, hit⟩ := (mem_selected dialect _ env query entry.1 entry.2).mp inside
      exact alone _ entry.2 present ▸ hit
  · intro means db rowOrder limit
    refine ⟨_, quickMatchProducts_eq dialect db _ query limit nonblank, ?_⟩
    apply onlyMatches_of_hits dialect db { env with rowOrder := rowOrder }
    intro product
    rw [hits_iff, Matches, means]

/-- PostgreSQL as it is installed, with names in the order of their characters. -/
def postgres : Dialect where
  backslashEscapes := true
  collation := fun first second => decide (first ≤ second)

theorem quick_match_iff_cha :
    (∀ db rowOrder limit, ∃ items,
        quickMatchProducts postgres db { Ledger.atTime 0 "" with rowOrder := rowOrder } "cha" limit =
            .ok items ∧
          OnlyMatches (Ledger.atTime 0 "").lower "cha" limit db items) ↔
      ∀ character ∈ ((Ledger.atTime 0 "").lower (strip "cha")).toList,
        Like.Plain postgres.escape character :=
  quick_match_iff postgres (Ledger.atTime 0 "") "cha" (by decide +kernel)

theorem quick_match_percent :
    quickMatchProducts postgres Ledger.teaShop (Ledger.atTime 0 "") "%" 10 =
        .ok [toQuickMatchItem (1, Ledger.tea)] ∧
      ¬ ∃ items, quickMatchProducts postgres Ledger.teaShop (Ledger.atTime 0 "") "%" 10 = .ok items ∧
        OnlyMatches (Ledger.atTime 0 "").lower "%" 10 Ledger.teaShop items := by
  have returned : quickMatchProducts postgres Ledger.teaShop (Ledger.atTime 0 "") "%" 10 =
      .ok [toQuickMatchItem (1, Ledger.tea)] := by decide +kernel
  refine ⟨returned, ?_⟩
  rintro ⟨items, outcome, only⟩
  obtain rfl := Except.ok.inj (returned.symm.trans outcome)
  obtain ⟨product, present, _, isMatch⟩ := only.sound _ (List.mem_singleton.mpr rfl)
  have tea : Ledger.teaShop.products.get? 1 = some Ledger.tea := rfl
  obtain rfl := Option.some.inj (tea.symm.trans present)
  exact absurd isMatch (by decide +kernel)

end RetailApp.Catalogue
