import RetailApp.Auth.Registration
import RetailApp.Catalogue.Codes
import RetailApp.Projects.Lifecycle

/-! Whether the stored texts keep the minimum lengths of the requests. A request is validated as it
was sent, and its texts are stripped afterwards. -/

namespace RetailApp.Validation

open Transaction

structure Backend where
  accounts : AuthDb
  catalogue : Db
  projects : ProjectDb

def Backend.start : Backend where
  accounts := AuthDb.start Table.empty
  catalogue := Db.start Table.empty Table.empty
  projects := ProjectDb.start []

/-- The calls that store a validated text, and the other project calls, which store none. -/
inductive Call where
  | createUser (env : RegistrationEnv) (payload : UserCreateRequest) (actorUserId : Option Nat)
  | createProduct (env : Env) (payload : ProductCreateRequest)
  | project (call : Projects.Call)

/-- A new account is one that projects may refer to. -/
def withAccounts (backend : Backend) (accounts : AuthDb) : Backend where
  accounts := accounts
  catalogue := backend.catalogue
  projects := { backend.projects with userIds := accounts.users.entries.map Prod.fst }

def step (backend : Backend) : Call → Backend
  | .createUser env payload actorUserId =>
      withAccounts backend (after (createUser env payload actorUserId) backend.accounts)
  | .createProduct env payload =>
      { backend with catalogue := after (createProduct env payload) backend.catalogue }
  | .project call => { backend with projects := Projects.step backend.projects call }

structure ProductInBounds (product : Product) : Prop where
  name : 2 ≤ product.name.length
  namePinyin : 1 ≤ product.namePinyin.length
  barcode : 4 ≤ product.barcode.length
  internalCode : 2 ≤ product.internalCode.length

structure ProjectInBounds (project : Project) : Prop where
  name : 2 ≤ project.name.1.length
  category : 2 ≤ project.category.1.length
  description : 10 ≤ project.description.length
  rejectionReason : ∀ reason ∈ project.rejectionReason, 3 ≤ reason.1.length

/-- Every stored text is as long as its request schema demands. -/
structure InBounds (backend : Backend) : Prop where
  users : ∀ row ∈ backend.accounts.users.rows, 3 ≤ row.username.length
  products : ∀ product ∈ backend.catalogue.products.rows, ProductInBounds product
  projects : ∀ project ∈ backend.projects.projects.rows, ProjectInBounds project

/-- The call passes its guards, so what it was sent is stored. -/
def Accepts (backend : Backend) : Call → Prop
  | .createUser env payload _ => validatePasswordPolicy env payload.password.1 = .ok () ∧
      backend.accounts.users.rows.any (·.username == strip payload.username.1) = false
  | .createProduct env payload => (∃ product, newProduct env payload = .ok product) ∧
      backend.catalogue.products.rows.any (·.barcode == strip payload.barcode.1) = false ∧
      backend.catalogue.products.rows.any (·.internalCode == strip payload.internalCode.1) = false
  | .project (.createProject _ _ payload) =>
      unknownReviewer backend.projects payload.assignedReviewerUserId = false
  | .project (.request request) => ∃ project, request.Passed backend.projects project

/-- Stripped, and lowered where the service lowers it, every text keeps its minimum length. -/
def Keeps : Call → Prop
  | .createUser _ payload _ => 3 ≤ (strip payload.username.1).length
  | .createProduct env payload => 2 ≤ (strip payload.name.1).length ∧
      1 ≤ (env.lower (strip payload.namePinyin.1)).length ∧
      4 ≤ (strip payload.barcode.1).length ∧ 2 ≤ (strip payload.internalCode.1).length
  | .project (.createProject _ _ payload) => 2 ≤ (strip payload.name.1).length ∧
      2 ≤ (strip payload.category.1).length ∧ 10 ≤ (strip payload.description.1).length
  | .project (.request request) =>
      match request.operation with
      | .editProject payload => (∀ name ∈ payload.name, 2 ≤ (strip name.1).length) ∧
          (∀ category ∈ payload.category, 2 ≤ (strip category.1).length) ∧
          ∀ description ∈ payload.description, 10 ≤ (strip description.1).length
      | .rejectProject payload => 3 ≤ (strip payload.reason.1).length
      | _ => True

theorem createUser_allOrNothing (env : RegistrationEnv) (payload : UserCreateRequest)
    (actorUserId : Option Nat) : AllOrNothing (createUser env payload actorUserId) := by
  intro db written raised failed
  rcases (bind_error _ _ _ _ _).mp failed with refused | ⟨_, _, passed, failed⟩
  · exact allOrNothing_attempt _ db written raised refused
  obtain ⟨_, rfl⟩ := (attempt_ok _ _ _ _).mp passed
  cases outcome : addUser actorUserId (newUser env payload) db with
  | ok value done =>
      rw [addUserOrConflict, outcome] at failed
      cases failed
  | error early done =>
      have same : done = db := transactional_error _ db done early outcome
      rw [addUserOrConflict, outcome] at failed
      cases early <;> exact (EStateM.Result.error.inj failed).2.symm.trans same

theorem createUser_refused (env : RegistrationEnv) (payload : UserCreateRequest)
    (actorUserId : Option Nat) (backend : Backend)
    (refused : ¬ Accepts backend (.createUser env payload actorUserId)) :
    after (createUser env payload actorUserId) backend.accounts = backend.accounts := by
  rcases after_cases _ (createUser_allOrNothing env payload actorUserId) backend.accounts with
    ⟨created, returned⟩ | same
  · obtain ⟨passed, free, _⟩ := Auth.createUser_ok env payload actorUserId _ _ created returned
    exact (refused ⟨passed, free⟩).elim
  · exact same

theorem createUser_accepted (env : RegistrationEnv) (payload : UserCreateRequest)
    (actorUserId : Option Nat) (backend : Backend)
    (accepted : Accepts backend (.createUser env payload actorUserId)) :
    after (createUser env payload actorUserId) backend.accounts =
      Auth.registered actorUserId (newUser env payload) backend.accounts := by
  obtain ⟨passed, free⟩ := accepted
  have added := (Auth.addUser_ok actorUserId (newUser env payload) backend.accounts _ _).mpr
    ⟨free, rfl, rfl⟩
  apply after_ok
  rw [createUser, bind_ok]
  refine ⟨(), backend.accounts, (attempt_ok _ _ _ _).mpr ⟨passed, rfl⟩, ?_⟩
  rw [addUserOrConflict, added]

theorem newProduct_codes (env : Env) (payload : ProductCreateRequest) (product : Product)
    (made : newProduct env payload = .ok product) :
    product.name = strip payload.name.1 ∧ product.barcode = strip payload.barcode.1 ∧
      product.internalCode = strip payload.internalCode.1 ∧
      product.namePinyin.length = min (env.lower (strip payload.namePinyin.1)).length 255 := by
  simp only [newProduct, bind_except_ok, pure_except_ok] at made
  obtain ⟨namePinyin, lowered, _, _, rfl⟩ := made
  exact ⟨rfl, rfl, rfl, varchar_length _ _ _ _ lowered⟩

theorem not_taken (rows : List Product) (column : Product → String) (value : String) :
    value ∉ rows.map column ↔ rows.any (fun row => column row == value) = false := by
  simp [List.any_eq_false]

theorem createProduct_refused (env : Env) (payload : ProductCreateRequest) (backend : Backend)
    (refused : ¬ Accepts backend (.createProduct env payload)) :
    after (createProduct env payload) backend.catalogue = backend.catalogue := by
  rcases Catalogue.createProduct_written env payload backend.catalogue with
    same | ⟨product, made, freeBarcode, freeCode, _⟩
  · exact same
  · obtain ⟨_, barcode, internalCode, _⟩ := newProduct_codes env payload product made
    refine (refused ⟨⟨product, made⟩, ?_, ?_⟩).elim
    · rwa [barcode, not_taken] at freeBarcode
    · rwa [internalCode, not_taken] at freeCode

theorem createProduct_accepted (env : Env) (payload : ProductCreateRequest) (backend : Backend)
    (accepted : Accepts backend (.createProduct env payload)) :
    ∃ product, newProduct env payload = .ok product ∧
      after (createProduct env payload) backend.catalogue =
        { backend.catalogue with products := backend.catalogue.products.insert product } := by
  obtain ⟨⟨product, made⟩, freeBarcode, freeCode⟩ := accepted
  obtain ⟨_, barcode, internalCode, _⟩ := newProduct_codes env payload product made
  rw [← barcode] at freeBarcode
  rw [← internalCode] at freeCode
  have inserted : insertProduct product backend.catalogue =
      .ok backend.catalogue.products.nextKey
        { backend.catalogue with products := backend.catalogue.products.insert product } := by
    simp only [insertProduct, bind_ok, get_ok, attempt_ok, raiseIf_ok, set_ok, pure_ok]
    exact ⟨_, _, ⟨rfl, rfl⟩, (), _, ⟨Bool.eq_false_iff.mp freeBarcode, rfl⟩, (), _,
      ⟨Bool.eq_false_iff.mp freeCode, rfl⟩, (), _, rfl, rfl, rfl⟩
  have added : addProduct env payload backend.catalogue =
      .ok (backend.catalogue.products.nextKey, product)
        { backend.catalogue with products := backend.catalogue.products.insert product } := by
    rw [addProduct, transactional_ok]
    simp only [bind_ok, attempt_ok, pure_ok]
    exact ⟨product, _, ⟨made, rfl⟩, _, _, inserted, rfl, rfl⟩
  refine ⟨product, made, ?_⟩
  rw [after, createProduct, added]

theorem inBounds_of_newProduct (env : Env) (payload : ProductCreateRequest) (product : Product)
    (actual : newProduct env payload = .ok product) :
    ProductInBounds product ↔ Keeps (.createProduct env payload) := by
  obtain ⟨name, barcode, internalCode, namePinyin⟩ := newProduct_codes env payload product actual
  have pinyin : 1 ≤ product.namePinyin.length ↔
      1 ≤ (env.lower (strip payload.namePinyin.1)).length := by omega
  constructor
  · rintro ⟨longName, longPinyin, longBarcode, longCode⟩
    exact ⟨name ▸ longName, pinyin.mp longPinyin, barcode ▸ longBarcode, internalCode ▸ longCode⟩
  · rintro ⟨longName, longPinyin, longBarcode, longCode⟩
    exact ⟨name ▸ longName, pinyin.mpr longPinyin, barcode ▸ longBarcode, internalCode ▸ longCode⟩

theorem elim_bound {Given Column : Type} (low : Nat) (measure : Column → Nat)
    (assign : Given → Column) (column : Column) (before : low ≤ measure column)
    (text : Option Given) :
    low ≤ measure (text.elim column assign) ↔ ∀ value ∈ text, low ≤ measure (assign value) := by
  cases text with
  | none => exact iff_of_true before (by nofun)
  | some value => simp

theorem inBounds_of_edited (env : ProjectEnv) (payload : ProjectEditRequest) (project : Project)
    (before : ProjectInBounds project) :
    ProjectInBounds (editedProject env payload project) ↔
      (∀ name ∈ payload.name, 2 ≤ (strip name.1).length) ∧
        (∀ category ∈ payload.category, 2 ≤ (strip category.1).length) ∧
        ∀ description ∈ payload.description, 10 ≤ (strip description.1).length := by
  have name := elim_bound 2 (fun column => column.1.length) stripped project.name before.name
    payload.name
  have category := elim_bound 2 (fun column => column.1.length) stripped project.category
    before.category payload.category
  have description := elim_bound 10 String.length (fun text => strip text.1) project.description
    before.description payload.description
  constructor
  · rintro ⟨longName, longCategory, longDescription, _⟩
    exact ⟨name.mp longName, category.mp longCategory, description.mp longDescription⟩
  · rintro ⟨longName, longCategory, longDescription⟩
    exact ⟨name.mpr longName, category.mpr longCategory, description.mpr longDescription,
      before.rejectionReason⟩

theorem inBounds_updatedAt (project : Project) (time : Time) :
    ProjectInBounds { project with updatedAt := time } ↔ ProjectInBounds project :=
  ⟨fun ⟨name, category, description, reason⟩ => ⟨name, category, description, reason⟩,
    fun ⟨name, category, description, reason⟩ => ⟨name, category, description, reason⟩⟩

theorem inBounds_of_written (request : Projects.Request) (project : Project)
    (before : ProjectInBounds project) :
    ProjectInBounds (request.flushed project project) ↔ Keeps (.project (.request request)) := by
  obtain ⟨time, row⟩ := Projects.flushed_loaded request project
  rw [row, inBounds_updatedAt]
  obtain ⟨env, actor, projectId, operation⟩ := request
  cases operation with
  | editProject payload => exact inBounds_of_edited env payload project before
  | rejectProject payload =>
      constructor
      · intro bounds
        exact bounds.rejectionReason (stripped payload.reason) rfl
      · intro reason
        refine ⟨before.name, before.category, before.description, ?_⟩
        intro stored isStored
        obtain rfl : stripped payload.reason = stored := Option.some.inj isStored
        exact reason
  | submitProjectForReview payload =>
      exact iff_of_true ⟨before.name, before.category, before.description, by nofun⟩ trivial
  | resubmitProject payload =>
      exact iff_of_true ⟨before.name, before.category, before.description, by nofun⟩ trivial
  | deactivateProject payload =>
      exact iff_of_true ⟨before.name, before.category, before.description,
        before.rejectionReason⟩ trivial

theorem createUser_inBounds (env : RegistrationEnv) (payload : UserCreateRequest)
    (actorUserId : Option Nat) (backend : Backend) (before : InBounds backend) :
    InBounds (step backend (.createUser env payload actorUserId)) ↔
      (Accepts backend (.createUser env payload actorUserId) →
        Keeps (.createUser env payload actorUserId)) := by
  by_cases accepted : Accepts backend (.createUser env payload actorUserId)
  · have users := Table.forall_rows_insert backend.accounts.users (newUser env payload).row
      (fun row => 3 ≤ row.username.length)
    rw [step, createUser_accepted env payload actorUserId backend accepted, imp_iff_right accepted]
    constructor
    · intro bounds
      exact (users.mp bounds.users).2
    · intro keeps
      exact ⟨users.mpr ⟨before.users, keeps⟩, before.products, before.projects⟩
  · rw [step, createUser_refused env payload actorUserId backend accepted]
    refine iff_of_true ?_ (fun accepts => (accepted accepts).elim)
    exact ⟨before.users, before.products, before.projects⟩

theorem createProduct_inBounds (env : Env) (payload : ProductCreateRequest) (backend : Backend)
    (before : InBounds backend) :
    InBounds (step backend (.createProduct env payload)) ↔
      (Accepts backend (.createProduct env payload) → Keeps (.createProduct env payload)) := by
  by_cases accepted : Accepts backend (.createProduct env payload)
  · obtain ⟨product, made, written⟩ := createProduct_accepted env payload backend accepted
    have products := Table.forall_rows_insert backend.catalogue.products product ProductInBounds
    rw [step, written, imp_iff_right accepted, ← inBounds_of_newProduct env payload product made]
    constructor
    · intro bounds
      exact (products.mp bounds.products).2
    · intro keeps
      exact ⟨before.users, products.mpr ⟨before.products, keeps⟩, before.projects⟩
  · rw [step, createProduct_refused env payload backend accepted]
    exact iff_of_true before (fun accepts => (accepted accepts).elim)

theorem createProject_inBounds (env : ProjectEnv) (actor : User) (payload : ProjectCreateRequest)
    (backend : Backend) (before : InBounds backend) :
    InBounds (step backend (.project (.createProject env actor payload))) ↔
      (Accepts backend (.project (.createProject env actor payload)) →
        Keeps (.project (.createProject env actor payload))) := by
  cases known : unknownReviewer backend.projects payload.assignedReviewerUserId with
  | true =>
      rw [step, Projects.step_unknown env actor payload _ known, Accepts, known]
      exact iff_of_true before (by nofun)
  | false =>
      have projects := Table.forall_rows_insert backend.projects.projects
        (newProject env actor payload) ProjectInBounds
      rw [step, Projects.step_known env actor payload _ known, Accepts, known, imp_iff_right rfl]
      constructor
      · intro bounds
        obtain ⟨name, category, description, _⟩ := (projects.mp bounds.projects).2
        exact ⟨name, category, description⟩
      · rintro ⟨name, category, description⟩
        refine ⟨before.users, before.products, projects.mpr ⟨before.projects, ?_⟩⟩
        exact ⟨name, category, description, by nofun⟩

/-- Only a submission can be turned away after its checks, and it stores none of the texts. -/
theorem request_inBounds (request : Projects.Request) (backend : Backend)
    (before : InBounds backend) :
    InBounds (step backend (.project (.request request))) ↔
      (Accepts backend (.project (.request request)) → Keeps (.project (.request request))) := by
  by_cases writes : ∃ project, request.Passed backend.projects project ∧
      request.Free project backend.projects
  · obtain ⟨project, passed, free⟩ := writes
    have present := (Table.mem_rows _ project).mpr ⟨_, passed.loaded⟩
    have projects := Table.forall_rows_modify backend.projects.projects request.projectId
      (request.flushed project) project ProjectInBounds passed.loaded before.projects
    have written := inBounds_of_written request project (before.projects project present)
    rw [step, Projects.step_written request project _ passed free,
      imp_iff_right (show Accepts backend (.project (.request request)) from ⟨project, passed⟩),
      ← written]
    constructor
    · intro bounds
      exact projects.mp bounds.projects
    · intro bounds
      exact ⟨before.users, before.products, projects.mpr bounds⟩
  · have unwritten (project : Project) (passed : request.Passed backend.projects project)
        (free : request.Free project backend.projects) : False :=
      writes ⟨project, passed, free⟩
    rw [step, Projects.step_unwritten request _ unwritten]
    refine iff_of_true before ?_
    rintro ⟨project, passed⟩
    have taken := unwritten project passed
    obtain ⟨env, actor, projectId, operation⟩ := request
    cases operation with
    | editProject payload => exact (taken (by nofun)).elim
    | rejectProject payload => exact (taken (by nofun)).elim
    | submitProjectForReview payload => trivial
    | resubmitProject payload => trivial
    | deactivateProject payload => trivial

theorem step_inBounds (backend : Backend) (call : Call) (before : InBounds backend) :
    InBounds (step backend call) ↔ (Accepts backend call → Keeps call) := by
  cases call with
  | createUser env payload actorUserId =>
      exact createUser_inBounds env payload actorUserId backend before
  | createProduct env payload => exact createProduct_inBounds env payload backend before
  | project call =>
      cases call with
      | createProject env actor payload =>
          exact createProject_inBounds env actor payload backend before
      | request request => exact request_inBounds request backend before

/-- A run that starts within bounds stays there exactly as long as every text it accepts keeps
its minimum length once it is stripped. -/
theorem inBounds_iff_keeps (backend : Backend) (calls : List Call) :
    Runs.Throughout step InBounds backend calls ↔
      InBounds backend ∧
        Runs.Along step (fun backend call => Accepts backend call → Keeps call) backend calls := by
  have run (initial : InBounds backend) :=
    Runs.throughout_iff_along step (fun _ => True) InBounds _ (fun _ _ _ => trivial)
      (fun backend call _ before => step_inBounds backend call before) backend calls trivial initial
  constructor
  · intro throughout
    have initial := Runs.throughout_first step InBounds backend calls throughout
    exact ⟨initial, (run initial).mp throughout⟩
  · rintro ⟨initial, along⟩
    exact (run initial).mpr along

theorem blank_length (low high : Nat) (fits : low ≤ high) :
    low ≤ (String.ofList (List.replicate low ' ')).length ∧
      (String.ofList (List.replicate low ' ')).length ≤ high := by
  rw [String.length_ofList, List.length_replicate]
  exact ⟨le_rfl, fits⟩

def blank {low high : Nat} (fits : Nat.ble low high = true) : BoundedText low high :=
  ⟨_, blank_length low high (Nat.le_of_ble_eq_true fits)⟩

def blankUser : UserCreateRequest := ⟨blank rfl, Auth.bob.password, none, none⟩

theorem one_positive : (0 : ℚ) < 1 := zero_lt_one

def blankProduct : ProductCreateRequest :=
  ⟨blank rfl, blank rfl, blank rfl, blank rfl, 1, true, true, one_positive⟩

def blankProject : ProjectCreateRequest := ⟨blank rfl, blank rfl, blank rfl, none, none⟩

def blankRejection : ProjectRejectRequest := ⟨blank rfl⟩

def blankCalls : List Call :=
  [.createUser Auth.sampleTools blankUser none,
    .createUser Auth.sampleTools Auth.bob (some 1),
    .createProduct ⟨0, "", id, RowOrder.byKey, RowOrder.byKey, RowOrder.byKey⟩ blankProduct,
    .project (.createProject (Projects.labelled 0) Projects.soapMaker blankProject),
    .project (.request ⟨Projects.labelled 1, Projects.soapMaker, 1,
      .submitProjectForReview ⟨none⟩⟩),
    .project (.request ⟨Projects.labelled 2, Projects.soapReviewer, 1,
      .rejectProject blankRejection⟩)]

theorem inBounds_start : InBounds Backend.start where
  users := fun _ member => absurd member List.not_mem_nil
  products := fun _ member => absurd member List.not_mem_nil
  projects := fun _ member => absurd member List.not_mem_nil

theorem not_inBounds_of_blank (backend : Backend)
    (blank : "" ∈ backend.accounts.users.rows.map (·.username)) : ¬ InBounds backend := by
  intro bounds
  obtain ⟨row, stored, isBlank⟩ := List.mem_map.mp blank
  have long := bounds.users row stored
  rw [isBlank] at long
  exact absurd long (by decide)

/-- Requests of nothing but spaces store nothing but empty texts. -/
theorem blank_texts_stored : InBounds Backend.start ∧
    ¬ InBounds (Runs.run step Backend.start blankCalls) ∧
    (Runs.run step Backend.start blankCalls).accounts.users.rows.map (·.username) =
      ["", "bob"] ∧
    (Runs.run step Backend.start blankCalls).catalogue.products.rows.map
      (fun product => [product.name, product.namePinyin, product.barcode,
        product.internalCode]) = [["", "", "", ""]] ∧
    (Runs.run step Backend.start blankCalls).projects.projects.rows.map
      (fun project => [project.name.1, project.category.1, project.description]) =
        [["", "", ""]] ∧
    (Runs.run step Backend.start blankCalls).projects.projects.rows.map
      (fun project => project.rejectionReason.map (·.1)) = [some ""] := by
  have username : (Runs.run step Backend.start blankCalls).accounts.users.rows.map
      (·.username) = ["", "bob"] := by decide +kernel
  have stored : "" ∈ ["", "bob"] := List.mem_cons_self
  refine ⟨inBounds_start, not_inBounds_of_blank _ (username ▸ stored), username, ?_⟩
  decide +kernel

end RetailApp.Validation
