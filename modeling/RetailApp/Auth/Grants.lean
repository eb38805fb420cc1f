import RetailApp.Auth.Assignments
import RetailApp.Library.Runs
import RetailApp.Services.AccessAdmin

/-! Where permissions come from: a gate opens for those to whom a superuser's assignments lead,
and every assignment is on record. -/

namespace RetailApp.Access

open Transaction Auth

inductive Call where
  /-- Somebody registers, which makes an active account and no superuser. -/
  | register
  | createPermission (actorUserId : Nat) (payload : PermissionCreateRequest)
  | createRole (actorUserId : Nat) (payload : RoleCreateRequest)
  | assignPermissions (actorUserId : Nat) (roleId : Int) (payload : RolePermissionsRequest)
  | assignRoles (actorUserId : Nat) (userId : Int) (payload : UserRolesRequest)
  | assignRole (actorUserId : Nat) (payload : RoleAssignmentRequest)
  | assignPermission (actorUserId : Nat) (payload : PermissionAssignmentRequest)

def registered : Account := ⟨false, true, false⟩

def step (db : AccessDb) : Call → AccessDb
  | .register => { db with accounts := db.accounts.insert registered }
  | .createPermission actorUserId payload => after (createPermissionEndpoint actorUserId payload) db
  | .createRole actorUserId payload => after (createRoleEndpoint actorUserId payload) db
  | .assignPermissions actorUserId roleId payload =>
      after (gatedAssignPermissionsToRole actorUserId roleId payload) db
  | .assignRoles actorUserId userId payload =>
      after (gatedAssignRolesToUser actorUserId userId payload) db
  | .assignRole actorUserId payload => after (assignRoleEndpoint actorUserId payload) db
  | .assignPermission actorUserId payload => after (assignPermissionEndpoint actorUserId payload) db

def run (accounts : Table Account) (calls : List Call) : AccessDb :=
  Runs.run step (AccessDb.start accounts) calls

def available (account : Account) : Bool := account.isActive && !account.isDeleted

def administers (db : AccessDb) (userId : Nat) : Bool :=
  (db.accounts.get? userId).any (fun account => account.isSuperuser && available account)

structure Assignment where
  actorUserId : Nat
  table : MappingTable
  ownerId : Int
  grantedIds : List Int

def Call.assignment : Call → Option Assignment
  | .register => none
  | .createPermission _ _ => none
  | .createRole _ _ => none
  | .assignPermissions actorUserId roleId payload =>
      some ⟨actorUserId, .rolePermission, roleId, payload.permissionIds⟩
  | .assignRoles actorUserId userId payload =>
      some ⟨actorUserId, .userRole, userId, payload.roleIds⟩
  | .assignRole actorUserId payload =>
      some ⟨actorUserId, .userRole, payload.userId, [payload.roleId]⟩
  | .assignPermission actorUserId payload =>
      some ⟨actorUserId, .rolePermission, payload.roleId, [payload.permissionId]⟩

def Assignment.passes (db : AccessDb) (assignment : Assignment) : Prop :=
  administers db assignment.actorUserId = true ∧
    assignment.ownerId ∈ assignment.table.ownerIds db.mapped

/-- What it gets assigned: the ids in front of the first that does not exist. -/
def Assignment.taken (db : AccessDb) (assignment : Assignment) : List Int :=
  assignment.grantedIds.takeWhile (known assignment.table db.mapped)

/-- A call that assigns this pair, given the tables it finds. -/
def Grants (table : MappingTable) (row : Mapping) (db : AccessDb) (call : Call) : Prop :=
  ∃ assignment, call.assignment = some assignment ∧ assignment.passes db ∧
    assignment.table = table ∧ row.ownerId = assignment.ownerId ∧
    row.grantedId ∈ assignment.taken db

def Granted (accounts : Table Account) (calls : List Call) (table : MappingTable)
    (row : Mapping) : Prop :=
  ∃ early call late, calls = early ++ call :: late ∧ Grants table row (run accounts early) call

section Gate

theorem loadCurrentUser_ok (db : AccessDb) (userId : Nat) (user : User) :
    loadCurrentUser db userId = .ok user ↔ ∃ account, db.accounts.get? userId = some account ∧
      available account = true ∧ user = ⟨userId, account.isSuperuser, db.rolesOf userId⟩ := by
  simp only [loadCurrentUser, bind_except_ok, orRaise_ok, raiseIf_ok, pure_except_ok, not_or,
    Bool.not_eq_false, Bool.not_eq_true]
  constructor
  · rintro ⟨account, found, _, ⟨active, present⟩, rfl⟩
    exact ⟨account, found, by simp [available, active, present], rfl⟩
  · rintro ⟨account, found, usable, rfl⟩
    simp only [available, Bool.and_eq_true, Bool.not_eq_true'] at usable
    exact ⟨account, found, (), usable, rfl⟩

theorem adminGate_ok (permissionCode : String) (db : AccessDb) (userId : Nat) (user : User) :
    adminGate permissionCode db userId = .ok user ↔
      administers db userId = true ∧ user = ⟨userId, true, db.rolesOf userId⟩ := by
  simp only [adminGate, bind_except_ok, requireSuperuser_ok, requirePermission_ok,
    loadCurrentUser_ok, administers, Option.any_eq_true, Bool.and_eq_true]
  constructor
  · rintro ⟨_, ⟨account, found, usable, rfl⟩, _, ⟨super, rfl⟩, _, rfl⟩
    refine ⟨⟨account, found, super, usable⟩, ?_⟩
    rw [User.mk.injEq]
    exact ⟨rfl, super, rfl⟩
  · rintro ⟨⟨account, found, super, usable⟩, rfl⟩
    refine ⟨_, ⟨account, found, usable, rfl⟩, _, ⟨super, rfl⟩, .inl super, ?_⟩
    rw [User.mk.injEq]
    exact ⟨rfl, super, rfl⟩

theorem gated (permissionCode : String) (actorUserId : Nat) (handler : User → AccessService α)
    (db : AccessDb) :
    after (do
      let actor ← attempt (adminGate permissionCode (← get) actorUserId)
      handler actor) db =
      if administers db actorUserId = true then
        after (handler ⟨actorUserId, true, db.rolesOf actorUserId⟩) db
      else db := by
  split
  · rename_i may
    have opened := (adminGate_ok permissionCode db actorUserId _).mpr ⟨may, rfl⟩
    simp [after, run_bind, opened]
  · rename_i denied
    cases outcome : adminGate permissionCode db actorUserId with
    | ok user => exact absurd ((adminGate_ok _ _ _ _).mp outcome).1 denied
    | error raised => simp [after, run_bind, outcome]

end Gate

section Effect

theorem after_onMappings (service : RbacService α) (db : AccessDb) :
    after (onMappings service) db = db.withMapped (after service db.mapped) := by
  cases outcome : service db.mapped <;> simp [after, onMappings, outcome]

theorem after_assignEach (table : MappingTable) (actor : User) (ownerId : Int)
    (grantedIds : List Int) (db : RbacDb) :
    after (assignEach table actor ownerId grantedIds) db =
      if ownerId ∈ table.ownerIds db then
        assignedAll table actor ownerId (grantedIds.takeWhile (known table db)) db
      else db := by
  rw [after, assignEach_run]
  by_cases owner : ownerId ∈ table.ownerIds db
  · rw [if_neg (not_not.mpr owner), if_pos owner]
    cases all : grantedIds.all (known table db) with
    | true => rw [if_pos rfl, List.takeWhile_eq_self_iff.mpr (List.all_eq_true.mp all)]
    | false => rfl
  · rw [if_pos owner, if_neg owner]

theorem after_assign (table : MappingTable) (actor : User) (row : Mapping) (db : RbacDb) :
    after (assign table actor row) db =
      if row.ownerId ∈ table.ownerIds db then
        assignedAll table actor row.ownerId ([row.grantedId].takeWhile (known table db)) db
      else db := by
  by_cases owner : row.ownerId ∈ table.ownerIds db
  · rw [after, assign_run table actor db row owner, if_pos owner]
    by_cases found : row.grantedId ∈ table.grantedIds db
    · have taken : [row.grantedId].takeWhile (known table db) = [row.grantedId] := by
        simp [known, found]
      rw [if_pos found, taken]
      rfl
    · have none : [row.grantedId].takeWhile (known table db) = [] := by simp [known, found]
      rw [if_neg found, none]
      rfl
  · rw [if_neg owner, after, assign]
    simp [run_bind, owner]

def Assignment.result (db : AccessDb) (assignment : Assignment) : AccessDb :=
  db.withMapped (assignedAll assignment.table
    ⟨assignment.actorUserId, true, db.rolesOf assignment.actorUserId⟩ assignment.ownerId
    (assignment.taken db) db.mapped)

theorem step_assigns (db : AccessDb) (call : Call) (assignment : Assignment)
    (asks : call.assignment = some assignment) :
    (assignment.passes db ∧ step db call = assignment.result db) ∨
      (¬ assignment.passes db ∧ step db call = db) := by
  have each : step db call =
      if administers db assignment.actorUserId = true then
        if assignment.ownerId ∈ assignment.table.ownerIds db.mapped then assignment.result db
        else db
      else db := by
    cases call with
    | register => cases asks
    | createPermission actorUserId payload => cases asks
    | createRole actorUserId payload => cases asks
    | assignPermissions actorUserId roleId payload =>
        obtain rfl := Option.some.inj asks
        rw [step, gatedAssignPermissionsToRole, gated, after_onMappings,
          assignPermissionsToRoleEndpoint, after_assignEach, apply_ite db.withMapped]
        rfl
    | assignRoles actorUserId userId payload =>
        obtain rfl := Option.some.inj asks
        rw [step, gatedAssignRolesToUser, gated, after_onMappings,
          assignRolesToUserEndpoint, after_assignEach, apply_ite db.withMapped]
        rfl
    | assignRole actorUserId payload =>
        obtain rfl := Option.some.inj asks
        rw [step, assignRoleEndpoint, gated, after_onMappings, RetailApp.assignRole, after_assign,
          apply_ite db.withMapped]
        rfl
    | assignPermission actorUserId payload =>
        obtain rfl := Option.some.inj asks
        rw [step, assignPermissionEndpoint, gated, after_onMappings, RetailApp.assignPermission,
          after_assign, apply_ite db.withMapped]
        rfl
  rw [each]
  by_cases may : administers db assignment.actorUserId = true
  · by_cases owner : assignment.ownerId ∈ assignment.table.ownerIds db.mapped
    · exact .inl ⟨⟨may, owner⟩, by rw [if_pos may, if_pos owner]⟩
    · exact .inr ⟨fun passes => owner passes.2, by rw [if_pos may, if_neg owner]⟩
  · exact .inr ⟨fun passes => may passes.1, by rw [if_neg may]⟩

theorem insertPermission_ok (row : PermissionRow) (db db' : AccessDb) (permissionId : Nat)
    (inserted : insertPermission row db = .ok permissionId db') :
    row.code ∉ db.permissions.rows.map (·.code) ∧ permissionId = db.permissions.nextKey ∧
      ∃ stored : PermissionRow, stored.code = row.code ∧
        db' = { db with permissions := db.permissions.insert stored } := by
  simp only [insertPermission, bind_ok, get_ok, attempt_ok, set_ok, pure_ok, raiseIf_ok] at inserted
  obtain ⟨description, _, ⟨_, rfl⟩, _, _, ⟨rfl, rfl⟩, _, _, ⟨free, rfl⟩, _, _, rfl, rfl, rfl⟩ :=
    inserted
  refine ⟨?_, rfl, ⟨row.code, description⟩, rfl, rfl⟩
  simpa [Subtype.ext_iff] using free

theorem insertRole_ok (row : RoleRow) (db db' : AccessDb) (roleId : Nat)
    (inserted : insertRole row db = .ok roleId db') :
    row.name ∉ db.roles.rows.map (·.name) ∧ roleId = db.roles.nextKey ∧
      ∃ stored : RoleRow, stored.name = row.name ∧
        db' = { db with roles := db.roles.insert stored } := by
  simp only [insertRole, bind_ok, get_ok, attempt_ok, set_ok, pure_ok, raiseIf_ok] at inserted
  obtain ⟨description, _, ⟨_, rfl⟩, _, _, ⟨rfl, rfl⟩, _, _, ⟨free, rfl⟩, _, _, rfl, rfl, rfl⟩ :=
    inserted
  refine ⟨?_, rfl, ⟨row.name, description⟩, rfl, rfl⟩
  simpa [Subtype.ext_iff] using free

theorem conflictOnIntegrity_after (message : String) (body : AccessService α) (db : AccessDb) :
    after (conflictOnIntegrity message body) db = db ∨
      ∃ value, body db = .ok value (after (conflictOnIntegrity message body) db) := by
  cases outcome : body db with
  | ok value written =>
      right
      exact ⟨value, by simp [after, conflictOnIntegrity, transactional, outcome]⟩
  | error raised written =>
      left
      cases raised <;> simp [after, conflictOnIntegrity, transactional, outcome]

/-- What a call that assigns nothing may do: add one account, permission or role. -/
inductive Created (db : AccessDb) : AccessDb → Prop where
  | nothing : Created db db
  | account : Created db { db with accounts := db.accounts.insert registered }
  | permission (row : PermissionRow) (free : row.code ∉ db.permissions.rows.map (·.code)) :
      Created db { db with permissions := db.permissions.insert row }
  | role (row : RoleRow) (free : row.name ∉ db.roles.rows.map (·.name)) :
      Created db { db with roles := db.roles.insert row }

theorem step_creates (db : AccessDb) (call : Call) (asks : call.assignment = none) :
    Created db (step db call) := by
  cases call with
  | register => exact .account
  | createPermission actorUserId payload =>
      rw [step, createPermissionEndpoint, gated]
      split
      · rw [bind_pure_comp, after_map]
        rcases conflictOnIntegrity_after "Permission code already exists"
          (insertPermission ⟨stripped payload.code, payload.description⟩) db with
          same | ⟨_, inserted⟩
        · rw [same]
          exact .nothing
        · obtain ⟨free, _, stored, code, wrote⟩ := insertPermission_ok _ _ _ _ inserted
          rw [wrote]
          exact .permission stored (code ▸ free)
      · exact .nothing
  | createRole actorUserId payload =>
      rw [step, createRoleEndpoint, gated]
      split
      · rw [bind_pure_comp, after_map]
        rcases conflictOnIntegrity_after "Role name already exists"
          (insertRole ⟨stripped payload.name, payload.description⟩) db with
          same | ⟨_, inserted⟩
        · rw [same]
          exact .nothing
        · obtain ⟨free, _, stored, name, wrote⟩ := insertRole_ok _ _ _ _ inserted
          rw [wrote]
          exact .role stored (name ▸ free)
      · exact .nothing
  | assignPermissions actorUserId roleId payload => cases asks
  | assignRoles actorUserId userId payload => cases asks
  | assignRole actorUserId payload => cases asks
  | assignPermission actorUserId payload => cases asks

end Effect

section Mappings

theorem mappings_withMapped (table : MappingTable) (db : AccessDb) (written : RbacDb) :
    table.mappings (db.withMapped written).mapped = table.mappings written := by
  cases table <;> rfl

theorem mappings_other (table other : MappingTable) (apart : table ≠ other) (actor : User)
    (ownerId : Int) (grantedIds : List Int) (db : RbacDb) :
    other.mappings (assignedAll table actor ownerId grantedIds db) = other.mappings db := by
  induction grantedIds generalizing db with
  | nil => rfl
  | cons grantedId grantedIds ih =>
      rw [assignedAll, List.foldl_cons]
      refine (ih (assigned table actor db ⟨ownerId, grantedId⟩)).trans ?_
      unfold assigned
      split
      · rfl
      · cases table <;> cases other <;> first | rfl | exact absurd rfl apart

theorem created_mappings (db db' : AccessDb) (created : Created db db') (table : MappingTable) :
    table.mappings db'.mapped = table.mappings db.mapped := by
  cases created <;> cases table <;> rfl

theorem step_grants (table : MappingTable) (row : Mapping) (db : AccessDb) (call : Call) :
    row ∈ (table.mappings (step db call).mapped).rows ↔
      row ∈ (table.mappings db.mapped).rows ∨ Grants table row db call := by
  cases asks : call.assignment with
  | none =>
      rw [created_mappings db _ (step_creates db call asks)]
      refine (or_iff_left ?_).symm
      rintro ⟨assignment, asked, _⟩
      rw [asks] at asked
      cases asked
  | some assignment =>
      have granted : Grants table row db call ↔ assignment.passes db ∧
          assignment.table = table ∧ row.ownerId = assignment.ownerId ∧
          row.grantedId ∈ assignment.taken db := by
        simp [Grants, asks]
      rw [granted]
      rcases step_assigns db call assignment asks with ⟨passes, wrote⟩ | ⟨fails, same⟩
      · rw [wrote, Assignment.result, mappings_withMapped, and_iff_right passes]
        by_cases this : assignment.table = table
        · subst this
          rw [mem_assignedAll, and_iff_right rfl]
          refine or_congr_right ?_
          constructor
          · rintro ⟨grantedId, taken, rfl⟩
            exact ⟨rfl, taken⟩
          · rintro ⟨owner, taken⟩
            exact ⟨row.grantedId, taken, by rw [← owner]⟩
        · rw [mappings_other _ _ this]
          exact (or_iff_left (fun both => this both.1)).symm
      · rw [same]
        exact (or_iff_left (fun both => fails both.1)).symm

theorem mem_mappings_run (accounts : Table Account) (calls : List Call) (table : MappingTable)
    (row : Mapping) :
    row ∈ (table.mappings (run accounts calls).mapped).rows ↔
      Granted accounts calls table row := by
  have none : row ∉ (table.mappings (AccessDb.start accounts).mapped).rows := by
    cases table <;> exact List.not_mem_nil
  exact (Runs.final_iff_brought step (fun db => row ∈ (table.mappings db.mapped).rows)
    (Grants table row) (step_grants table row) _ calls).trans (or_iff_right none)

end Mappings

section Accounts

theorem step_accounts (db : AccessDb) (call : Call) :
    (step db call).accounts = db.accounts ∨
      (step db call).accounts = db.accounts.insert registered := by
  cases asks : call.assignment with
  | none =>
      have created := step_creates db call asks
      generalize step db call = db' at created
      cases created with
      | nothing => exact .inl rfl
      | account => exact .inr rfl
      | permission row free => exact .inl rfl
      | role row free => exact .inl rfl
  | some assignment =>
      rcases step_assigns db call assignment asks with ⟨_, wrote⟩ | ⟨_, same⟩
      · rw [wrote]
        exact .inl rfl
      · rw [same]
        exact .inl rfl

def NoNewSuperusers (accounts : Table Account) (db : AccessDb) : Prop :=
  ∀ userId account, db.accounts.get? userId = some account → account.isSuperuser = true →
    accounts.get? userId = some account

theorem step_noNewSuperusers (accounts : Table Account) (db : AccessDb) (call : Call)
    (before : NoNewSuperusers accounts db) : NoNewSuperusers accounts (step db call) := by
  intro userId account present super
  rcases step_accounts db call with same | more
  · exact before userId account (same ▸ present) super
  · rw [more, Table.get?_insert] at present
    split at present
    · rw [← Option.some.inj present] at super
      cases super
    · exact before userId account present super

theorem run_noNewSuperusers (accounts : Table Account) (calls : List Call) :
    NoNewSuperusers accounts (run accounts calls) :=
  Runs.run_preserves step (NoNewSuperusers accounts) (step_noNewSuperusers accounts) _ calls
    (fun _ _ found _ => found)

end Accounts

section References

theorem mem_ids {ρ : Type} (table : Table ρ) (id : Int) :
    id ∈ AccessDb.ids table ↔ ∃ (key : Nat) (row : ρ), table.get? key = some row ∧ (key : Int) = id := by
  simp [AccessDb.ids, Table.mem_entries]

theorem ids_insert {ρ : Type} (table : Table ρ) (row : ρ) (id : Int)
    (known : id ∈ AccessDb.ids table) : id ∈ AccessDb.ids (table.insert row) := by
  obtain ⟨key, found, present, rfl⟩ := (mem_ids table id).mp known
  exact (mem_ids _ _).mpr ⟨key, found, Table.get?_insert_of_some _ _ _ _ present, rfl⟩

def Refers (db : RbacDb) (table : MappingTable) (row : Mapping) : Prop :=
  row.ownerId ∈ table.ownerIds db ∧ row.grantedId ∈ table.grantedIds db

theorem created_refers (db db' : AccessDb) (created : Created db db') (table : MappingTable)
    (row : Mapping) (refers : Refers db.mapped table row) : Refers db'.mapped table row := by
  obtain ⟨owner, granted⟩ := refers
  cases created with
  | nothing => exact ⟨owner, granted⟩
  | account =>
      cases table with
      | userRole => exact ⟨ids_insert _ _ _ owner, granted⟩
      | rolePermission => exact ⟨owner, granted⟩
  | permission row free =>
      cases table with
      | userRole => exact ⟨owner, granted⟩
      | rolePermission => exact ⟨owner, ids_insert _ _ _ granted⟩
  | role row free =>
      cases table with
      | userRole => exact ⟨owner, ids_insert _ _ _ granted⟩
      | rolePermission => exact ⟨ids_insert _ _ _ owner, granted⟩

theorem step_refers (db : AccessDb) (call : Call) (table : MappingTable) (row : Mapping)
    (refers : Refers db.mapped table row) : Refers (step db call).mapped table row := by
  cases asks : call.assignment with
  | none => exact created_refers db _ (step_creates db call asks) table row refers
  | some assignment =>
      rcases step_assigns db call assignment asks with ⟨_, wrote⟩ | ⟨_, same⟩
      · rw [wrote]
        cases table <;> exact refers
      · rw [same]
        exact refers

theorem grants_refers (db : AccessDb) (call : Call) (table : MappingTable) (row : Mapping)
    (grants : Grants table row db call) : Refers db.mapped table row := by
  obtain ⟨assignment, _, passes, rfl, owner, taken⟩ := grants
  have found : known assignment.table db.mapped row.grantedId = true :=
    List.mem_takeWhile_imp taken
  exact ⟨owner ▸ passes.2, of_decide_eq_true found⟩

def Referenced (db : AccessDb) : Prop :=
  ∀ table, ∀ row ∈ (MappingTable.mappings db.mapped table).rows, Refers db.mapped table row

theorem run_referenced (accounts : Table Account) (calls : List Call) :
    Referenced (run accounts calls) := by
  refine Runs.run_preserves step Referenced ?_ _ calls ?_
  · intro db call referenced table row member
    refine step_refers db call table row ?_
    rcases (step_grants table row db call).mp member with old | new
    · exact referenced table row old
    · exact grants_refers db call table row new
  · intro table row member
    cases table <;> cases member

end References

section Gates

theorem hasPermission_iff (db : AccessDb) (permissionCode : String) (userId : Nat)
    (super : Bool) :
    hasPermission permissionCode ⟨userId, super, db.rolesOf userId⟩ = true ↔
      ∃ roleId role permissionId permission,
        (db.roles.get? roleId = some role ∧ (⟨userId, roleId⟩ : Mapping) ∈ db.userRoles.rows) ∧
        (db.permissions.get? permissionId = some permission ∧
          (⟨roleId, permissionId⟩ : Mapping) ∈ db.rolePermissions.rows) ∧
        permission.code.1 = permissionCode := by
  have joined {ρ : Type} (mappings : Table Mapping) (ownerId : Nat) (table : Table ρ)
      (entry : Nat × ρ) : entry ∈ AccessDb.granted mappings ownerId table ↔
        table.get? entry.1 = some entry.2 ∧ ⟨ownerId, entry.1⟩ ∈ mappings.rows := by
    rw [AccessDb.granted, List.mem_filter, decide_eq_true_eq, Table.mem_entries]
  simp only [hasPermission, List.any_eq_true, beq_iff_eq]
  constructor
  · rintro ⟨_, inRoles, _, inPermissions, same⟩
    obtain ⟨⟨roleId, role⟩, held, rfl⟩ := List.mem_map.mp inRoles
    obtain ⟨⟨permissionId, permission⟩, granted, rfl⟩ := List.mem_map.mp inPermissions
    exact ⟨roleId, role, permissionId, permission, (joined _ _ _ _).mp held,
      (joined _ _ _ _).mp granted, same⟩
  · rintro ⟨roleId, role, permissionId, permission, held, granted, same⟩
    refine ⟨⟨db.permissionsOf roleId⟩, List.mem_map.mpr ⟨(roleId, role), ?_, rfl⟩,
      ⟨permission.code.1⟩, List.mem_map.mpr ⟨(permissionId, permission), ?_, rfl⟩, same⟩
    · exact (joined _ _ _ _).mpr held
    · exact (joined _ _ _ _).mpr granted

def Opens (permissionCode : String) (db : AccessDb) (userId : Nat) : Prop :=
  ∃ user, (loadCurrentUser db userId >>= requirePermission permissionCode) = .ok user

theorem opens_iff (permissionCode : String) (db : AccessDb) (userId : Nat) :
    Opens permissionCode db userId ↔ ∃ account, db.accounts.get? userId = some account ∧
      available account = true ∧ (account.isSuperuser = true ∨
        hasPermission permissionCode ⟨userId, account.isSuperuser, db.rolesOf userId⟩ = true) := by
  simp only [Opens, bind_except_ok, loadCurrentUser_ok, requirePermission_ok]
  constructor
  · rintro ⟨_, _, ⟨account, found, usable, rfl⟩, may, rfl⟩
    exact ⟨account, found, usable, may⟩
  · rintro ⟨account, found, usable, may⟩
    exact ⟨_, _, ⟨account, found, usable, rfl⟩, may, rfl⟩

/-- Assignments of a run lead from the user over a role to a permission of this code. -/
def Reaches (accounts : Table Account) (calls : List Call) (userId : Nat)
    (permissionCode : String) : Prop :=
  ∃ (roleId permissionId : Nat) (permission : PermissionRow),
    Granted accounts calls .userRole ⟨userId, roleId⟩ ∧
    Granted accounts calls .rolePermission ⟨roleId, permissionId⟩ ∧
    (run accounts calls).permissions.get? permissionId = some permission ∧
    permission.code.1 = permissionCode

theorem reaches_iff (accounts : Table Account) (calls : List Call) (userId : Nat)
    (permissionCode : String) (super : Bool) :
    hasPermission permissionCode
        ⟨userId, super, (run accounts calls).rolesOf userId⟩ = true ↔
      Reaches accounts calls userId permissionCode := by
  rw [hasPermission_iff]
  have held := mem_mappings_run accounts calls
  constructor
  · rintro ⟨roleId, _, permissionId, permission, ⟨_, holds⟩, ⟨found, granted⟩, same⟩
    exact ⟨roleId, permissionId, permission, (held .userRole _).mp holds,
      (held .rolePermission _).mp granted, found, same⟩
  · rintro ⟨roleId, permissionId, permission, holds, granted, found, same⟩
    have holds := (held .userRole _).mpr holds
    obtain ⟨key, role, present, equal⟩ :=
      (mem_ids _ _).mp (run_referenced accounts calls .userRole _ holds).2
    obtain rfl := Int.ofNat.inj equal
    exact ⟨key, role, permissionId, permission, ⟨present, holds⟩,
      ⟨found, (held .rolePermission _).mpr granted⟩, same⟩

theorem opens_run_iff (accounts : Table Account) (calls : List Call) (userId : Nat)
    (permissionCode : String) :
    Opens permissionCode (run accounts calls) userId ↔
      ∃ account, (run accounts calls).accounts.get? userId = some account ∧
        available account = true ∧
        (accounts.get? userId = some account ∧ account.isSuperuser = true ∨
          Reaches accounts calls userId permissionCode) := by
  rw [opens_iff]
  refine exists_congr fun account => and_congr_right fun found => and_congr_right fun _ => ?_
  rw [reaches_iff]
  refine or_congr_left ?_
  constructor
  · intro super
    exact ⟨run_noNewSuperusers accounts calls userId account found super, super⟩
  · exact And.right

theorem step_rows_kept (db : AccessDb) (call : Call) :
    (∀ userId account, db.accounts.get? userId = some account →
      (step db call).accounts.get? userId = some account) ∧
    ∀ permissionId permission, db.permissions.get? permissionId = some permission →
      (step db call).permissions.get? permissionId = some permission := by
  cases asks : call.assignment with
  | none =>
      have created := step_creates db call asks
      generalize step db call = db' at created
      cases created with
      | nothing => exact ⟨fun _ _ found => found, fun _ _ found => found⟩
      | account =>
          exact ⟨fun _ _ found => Table.get?_insert_of_some _ _ _ _ found, fun _ _ found => found⟩
      | permission row free =>
          exact ⟨fun _ _ found => found, fun _ _ found => Table.get?_insert_of_some _ _ _ _ found⟩
      | role row free => exact ⟨fun _ _ found => found, fun _ _ found => found⟩
  | some assignment =>
      rcases step_assigns db call assignment asks with ⟨_, wrote⟩ | ⟨_, same⟩
      · rw [wrote]
        exact ⟨fun _ _ found => found, fun _ _ found => found⟩
      · rw [same]
        exact ⟨fun _ _ found => found, fun _ _ found => found⟩

theorem granted_append (accounts : Table Account) (calls later : List Call)
    (table : MappingTable) (row : Mapping) (granted : Granted accounts calls table row) :
    Granted accounts (calls ++ later) table row := by
  obtain ⟨early, call, late, rfl, grants⟩ := granted
  exact ⟨early, call, late ++ later, by rw [List.append_assoc, List.cons_append], grants⟩

/-- After any run a gate opens for exactly the available accounts that were superusers from the
start or that assignments made by superusers lead from, over a role, to its permission; and
whom it opens for once it stays open for, whatever is called later. -/
theorem gate_opens_iff_granted (accounts : Table Account) (calls : List Call) (userId : Nat)
    (permissionCode : String) :
    (Opens permissionCode (run accounts calls) userId ↔
      ∃ account, (run accounts calls).accounts.get? userId = some account ∧
        available account = true ∧
        (accounts.get? userId = some account ∧ account.isSuperuser = true ∨
          Reaches accounts calls userId permissionCode)) ∧
      ∀ later, Opens permissionCode (run accounts calls) userId →
        Opens permissionCode (run accounts (calls ++ later)) userId := by
  refine ⟨opens_run_iff accounts calls userId permissionCode, ?_⟩
  intro later opens
  obtain ⟨account, found, usable, may⟩ := (opens_iff _ _ _).mp opens
  have kept := Runs.run_preserves step (fun db =>
    db.accounts.get? userId = some account ∧
      ∀ permissionId permission,
        (run accounts calls).permissions.get? permissionId = some permission →
          db.permissions.get? permissionId = some permission)
    (fun db call before => ⟨(step_rows_kept db call).1 _ _ before.1,
      fun _ _ found => (step_rows_kept db call).2 _ _ (before.2 _ _ found)⟩)
    (run accounts calls) later ⟨found, fun _ _ found => found⟩
  have split : Runs.run step (run accounts calls) later = run accounts (calls ++ later) :=
    (Runs.run_append step _ calls later).symm
  rw [split] at kept
  refine (opens_iff _ _ _).mpr ⟨account, kept.1, usable, may.imp_right ?_⟩
  rw [reaches_iff, reaches_iff]
  rintro ⟨roleId, permissionId, permission, holds, granted, present, same⟩
  exact ⟨roleId, permissionId, permission, granted_append _ _ _ _ _ holds,
    granted_append _ _ _ _ _ granted, kept.2 _ _ present, same⟩

end Gates

end RetailApp.Access
