import RetailApp.Services.SecurityAdmin

/-! When an assignment of many ids that ends in a missing one leaves the tables as they were: the
ids in front of it are committed one by one. -/

namespace RetailApp.Auth

open Transaction

variable (table : MappingTable) (actor : User)

def assigned (db : RbacDb) (row : Mapping) : RbacDb :=
  if row ∈ (table.mappings db).rows then db
  else { table.insert db row with
    auditLogs := db.auditLogs.insert
      ⟨some actor.id, table.action, table.entityType, mappingEntityId row⟩ }

@[simp] theorem ownerIds_assigned (db : RbacDb) (row : Mapping) :
    table.ownerIds (assigned table actor db row) = table.ownerIds db := by
  unfold assigned
  split
  · rfl
  · cases table <;> rfl

@[simp] theorem grantedIds_assigned (db : RbacDb) (row : Mapping) :
    table.grantedIds (assigned table actor db row) = table.grantedIds db := by
  unfold assigned
  split
  · rfl
  · cases table <;> rfl

theorem mappings_assigned (db : RbacDb) (row : Mapping) (new : row ∉ (table.mappings db).rows) :
    table.mappings (assigned table actor db row) = (table.mappings db).insert row := by
  rw [assigned, if_neg new]
  cases table <;> rfl

theorem mem_mappings_assigned (db : RbacDb) (row other : Mapping) :
    other ∈ (table.mappings (assigned table actor db row)).rows ↔
      other ∈ (table.mappings db).rows ∨ other = row := by
  by_cases present : row ∈ (table.mappings db).rows
  · rw [assigned, if_pos present]
    refine (or_iff_left_of_imp ?_).symm
    rintro rfl
    exact present
  · rw [mappings_assigned table actor db row present, Table.insert, List.mem_append,
      List.mem_singleton]

theorem assign_run (db : RbacDb) (row : Mapping) (owner : row.ownerId ∈ table.ownerIds db) :
    assign table actor row db =
      if row.grantedId ∈ table.grantedIds db then .ok () (assigned table actor db row)
      else .error (.notFound table.grantedMissing) db := by
  by_cases known : row.grantedId ∈ table.grantedIds db
  · by_cases present : row ∈ (table.mappings db).rows
    · simp [assign, run_bind, owner, known, present, assigned]
    · have inserted : insertMapping table row db = .ok () (table.insert db row) := by
        simp [insertMapping, run_bind, present]
      have sameLogs : (table.insert db row).auditLogs = db.auditLogs := by cases table <;> rfl
      simp [assign, run_bind, owner, known, present, assigned, transactional, inserted, sameLogs]
  · simp [assign, run_bind, owner, known]

def assignedAll (ownerId : Int) (grantedIds : List Int) (db : RbacDb) : RbacDb :=
  grantedIds.foldl (fun db grantedId => assigned table actor db ⟨ownerId, grantedId⟩) db

def known (db : RbacDb) (grantedId : Int) : Bool := decide (grantedId ∈ table.grantedIds db)

theorem assignEach_run (ownerId : Int) (grantedIds : List Int) (db : RbacDb) :
    assignEach table actor ownerId grantedIds db =
      if ownerId ∉ table.ownerIds db then .error (.notFound table.ownerMissing) db
      else if grantedIds.all (known table db) then
        .ok ⟨table.assignedMessage, grantedIds.length⟩
          (assignedAll table actor ownerId grantedIds db)
      else .error (.notFound table.grantedMissing)
        (assignedAll table actor ownerId (grantedIds.takeWhile (known table db)) db) := by
  by_cases owner : ownerId ∈ table.ownerIds db
  · have loop := run_counted_loop (fun grantedId => assign table actor ⟨ownerId, grantedId⟩)
      (known table db) (.notFound table.grantedMissing)
      (fun db grantedId => assigned table actor db ⟨ownerId, grantedId⟩)
      (fun between => table.ownerIds between = table.ownerIds db ∧
        table.grantedIds between = table.grantedIds db)
      (by
        rintro between grantedId ⟨sameOwners, sameGranted⟩
        rw [assign_run table actor between _ (sameOwners ▸ owner), sameGranted]
        simp [known])
      (by simp)
      grantedIds 0 db ⟨rfl, rfl⟩
    rw [assignEach, run_bind, run_get]
    simp only [owner, not_true_eq_false, if_false, not_false_eq_true, raiseIf_neg, run_bind,
      run_attempt_ok, loop, Nat.zero_add]
    cases grantedIds.all (known table db) <;> rfl
  · simp [assignEach, run_bind, owner]

theorem mem_assignedAll (ownerId : Int) (grantedIds : List Int) (db : RbacDb) (row : Mapping) :
    row ∈ (table.mappings (assignedAll table actor ownerId grantedIds db)).rows ↔
      row ∈ (table.mappings db).rows ∨ ∃ grantedId ∈ grantedIds, row = ⟨ownerId, grantedId⟩ := by
  induction grantedIds generalizing db with
  | nil => simp [assignedAll]
  | cons grantedId grantedIds ih =>
      have rest := ih (assigned table actor db ⟨ownerId, grantedId⟩)
      rw [mem_mappings_assigned] at rest
      simp only [assignedAll, List.foldl_cons] at rest ⊢
      rw [rest, or_assoc]
      simp

theorem assignedAll_same (ownerId : Int) (grantedIds : List Int) (db : RbacDb) :
    assignedAll table actor ownerId grantedIds db = db ↔
      ∀ grantedId ∈ grantedIds, ⟨ownerId, grantedId⟩ ∈ (table.mappings db).rows := by
  constructor
  · intro same grantedId member
    have written := (mem_assignedAll table actor ownerId grantedIds db ⟨ownerId, grantedId⟩).mpr
      (Or.inr ⟨grantedId, member, rfl⟩)
    rwa [same] at written
  · intro present
    induction grantedIds with
    | nil => rfl
    | cons grantedId grantedIds ih =>
        obtain ⟨first, others⟩ := List.forall_mem_cons.mp present
        rw [assignedAll, List.foldl_cons, assigned, if_pos first]
        exact ih others

def UndoneWhenNotFound (call : RbacService AssignedResponse) (db : RbacDb) : Prop :=
  ∀ message, reply call db = .error (.notFound message) → after call db = db

def NothingNewBeforeMissing (ownerId : Int) (grantedIds : List Int) (db : RbacDb) : Prop :=
  ∀ grantedId ∈ grantedIds.takeWhile (known table db),
    ⟨ownerId, grantedId⟩ ∈ (table.mappings db).rows

theorem assignEach_undone_iff (ownerId : Int) (grantedIds : List Int) (db : RbacDb) :
    UndoneWhenNotFound (assignEach table actor ownerId grantedIds) db ↔
      ownerId ∉ table.ownerIds db ∨ (∀ grantedId ∈ grantedIds, grantedId ∈ table.grantedIds db) ∨
        NothingNewBeforeMissing table ownerId grantedIds db := by
  have outcome := assignEach_run table actor ownerId grantedIds db
  have allKnown : grantedIds.all (known table db) = true ↔
      ∀ grantedId ∈ grantedIds, grantedId ∈ table.grantedIds db := by
    simp [known]
  by_cases owner : ownerId ∈ table.ownerIds db
  · rw [if_neg (not_not.mpr owner)] at outcome
    rw [← allKnown]
    cases all : grantedIds.all (known table db) with
    | true =>
        rw [all, if_pos rfl] at outcome
        refine iff_of_true ?_ (Or.inr (Or.inl rfl))
        intro message failed
        rw [reply, outcome] at failed
        cases failed
    | false =>
        rw [all, if_neg Bool.false_ne_true] at outcome
        rw [NothingNewBeforeMissing, ← assignedAll_same table actor]
        constructor
        · intro undone
          have same := undone table.grantedMissing (by rw [reply, outcome])
          rw [after, outcome] at same
          exact Or.inr (Or.inr same)
        · rintro (missing | impossible | same) message _
          · exact (missing owner).elim
          · cases impossible
          · rw [after, outcome]
            exact same
  · rw [if_pos owner] at outcome
    refine iff_of_true ?_ (Or.inl owner)
    intro message _
    rw [after, outcome]

/-- Both endpoints are atomic exactly where the owner is missing, no id is missing, or the ids in
front of the first missing one are all assigned already. -/
theorem bulk_assignment_atomic_iff (actor : User) (db : RbacDb) :
    (∀ roleId payload,
      UndoneWhenNotFound (assignPermissionsToRoleEndpoint actor roleId payload) db ↔
        roleId ∉ db.roleIds ∨
          (∀ permissionId ∈ payload.permissionIds, permissionId ∈ db.permissionIds) ∨
          NothingNewBeforeMissing .rolePermission roleId payload.permissionIds db) ∧
    ∀ userId payload,
      UndoneWhenNotFound (assignRolesToUserEndpoint actor userId payload) db ↔
        userId ∉ db.userIds ∨ (∀ roleId ∈ payload.roleIds, roleId ∈ db.roleIds) ∨
          NothingNewBeforeMissing .userRole userId payload.roleIds db :=
  ⟨fun roleId payload => assignEach_undone_iff .rolePermission actor roleId payload.permissionIds db,
    fun userId payload => assignEach_undone_iff .userRole actor userId payload.roleIds db⟩

def unassigned : RbacDb := ⟨[1], [1], [1, 2], Table.empty, Table.empty, Table.empty⟩

def administrator : User := ⟨1, true, []⟩

theorem knownThenMissing_notEmpty : 1 ≤ ([1, 99] : List Int).length := by decide

def permissionOneThenMissing : RolePermissionsRequest := ⟨[1, 99], knownThenMissing_notEmpty⟩

def roleOneThenMissing : UserRolesRequest := ⟨[1, 99], knownThenMissing_notEmpty⟩

/-- Both calls are answered with 404 and keep the first assignment. -/
theorem first_assignment_kept :
    reply (assignPermissionsToRoleEndpoint administrator 1 permissionOneThenMissing) unassigned =
        .error (.notFound "Permission not found") ∧
      (after (assignPermissionsToRoleEndpoint administrator 1 permissionOneThenMissing)
        unassigned).rolePermissions.rows = [⟨1, 1⟩] ∧
      (after (assignPermissionsToRoleEndpoint administrator 1 permissionOneThenMissing)
        unassigned).auditLogs.rows =
          [⟨some 1, "auth.permission.assign", "role_permission", "1:1"⟩] ∧
      ¬ UndoneWhenNotFound
        (assignPermissionsToRoleEndpoint administrator 1 permissionOneThenMissing) unassigned ∧
      reply (assignRolesToUserEndpoint administrator 1 roleOneThenMissing) unassigned =
        .error (.notFound "Role not found") ∧
      (after (assignRolesToUserEndpoint administrator 1 roleOneThenMissing)
        unassigned).userRoles.rows = [⟨1, 1⟩] := by
  refine ⟨by decide +kernel, by decide +kernel, by decide +kernel, ?_, by decide +kernel,
    by decide +kernel⟩
  intro undone
  have same := undone "Permission not found" (by decide +kernel)
  exact absurd same (by decide +kernel)

end RetailApp.Auth
