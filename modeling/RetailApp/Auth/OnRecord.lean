import RetailApp.Auth.Grants

/-! The trail that assignments leave: one audit row for each, in the order they were made. -/

namespace RetailApp.Access

open Transaction Auth

def Recorded (accounts : Table Account) (table : MappingTable) (log : MappingAuditLog)
    (row : Mapping) : Prop :=
  ∃ actorUserId account, accounts.get? actorUserId = some account ∧ account.isSuperuser = true ∧
    log = ⟨some actorUserId, table.action, table.entityType, mappingEntityId row⟩

def logsOf (table : MappingTable) (db : RbacDb) : List MappingAuditLog :=
  db.auditLogs.rows.filter (·.action == table.action)

structure OnRecord (accounts : Table Account) (db : RbacDb) : Prop where
  once : ∀ table, (MappingTable.mappings db table).rows.Nodup
  recorded : ∀ table, List.Forall₂ (Recorded accounts table) (logsOf table db)
    (MappingTable.mappings db table).rows
  nothingElse : ∀ log ∈ db.auditLogs.rows, ∃ table, log.action = MappingTable.action table

theorem onRecord_congr (accounts : Table Account) (db db' : RbacDb)
    (mappings : ∀ table, MappingTable.mappings db' table = MappingTable.mappings db table)
    (logs : db'.auditLogs = db.auditLogs) (before : OnRecord accounts db) :
    OnRecord accounts db' := by
  refine ⟨?_, ?_, ?_⟩
  · intro table
    rw [mappings]
    exact before.once table
  · intro table
    rw [logsOf, logs, mappings]
    exact before.recorded table
  · rw [logs]
    exact before.nothingElse

theorem created_onRecord (accounts : Table Account) (db db' : AccessDb)
    (created : Created db db') (before : OnRecord accounts db.mapped) :
    OnRecord accounts db'.mapped := by
  refine onRecord_congr accounts db.mapped db'.mapped (created_mappings db db' created) ?_ before
  cases created <;> rfl

theorem action_injective (table other : MappingTable) (same : table.action = other.action) :
    table = other := by
  cases table <;> cases other <;> first | rfl | exact absurd same (by decide)

theorem assigned_onRecord (accounts : Table Account) (table : MappingTable) (actor : User)
    (db : RbacDb) (row : Mapping) (account : Account)
    (found : accounts.get? actor.id = some account) (super : account.isSuperuser = true)
    (before : OnRecord accounts db) : OnRecord accounts (assigned table actor db row) := by
  by_cases present : row ∈ (table.mappings db).rows
  · rw [assigned, if_pos present]
    exact before
  · have logs : (assigned table actor db row).auditLogs.rows = db.auditLogs.rows ++
        [⟨some actor.id, table.action, table.entityType, mappingEntityId row⟩] := by
      rw [assigned, if_neg present]
      rfl
    have others (other : MappingTable) (apart : table ≠ other) :
        other.mappings (assigned table actor db row) = other.mappings db :=
      mappings_other table other apart actor row.ownerId [row.grantedId] db
    refine ⟨?_, ?_, ?_⟩
    · intro other
      by_cases this : table = other
      · subst this
        rw [mappings_assigned table actor db row present, Table.insert, List.nodup_append_comm,
          List.singleton_append, List.nodup_cons]
        exact ⟨present, before.once table⟩
      · rw [others other this]
        exact before.once other
    · intro other
      rw [logsOf, logs, List.filter_append]
      by_cases this : table = other
      · subst this
        rw [mappings_assigned table actor db row present, List.filter_singleton, beq_self_eq_true]
        exact List.rel_append (before.recorded table)
          (.cons ⟨actor.id, account, found, super, rfl⟩ .nil)
      · have skipped : (table.action == other.action) = false :=
          beq_eq_false_iff_ne.mpr (fun same => this (action_injective table other same))
        rw [others other this, List.filter_singleton, skipped, cond_false, List.append_nil]
        exact before.recorded other
    · intro log member
      rw [logs] at member
      rcases List.mem_append.mp member with old | new
      · exact before.nothingElse log old
      · exact ⟨table, by rw [List.mem_singleton.mp new]⟩

theorem assignedAll_onRecord (accounts : Table Account) (table : MappingTable) (actor : User)
    (ownerId : Int) (grantedIds : List Int) (account : Account)
    (found : accounts.get? actor.id = some account) (super : account.isSuperuser = true)
    (db : RbacDb) (before : OnRecord accounts db) :
    OnRecord accounts (assignedAll table actor ownerId grantedIds db) := by
  induction grantedIds generalizing db with
  | nil => exact before
  | cons grantedId grantedIds ih =>
      exact ih _ (assigned_onRecord accounts table actor db ⟨ownerId, grantedId⟩ account found super
        before)

structure Kept (accounts : Table Account) (db : AccessDb) : Prop where
  noNewSuperusers : NoNewSuperusers accounts db
  onRecord : OnRecord accounts db.mapped
  codes : (db.permissions.rows.map (·.code)).Nodup
  names : (db.roles.rows.map (·.name)).Nodup

theorem step_kept (accounts : Table Account) (db : AccessDb) (call : Call)
    (kept : Kept accounts db) : Kept accounts (step db call) := by
  have superusers := step_noNewSuperusers accounts db call kept.noNewSuperusers
  cases asks : call.assignment with
  | none =>
      have created := step_creates db call asks
      have onRecord := created_onRecord accounts db _ created kept.onRecord
      generalize step db call = db' at created superusers onRecord
      cases created with
      | nothing => exact kept
      | account => exact ⟨superusers, onRecord, kept.codes, kept.names⟩
      | permission row free =>
          refine ⟨superusers, onRecord, ?_, kept.names⟩
          rw [Table.insert, List.map_append, List.map_singleton, List.nodup_append_comm,
            List.singleton_append, List.nodup_cons]
          exact ⟨free, kept.codes⟩
      | role row free =>
          refine ⟨superusers, onRecord, kept.codes, ?_⟩
          rw [Table.insert, List.map_append, List.map_singleton, List.nodup_append_comm,
            List.singleton_append, List.nodup_cons]
          exact ⟨free, kept.names⟩
  | some assignment =>
      rcases step_assigns db call assignment asks with ⟨passes, wrote⟩ | ⟨_, same⟩
      · have may := passes.1
        simp only [administers, Option.any_eq_true, Bool.and_eq_true] at may
        obtain ⟨account, present, super, _⟩ := may
        have recorded := assignedAll_onRecord accounts assignment.table
          ⟨assignment.actorUserId, true, db.rolesOf assignment.actorUserId⟩ assignment.ownerId
          (assignment.taken db) account (kept.noNewSuperusers _ account present super) super
          db.mapped kept.onRecord
        rw [wrote] at superusers ⊢
        exact ⟨superusers, onRecord_congr accounts _ _
          (fun table => mappings_withMapped table db _) rfl recorded, kept.codes, kept.names⟩
      · rw [same]
        exact kept

/-- After any run every pair is in its table once and refers to an owner and a granted row that
exist; the audit rows of either table are those of its pairs, one for each and in their order,
each by a superuser, and there are no others; no permission code and no role name is there
twice. -/
theorem assignments_on_record (accounts : Table Account) (calls : List Call) :
    OnRecord accounts (run accounts calls).mapped ∧ Referenced (run accounts calls) ∧
      ((run accounts calls).permissions.rows.map (·.code)).Nodup ∧
      ((run accounts calls).roles.rows.map (·.name)).Nodup := by
  have kept : Kept accounts (run accounts calls) := by
    refine Runs.run_preserves step (Kept accounts) (step_kept accounts) _ calls ?_
    refine ⟨fun _ _ found _ => found, ⟨?_, ?_, ?_⟩, List.nodup_nil, List.nodup_nil⟩
    · intro table
      cases table <;> exact List.nodup_nil
    · intro table
      cases table <;> exact .nil
    · intro log member
      cases member
  exact ⟨kept.onRecord, run_referenced accounts calls, kept.codes, kept.names⟩

end RetailApp.Access
