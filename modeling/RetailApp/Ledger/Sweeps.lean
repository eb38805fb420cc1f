import RetailApp.Ledger.Expiry

/-! What one expiry sweep does to the tables, and what several sweeps leave when one follows
another. -/

namespace RetailApp.Ledger

open Transaction

/-- Unsettled at `now` although it was created thirty minutes before or earlier. -/
def Lapsed (now : Time) (order : Order) : Prop :=
  (order.status = .pending ∨ order.status = .partiallyPaid) ∧
    order.createdAt + timedeltaMinutes 30 ≤ now

instance (now : Time) (order : Order) : Decidable (Lapsed now order) :=
  inferInstanceAs (Decidable (_ ∧ _))

theorem lapsed_iff (now : Time) (order : Order) :
    Lapsed now order ↔ isUnsettled order = true ∧ overdue now order = true := by
  rw [Lapsed, isUnsettled_iff, overdue, orderExpiryMinutes, decide_eq_true_iff]

theorem lapsed_mono (early late : Time) (order : Order) (ordered : early ≤ late)
    (lapsed : Lapsed early order) : Lapsed late order :=
  ⟨lapsed.1, lapsed.2.trans ordered⟩

theorem expired_of_lapsed (now : Time) (order : Order) (lapsed : Lapsed now order) :
    expired now order = voided now order := if_pos ((lapsed_iff now order).mp lapsed)

theorem expired_of_not (now : Time) (order : Order) (spared : ¬ Lapsed now order) :
    expired now order = order := if_neg (fun both => spared ((lapsed_iff now order).mpr both))

theorem not_lapsed_voided (now late : Time) (order : Order) :
    ¬ Lapsed late (voided now order) := by
  rintro ⟨pending | partly, _⟩
  · cases pending
  · cases partly

def autoVoidRow (entry : Nat × Order) : ImmutableAuditLog where
  actorUserId := none
  action := "order.auto_void"
  entityType := "order"
  entityId := entry.1
  details := .autoVoid entry.2.orderNo

structure SweptExactly (now : Time) (db db' : Db) (checked voidedCount : Nat) : Prop where
  voids : ∀ orderId order, db.orders.get? orderId = some order → Lapsed now order →
    db'.orders.get? orderId = some { order with
      status := .void
      voidedAt := some now
      voidReason := some "auto_void_unsettled_timeout" }
  spares : ∀ orderId order, db.orders.get? orderId = some order → ¬ Lapsed now order →
    db'.orders.get? orderId = some order
  keys : db'.orders.nextKey = db.orders.nextKey
  logs : ∃ rows, db'.auditLogs = db.auditLogs.insertAll rows ∧
    rows.Perm ((db.orders.entries.filter (fun entry => Lapsed now entry.2)).map autoVoidRow)
  frame : db' = { db with orders := db'.orders, auditLogs := db'.auditLogs }
  unsettled : checked =
    db.orders.rows.countP (fun order => order.status = .pending ∨ order.status = .partiallyPaid)
  lapsed : voidedCount = db.orders.rows.countP (fun order => Lapsed now order)

theorem sweepEntry_frame (now : Time) (db : Db) (entry : Nat × Order) :
    sweepEntry now db entry = { db with
      orders := (sweepEntry now db entry).orders
      auditLogs := db.auditLogs.insertAll
        (([entry].filter (fun entry => overdue now entry.2)).map autoVoidRow) } := by
  by_cases late : overdue now entry.2 = true
  · simp only [sweepEntry, late, if_true, List.filter_cons_of_pos, List.filter_nil, List.map_cons,
      List.map_nil, Table.insertAll_cons, Table.insertAll_nil]
    rfl
  · simp [sweepEntry, late]

theorem swept_frame (now : Time) (loaded : List (Nat × Order)) (db : Db) :
    swept now loaded db = { db with
      orders := (swept now loaded db).orders
      auditLogs := db.auditLogs.insertAll
        ((loaded.filter (fun entry => overdue now entry.2)).map autoVoidRow) } := by
  induction loaded generalizing db with
  | nil => simp [swept]
  | cons entry rest ih =>
      have split : (entry :: rest).filter (fun entry => overdue now entry.2) =
          [entry].filter (fun entry => overdue now entry.2) ++
            rest.filter (fun entry => overdue now entry.2) := by
        rw [← List.filter_append, List.singleton_append]
      have step := ih (sweepEntry now db entry)
      have entered := sweepEntry_frame now db entry
      rw [swept, List.foldl_cons]
      rw [swept] at step
      rw [step, entered, split, List.map_append]
      simp [Table.insertAll]

theorem lapsed_unpaidOrders (env : Env) (db : Db) :
    ((unpaidOrders db env).filter (fun entry => overdue env.now entry.2)).Perm
      (db.orders.entries.filter (fun entry => Lapsed env.now entry.2)) := by
  have lapsed (entry : Nat × Order) :
      (overdue env.now entry.2 && isUnsettled entry.2) = decide (Lapsed env.now entry.2) := by
    rw [Bool.eq_iff_iff, decide_eq_true_iff, lapsed_iff, Bool.and_eq_true, and_comm]
  have selected := (env.orderRows.perm (db.orders.entries.filter
    (fun entry => isUnsettled entry.2))).filter (fun entry => overdue env.now entry.2)
  simp only [List.filter_filter, lapsed] at selected
  exact selected

theorem sweep_exactly (env : Env) (db : Db) :
    ∃ checked voidedCount db', expireUnpaidOrders env db = .ok (checked, voidedCount) db' ∧
      SweptExactly env.now db db' checked voidedCount := by
  refine ⟨_, _, _, expireUnpaidOrders_eq env db, ?_⟩
  have row (orderId : Nat) (order : Order) (present : db.orders.get? orderId = some order) :
      (swept env.now (unpaidOrders db env) db).orders.get? orderId =
        some (expired env.now order) := by
    rw [expireUnpaidOrders_get?, present, Option.map_some]
  have frame := swept_frame env.now (unpaidOrders db env) db
  have logs := congrArg Db.auditLogs frame
  have lapsed := lapsed_unpaidOrders env db
  have loaded := (env.orderRows.perm (db.orders.entries.filter
    (fun entry => isUnsettled entry.2))).length_eq
  constructor
  · intro orderId order present lapsed
    rw [row orderId order present, expired_of_lapsed env.now order lapsed]
    rfl
  · intro orderId order present spared
    rw [row orderId order present, expired_of_not env.now order spared]
  · exact swept_nextKey env.now (unpaidOrders db env) db
  · exact ⟨_, logs, lapsed.map autoVoidRow⟩
  · rw [logs]
    exact frame
  · refine (loaded.trans (Table.length_filter_entries db.orders isUnsettled)).trans ?_
    congr 1
    funext order
    rw [Bool.eq_iff_iff, decide_eq_true_iff, isUnsettled_iff]
  · exact lapsed.length_eq.trans
      (Table.length_filter_entries db.orders (fun order => Lapsed env.now order))

theorem SweptExactly.rows (now : Time) (db db' : Db) (checked voidedCount : Nat)
    (sweep : SweptExactly now db db' checked voidedCount) :
    db'.orders.rows = db.orders.rows.map (expired now) := by
  apply Table.rows_map
  intro orderId
  cases present : db.orders.get? orderId with
  | none =>
      cases orderId with
      | zero => rfl
      | succ index =>
          have beyond : db.orders.rows.length ≤ index := List.getElem?_eq_none_iff.mp present
          have same : db'.orders.rows.length = db.orders.rows.length :=
            Nat.succ.inj sweep.keys
          exact List.getElem?_eq_none_iff.mpr (same ▸ beyond)
  | some order =>
      by_cases lapsed : Lapsed now order
      · rw [sweep.voids orderId order present lapsed, Option.map_some,
          expired_of_lapsed now order lapsed]
        rfl
      · rw [sweep.spares orderId order present lapsed, Option.map_some,
          expired_of_not now order lapsed]

theorem lapsed_expired (early late : Time) (order : Order) :
    Lapsed late (expired early order) ↔ Lapsed late order ∧ ¬ Lapsed early order := by
  by_cases lapsed : Lapsed early order
  · rw [expired_of_lapsed early order lapsed]
    exact iff_of_false (not_lapsed_voided early late order) (fun both => both.2 lapsed)
  · rw [expired_of_not early order lapsed]
    exact (and_iff_left lapsed).symm

theorem expired_status (early late : Time) (order : Order) (ordered : early ≤ late) :
    (expired late (expired early order)).status = (expired late order).status := by
  by_cases lapsed : Lapsed early order
  · have both := lapsed_mono early late order ordered lapsed
    rw [expired_of_lapsed early order lapsed, expired_of_lapsed late order both,
      expired_of_not late _ (not_lapsed_voided early late order)]
    rfl
  · rw [expired_of_not early order lapsed]

theorem count_lapsed (early late : Time) (orders : List Order) (ordered : early ≤ late) :
    orders.countP (fun order => Lapsed early order) +
      (orders.map (expired early)).countP (fun order => Lapsed late order) =
        orders.countP (fun order => Lapsed late order) := by
  induction orders with
  | nil => rfl
  | cons order orders ih =>
      have next := lapsed_expired early late order
      have mono := lapsed_mono early late order ordered
      simp only [List.map_cons, List.countP_cons, decide_eq_true_eq]
      by_cases first : Lapsed early order
      · rw [if_pos first, if_neg (fun again => (next.mp again).2 first), if_pos (mono first)]
        omega
      · by_cases second : Lapsed late order
        · rw [if_neg first, if_pos (next.mpr ⟨second, first⟩), if_pos second]
          omega
        · rw [if_neg first, if_neg (fun again => second (next.mp again).1), if_neg second]
          omega

theorem statusIn_swept (now : Time) (db db' : Db) (checked voidedCount : Nat)
    (sweep : SweptExactly now db db' checked voidedCount) (orderId : Nat) :
    statusIn db' orderId =
      (db.orders.get? orderId).map (fun order => (expired now order).status) := by
  cases orderId with
  | zero => rfl
  | succ index =>
      have rows := sweep.rows now db db' checked voidedCount
      rw [statusIn, Table.get?, rows, List.getElem?_map, Option.map_map]
      rfl

/-- A sweep does exactly what it says, and with a second one no earlier than it does together
what the second alone would have done. -/
theorem sweep_exact_and_additive (env : Env) (db : Db) :
    ∃ checked voidedFirst between,
      expireUnpaidOrders env db = .ok (checked, voidedFirst) between ∧
      SweptExactly env.now db between checked voidedFirst ∧
      ∀ later : Env, env.now ≤ later.now → ∃ rechecked voidedSecond twice checkedOnce voidedOnce once,
        expireUnpaidOrders later between = .ok (rechecked, voidedSecond) twice ∧
        expireUnpaidOrders later db = .ok (checkedOnce, voidedOnce) once ∧
        (∀ orderId, statusIn twice orderId = statusIn once orderId) ∧
        voidedFirst + voidedSecond = voidedOnce := by
  obtain ⟨checked, voidedFirst, between, returned, sweep⟩ := sweep_exactly env db
  refine ⟨checked, voidedFirst, between, returned, sweep, ?_⟩
  intro later ordered
  obtain ⟨rechecked, voidedSecond, twice, returnedSecond, second⟩ := sweep_exactly later between
  obtain ⟨checkedOnce, voidedOnce, once, returnedOnce, alone⟩ := sweep_exactly later db
  have rows := sweep.rows env.now db between checked voidedFirst
  refine ⟨rechecked, voidedSecond, twice, checkedOnce, voidedOnce, once, returnedSecond,
    returnedOnce, ?_, ?_⟩
  · intro orderId
    rw [statusIn_swept later.now between twice _ _ second,
      statusIn_swept later.now db once _ _ alone]
    cases orderId with
    | zero => rfl
    | succ index =>
        rw [Table.get?, rows, List.getElem?_map, Option.map_map, Table.get?]
        congr 1
        funext order
        exact expired_status env.now later.now order ordered
  · rw [sweep.lapsed, second.lapsed, alone.lapsed, rows]
    exact count_lapsed env.now later.now db.orders.rows ordered

def sweepAll (db : Db) (envs : List Env) : Db :=
  Runs.run (fun db env => after (expireUnpaidOrders env) db) db envs

theorem get?_sweepAll (db : Db) (envs : List Env) (orderId : Nat) :
    (sweepAll db envs).orders.get? orderId =
      (db.orders.get? orderId).map (fun order =>
        envs.foldl (fun order env => expired env.now order) order) := by
  induction envs generalizing db with
  | nil => exact Option.map_id'.symm
  | cons env envs ih =>
      have first : (after (expireUnpaidOrders env) db).orders.get? orderId =
          (db.orders.get? orderId).map (expired env.now) := by
        rw [after_ok _ _ _ _ (expireUnpaidOrders_eq env db), expireUnpaidOrders_get?]
      have rest := ih (after (expireUnpaidOrders env) db)
      rw [first, Option.map_map] at rest
      exact rest

theorem sweepAll_status (db : Db) (envs : List Env) (last : Env)
    (ordered : ∀ env ∈ envs, env.now ≤ last.now) (orderId : Nat) :
    statusIn (sweepAll db (envs ++ [last])) orderId = statusIn (sweepAll db [last]) orderId := by
  have row (order : Order) :
      (expired last.now (envs.foldl (fun order env => expired env.now order) order)).status =
        (expired last.now order).status := by
    induction envs generalizing order with
    | nil => rfl
    | cons env envs ih =>
        obtain ⟨first, rest⟩ := List.forall_mem_cons.mp ordered
        rw [List.foldl_cons, ih rest (expired env.now order)]
        exact expired_status env.now last.now order first
  rw [statusIn, statusIn, get?_sweepAll, get?_sweepAll, Option.map_map, Option.map_map]
  congr 1
  funext order
  simpa using row order

end RetailApp.Ledger
