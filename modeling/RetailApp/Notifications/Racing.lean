import RetailApp.Library.TwoStep
import RetailApp.Notifications.Calls

/-! Triggers that race: each decides by the notifications it read whether its topic is held
back, and another trigger on the topic may have sent since. Nothing refuses the second batch. -/

namespace RetailApp.Notifications.Racing

open Protocol Transaction

structure Request where
  env : NotificationEnv
  payload : NotificationEventTriggerRequest

/-- A trigger that was not held back: the channels it found, and up to where it had read. -/
structure Plan where
  request : Request
  channels : List NotificationChannel
  seen : Nat

/-- `trigger_notification`, split between its queries and its transaction. -/
def triggers : Protocol Request NotificationDb Raised (Option NotificationResponse) Plan where
  read := fun request db => do
    raiseIf (request.payload.recipientUserId ∉ db.userIds)
      (.notFound "Notification recipient not found")
    if isThrottled request.env.now request.payload.recipientUserId request.payload.eventType.1
        request.payload.objectType.1 request.payload.objectId.1 db then
      return .inl none
    else
      return .inr ⟨request, request.env.setOrder.arrange (channels request.payload db),
        db.notifications.nextKey⟩
  commit := fun plan => do
    match ← transactional
        (createNotifications plan.request.env plan.request.payload none plan.channels) with
    | none => return none
    | some notificationId => some <$> refreshNotification notificationId

theorem serve_triggerNotification (request : Request) (db : NotificationDb) :
    triggers.serve request db = triggerNotification request.env request.payload db := by
  by_cases known : request.payload.recipientUserId ∈ db.userIds
  · by_cases throttled : isThrottled request.env.now request.payload.recipientUserId
      request.payload.eventType.1 request.payload.objectType.1 request.payload.objectId.1 db = true
    · simp [Protocol.serve, triggers, triggerNotification, run_bind, known, throttled]
    · cases sent : transactional (createNotifications request.env request.payload none
        (request.env.setOrder.arrange (channels request.payload db))) db with
      | error raised later =>
        simp [Protocol.serve, triggers, triggerNotification, run_bind, known, throttled, sent]
      | ok value later =>
        cases value <;>
          simp [Protocol.serve, triggers, triggerNotification, run_bind, known, throttled, sent]
  · simp [Protocol.serve, triggers, triggerNotification, run_bind, known]
    rfl

/-- The in-site notifications: each batch has exactly one. -/
def inSiteRows (db : NotificationDb) : List Notification :=
  db.notifications.rows.filter (fun row => row.channel == .inSite)

def Clash (row row' : Notification) : Prop :=
  topicOf row = topicOf row' ∧ |row'.createdAt - row.createdAt| ≤ timedeltaMinutes 10

/-- No two batches on one topic within ten minutes of each other. -/
def Apart (db : NotificationDb) : Prop := (inSiteRows db).Pairwise (fun row row' => ¬ Clash row row')

def Plan.inSite (plan : Plan) : Notification :=
  newNotification plan.request.env plan.request.payload .inSite

/-- Since the trigger read the tables, another has sent a batch that clashes with its own. -/
def Overtaken (db : NotificationDb) (plan : Plan) : Prop :=
  ∃ key row, plan.seen ≤ key ∧ db.notifications.get? key = some row ∧ row.channel = .inSite ∧
    Clash row plan.inSite

structure Sound (db : NotificationDb) (plan : Plan) : Prop where
  known : plan.request.payload.recipientUserId ∈ db.userIds
  inSite : plan.channels.filter (· == .inSite) = [.inSite]
  seen : plan.seen ≤ db.notifications.nextKey
  free : ∀ key row, key < plan.seen → db.notifications.get? key = some row →
    topicOf row = topicAsked plan.request.payload →
    row.createdAt < plan.request.env.now - timedeltaMinutes 10

def committedTables (plan : Plan) (db : NotificationDb) : NotificationDb :=
  { db with
    notifications := db.notifications.insertAll
      (plan.channels.map (newNotification plan.request.env plan.request.payload)) }

theorem read_planned (request : Request) (db : NotificationDb)
    (answer : Option NotificationResponse ⊕ Plan)
    (read : triggers.read request db = .ok answer) :
    answer = .inl none ∨ ∃ plan, answer = .inr plan ∧ Sound db plan := by
  simp only [triggers, bind_except_ok, raiseIf_ok, not_not] at read
  obtain ⟨_, known, read⟩ := read
  split at read
  · exact .inl (Except.ok.inj read).symm
  · rename_i free
    refine .inr ⟨_, (Except.ok.inj read).symm, known, ?_, le_rfl, ?_⟩
    · have listed : NotificationChannel.inSite ∈ channels request.payload db := by
        rw [channels, List.mem_dedup]
        exact List.mem_cons_self
      have once : (channels request.payload db).filter (· == .inSite) = [.inSite] := by
        have distinct : (channels request.payload db).Nodup := List.nodup_dedup _
        rw [List.filter_beq, List.count_eq_one_of_mem distinct listed, List.replicate_one]
      have perm := (request.env.setOrder.perm (channels request.payload db)).filter (· == .inSite)
      rw [once] at perm
      exact List.perm_singleton.mp perm
    · intro key row _ present same
      by_contra young
      exact free ((isThrottled_iff request.env.now request.payload db).mpr
        ⟨row, (Table.mem_rows _ _).mpr ⟨key, present⟩, same, not_lt.mp young⟩)

theorem commit_eq (plan : Plan) (db : NotificationDb) (sound : Sound db plan) :
    ∃ answer, triggers.commit plan db = .ok answer (committedTables plan db) := by
  obtain ⟨last, looped, present, _⟩ := createNotifications_eq plan.request.env plan.request.payload
    plan.channels db sound.known none (by simp)
  have committed := (transactional_ok _ _ _ _).mpr looped
  cases last with
  | none => exact ⟨none, by simp [triggers, run_bind, committed, committedTables]⟩
  | some key =>
      obtain ⟨row, stored⟩ := present key rfl
      refine ⟨some (toNotificationResponse (key, row)), ?_⟩
      simp [triggers, run_bind, run_map, committed, committedTables, refreshNotification, stored]

theorem get?_insertAll_below (table : Table Notification) (rows : List Notification) (key : Nat)
    (below : key < table.nextKey) : (table.insertAll rows).get? key = table.get? key := by
  cases present : table.get? key with
  | some row => exact Table.get?_insertAll_of_some table rows key row present
  | none =>
      cases key with
      | zero => rfl
      | succ index =>
          exact absurd (Table.nextKey_le table _ (Nat.succ_pos index) present) below.not_ge

theorem sound_committed (plan other : Plan) (db : NotificationDb) (sound : Sound db other) :
    Sound (committedTables plan db) other := by
  refine ⟨sound.known, sound.inSite, ?_, ?_⟩
  · refine sound.seen.trans ?_
    simp [committedTables, Table.nextKey, Table.insertAll]
  · intro key row below present same
    rw [committedTables, get?_insertAll_below _ _ _ (below.trans_le sound.seen)] at present
    exact sound.free key row below present same

theorem commit_apart_iff (plan : Plan) (db : NotificationDb) (sound : Sound db plan) :
    Apart (committedTables plan db) ↔ Apart db ∧ ¬ Overtaken db plan := by
  have appended : inSiteRows (committedTables plan db) = inSiteRows db ++ [plan.inSite] := by
    have created : (plan.channels.map (newNotification plan.request.env
        plan.request.payload)).filter (fun row => row.channel == .inSite) = [plan.inSite] := by
      rw [List.filter_map]
      exact congrArg (List.map _) sound.inSite
    rw [inSiteRows, committedTables, Table.insertAll, List.filter_append, created, inSiteRows]
  have listed (row : Notification) : row ∈ inSiteRows db ↔
      (∃ key, db.notifications.get? key = some row) ∧ row.channel = .inSite := by
    rw [inSiteRows, List.mem_filter, Table.mem_rows, beq_iff_eq]
  rw [Apart, appended, List.pairwise_append, and_iff_right (List.pairwise_singleton _ _)]
  refine and_congr_right (fun _ => ?_)
  constructor
  · rintro clear ⟨key, row, _, present, inSite, clash⟩
    exact clear row ((listed row).mpr ⟨⟨key, present⟩, inSite⟩) _ (List.mem_singleton.mpr rfl) clash
  · intro first row member other isNew clash
    obtain rfl := List.mem_singleton.mp isNew
    obtain ⟨⟨key, present⟩, inSite⟩ := (listed row).mp member
    rcases Nat.lt_or_ge key plan.seen with read | unread
    · have old := sound.free key row read present clash.1
      have close := (abs_le.mp clash.2).2
      have now : plan.inSite.createdAt = plan.request.env.now := rfl
      rw [now] at close
      linarith
    · exact first ⟨key, row, unread, present, inSite, clash⟩

abbrev Triggers : Type := World Request NotificationDb (Option NotificationResponse) Plan

def InTime (world : Triggers) : Event Request → Prop
  | .start _ => True
  | .finish position => ∀ request plan, world.inFlight[position]? = some (request, plan) →
      ¬ Overtaken world.tables plan

def Ground (world : Triggers) : Prop := ∀ entry ∈ world.inFlight, Sound world.tables entry.2

theorem step_ground (world : Triggers) (event : Event Request) (ground : Ground world) :
    Ground (triggers.step world event) := by
  have stepped := triggers.step_stepped world event
  generalize triggers.committing world event = commits, triggers.step world event = world'
    at stepped ⊢
  cases stepped with
  | refused request raised outcome => exact ground
  | answered request answer outcome => exact ground
  | planned request plan outcome =>
      intro entry member
      rcases List.mem_append.mp member with old | new
      · exact ground entry old
      · obtain rfl := List.mem_singleton.mp new
        rcases read_planned request world.tables _ outcome with answered | ⟨_, same, sound⟩
        · cases answered
        · exact Sum.inr.inj same ▸ sound
  | missing position entry => exact ground
  | raised position request plan raised tables entry outcome =>
      obtain ⟨answer, committed⟩ :=
        commit_eq plan world.tables (ground _ (List.mem_of_getElem? entry))
      cases outcome.symm.trans committed
  | committed position request plan answer tables entry outcome =>
      obtain ⟨_, committed⟩ := commit_eq plan world.tables (ground _ (List.mem_of_getElem? entry))
      obtain ⟨_, rfl⟩ := EStateM.Result.ok.inj (outcome.symm.trans committed)
      intro other member
      exact sound_committed plan other.2 world.tables (ground other (List.mem_of_mem_eraseIdx member))

theorem step_apart (world : Triggers) (event : Event Request) (ground : Ground world) :
    Apart (triggers.step world event).tables ↔ Apart world.tables ∧ InTime world event := by
  have stepped := triggers.step_stepped world event
  generalize triggers.committing world event = commits, triggers.step world event = world'
    at stepped ⊢
  cases stepped with
  | refused request raised outcome => exact (and_iff_left trivial).symm
  | answered request answer outcome => exact (and_iff_left trivial).symm
  | planned request plan outcome => exact (and_iff_left trivial).symm
  | missing position entry =>
      refine (and_iff_left ?_).symm
      intro request plan there
      cases entry.symm.trans there
  | raised position request plan raised tables entry outcome =>
      obtain ⟨answer, committed⟩ :=
        commit_eq plan world.tables (ground _ (List.mem_of_getElem? entry))
      cases outcome.symm.trans committed
  | committed position request plan answer tables entry outcome =>
      have sound := ground _ (List.mem_of_getElem? entry)
      obtain ⟨_, committed⟩ := commit_eq plan world.tables sound
      obtain ⟨_, rfl⟩ := EStateM.Result.ok.inj (outcome.symm.trans committed)
      rw [commit_apart_iff plan world.tables sound]
      refine and_congr_right (fun _ => ?_)
      constructor
      · intro free request' plan' there
        obtain ⟨_, rfl⟩ := Prod.mk.inj (Option.some.inj (entry.symm.trans there))
        exact free
      · exact fun inTime => inTime request plan entry

/-- From any tables and along any interleaving of triggers, no two batches on a topic end up
within ten minutes of each other, by the `created_at` that is the clock value of the call that sent
them, exactly when there were none such to begin with and no trigger was overtaken on its topic
between its read and its commit. -/
theorem racing_batches_apart_iff (db : NotificationDb) (schedule : List (Event Request)) :
    Apart (triggers.run (World.idle db) schedule).tables ↔
      Apart db ∧ Runs.Along triggers.step InTime (World.idle db) schedule :=
  Runs.final_iff triggers.step Ground (fun world => Apart world.tables) InTime step_ground step_apart
    (World.idle db) schedule (fun _ member => nomatch member)

def alertRequest (now : Time) : Request :=
  ⟨⟨now, RowOrder.byKey, RowOrder.byKey⟩,
    ⟨7, ⟨"stock_low", by decide⟩, ⟨"product", by decide⟩, ⟨"SKU-COLA", by decide⟩,
      ⟨"Stock Low", by decide⟩, ⟨"Only three left", by decide⟩⟩⟩

def racingAlerts : List (Event Request) :=
  [.start (alertRequest 0), .start (alertRequest 1000), .finish 0, .finish 0,
    .start (alertRequest 2000)]

example : (triggers.run (World.idle (NotificationDb.start [7]))
    racingAlerts).tables.notifications.rows.map (·.createdAt) = [0, 1000] := by decide +kernel

end RetailApp.Notifications.Racing
