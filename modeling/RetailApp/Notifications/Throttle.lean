import RetailApp.Notifications.Calls

/-! What a trigger delivers over whole runs: nothing within ten minutes of the last batch on
its topic, and otherwise one notification for each channel the recipient is to be reached on. -/

namespace RetailApp.Notifications

open Transaction

def Recent (now : Time) (topic : Topic) (db : NotificationDb) : Prop :=
  ∃ row ∈ db.notifications.rows, topicOf row = topic ∧ row.createdAt ≤ now ∧
    now - row.createdAt ≤ timedeltaMinutes 10

/-- In the site, and on the channel of every active subscription of the recipient to the event
that is for this type of object or for all. -/
def Addressed (payload : NotificationEventTriggerRequest) (db : NotificationDb)
    (channel : String) : Prop :=
  channel = NotificationChannel.inSite.value ∨
    ∃ row ∈ db.notificationSubscriptions.rows, row.userId = payload.recipientUserId ∧
      row.isActive = true ∧ row.eventType = payload.eventType.1 ∧
      (row.objectType = none ∨ row.objectType = some payload.objectType.1) ∧ row.channel = channel

structure Batch (env : NotificationEnv) (payload : NotificationEventTriggerRequest)
    (db : NotificationDb) (rows : List Notification) : Prop where
  once : (rows.map (·.channel.value)).Nodup
  addressed : ∀ channel, channel ∈ rows.map (·.channel.value) ↔ Addressed payload db channel
  topic : ∀ row ∈ rows, topicOf row = topicAsked payload
  created : ∀ row ∈ rows, row.createdAt = env.now

structure Exact (env : NotificationEnv) (payload : NotificationEventTriggerRequest)
    (db : NotificationDb) : Prop where
  throttled : Recent env.now (topicAsked payload) db →
    triggerNotification env payload db = .ok none db
  delivered : ¬ Recent env.now (topicAsked payload) db →
    ∃ response rows, triggerNotification env payload db = .ok (some response)
        { db with notifications := db.notifications.insertAll rows } ∧
      Batch env payload db rows

def batch (db : NotificationDb) (call : Call) : List Notification :=
  (step db call).notifications.rows.drop db.notifications.rows.length

structure Kept (userIds : List Nat) (moment : Time) (db : NotificationDb) : Prop where
  users : db.userIds = userIds
  supported : Supported db
  past : ∀ row ∈ db.notifications.rows, row.createdAt ≤ moment

/-- A call creates at most one notification for each channel, all at its own time, and none on
a topic that some notification of the last ten minutes is on. -/
structure Spaced (db : NotificationDb) (now : Time) (rows : List Notification) : Prop where
  once : (rows.map (·.channel)).Nodup
  created : ∀ row ∈ rows, row.createdAt = now
  apart : ∀ row ∈ rows, ∀ old ∈ db.notifications.rows, topicOf old = topicOf row →
    old.createdAt + timedeltaMinutes 10 < now

theorem spaced_nil (db : NotificationDb) (now : Time) : Spaced db now [] where
  once := List.nodup_nil
  created := fun _ member => nomatch member
  apart := fun _ member => nomatch member

theorem mem_channels (payload : NotificationEventTriggerRequest) (db : NotificationDb)
    (supported : Supported db) (channel : String) :
    channel ∈ (channels payload db).map (·.value) ↔ Addressed payload db channel := by
  have listed (member : NotificationChannel) : member ∈ channels payload db ↔
      member = .inSite ∨ ∃ row ∈ matchingSubscriptions payload db, row.channel = member.value := by
    simp [channels, ofValue?_some]
  have matching (row : NotificationSubscription) : row ∈ matchingSubscriptions payload db ↔
      row ∈ db.notificationSubscriptions.rows ∧ row.userId = payload.recipientUserId ∧
        row.isActive = true ∧ row.eventType = payload.eventType.1 ∧
        (row.objectType = none ∨ row.objectType = some payload.objectType.1) := by
    simp [matchingSubscriptions, and_assoc]
  rw [List.mem_map]
  constructor
  · rintro ⟨member, inside, rfl⟩
    rcases (listed member).mp inside with rfl | ⟨row, subscribed, same⟩
    · exact .inl rfl
    · obtain ⟨stored, user, active, event, object⟩ := (matching row).mp subscribed
      exact .inr ⟨row, stored, user, active, event, object, same⟩
  · rintro (rfl | ⟨row, stored, user, active, event, object, rfl⟩)
    · exact ⟨.inSite, (listed _).mpr (.inl rfl), rfl⟩
    · obtain ⟨member, named⟩ := supported row stored
      exact ⟨member, (listed member).mpr (.inr ⟨row,
        (matching row).mpr ⟨stored, user, active, event, object⟩, named⟩), named.symm⟩

theorem notified_batch (env : NotificationEnv) (payload : NotificationEventTriggerRequest)
    (db : NotificationDb) (supported : Supported db) :
    Batch env payload db (notified env payload db) := by
  have perm := (channels_perm env payload db).map NotificationChannel.value
  rw [List.map_map] at perm
  have distinct : (channels payload db).Nodup := List.nodup_dedup _
  refine ⟨perm.nodup_iff.mpr (distinct.map value_injective), ?_, ?_, ?_⟩
  · intro channel
    rw [← mem_channels payload db supported channel]
    exact perm.mem_iff
  · intro row member
    obtain ⟨channel, _, rfl⟩ := List.mem_map.mp member
    rfl
  · intro row member
    obtain ⟨channel, _, rfl⟩ := List.mem_map.mp member
    rfl

theorem recent_iff (now : Time) (payload : NotificationEventTriggerRequest) (db : NotificationDb)
    (past : ∀ row ∈ db.notifications.rows, row.createdAt ≤ now) :
    Recent now (topicAsked payload) db ↔
      isThrottled now payload.recipientUserId payload.eventType.1 payload.objectType.1
        payload.objectId.1 db = true := by
  rw [isThrottled_iff]
  constructor
  · rintro ⟨row, member, topic, _, young⟩
    exact ⟨row, member, topic, sub_le_comm.mp young⟩
  · rintro ⟨row, member, topic, young⟩
    exact ⟨row, member, topic, past row member, sub_le_comm.mpr young⟩

theorem trigger_exact (env : NotificationEnv) (payload : NotificationEventTriggerRequest)
    (userIds : List Nat) (db : NotificationDb) (kept : Kept userIds env.now db)
    (known : payload.recipientUserId ∈ userIds) : Exact env payload db := by
  have present : payload.recipientUserId ∈ db.userIds := kept.users ▸ known
  have recent := recent_iff env.now payload db kept.past
  constructor
  · intro young
    exact triggerNotification_throttled env payload db present (recent.mp young)
  · intro free
    obtain ⟨response, delivered⟩ := triggerNotification_delivers env payload db present
      (Bool.eq_false_iff.mpr (mt recent.mpr free))
    exact ⟨response, _, delivered, notified_batch env payload db kept.supported⟩

theorem notified_spaced (env : NotificationEnv) (payload : NotificationEventTriggerRequest)
    (db : NotificationDb)
    (free : isThrottled env.now payload.recipientUserId payload.eventType.1 payload.objectType.1
      payload.objectId.1 db = false) :
    Spaced db env.now (notified env payload db) := by
  refine ⟨?_, ?_, ?_⟩
  · have distinct : (channels payload db).Nodup := List.nodup_dedup _
    exact (channels_perm env payload db).nodup_iff.mpr distinct
  · intro row member
    obtain ⟨channel, _, rfl⟩ := List.mem_map.mp member
    rfl
  · intro row member old stored same
    obtain ⟨channel, _, rfl⟩ := List.mem_map.mp member
    by_contra young
    have throttled := (isThrottled_iff env.now payload db).mpr
      ⟨old, stored, same, sub_le_iff_le_add.mpr (not_lt.mp young)⟩
    rw [free] at throttled
    cases throttled

theorem step_batch (db : NotificationDb) (call : Call) :
    (step db call).notifications.rows = db.notifications.rows ++ batch db call ∧
      Spaced db call.now (batch db call) := by
  have unchanged (same : (step db call).notifications = db.notifications) :
      (step db call).notifications.rows = db.notifications.rows ++ batch db call ∧
        Spaced db call.now (batch db call) := by
    have empty : batch db call = [] := by rw [batch, same, List.drop_length]
    rw [empty, same, List.append_nil]
    exact ⟨rfl, spaced_nil db call.now⟩
  cases call with
  | subscribeEvent env actor payload =>
      apply unchanged
      have subscribed := subscribeEvent_subscribed env actor payload db
      generalize step db (.subscribeEvent env actor payload) = db' at subscribed
      cases subscribed with
      | refused => rfl
      | renewed subscriptionId => rfl
      | added objectType channel supported => rfl
  | triggerNotification env payload =>
      have triggered := triggerNotification_triggered env payload db
      obtain ⟨db', after_step⟩ : ∃ db', step db (.triggerNotification env payload) = db' := ⟨_, rfl⟩
      rw [after_step] at triggered
      cases triggered with
      | silent =>
          apply unchanged
          rw [after_step]
      | delivered free =>
          have appended : (step db (.triggerNotification env payload)).notifications.rows =
              db.notifications.rows ++ notified env payload db := by
            rw [after_step]
            rfl
          have created : batch db (.triggerNotification env payload) =
              notified env payload db := by
            rw [batch, appended, List.drop_left]
          rw [created]
          exact ⟨appended, notified_spaced env payload db free⟩

theorem step_subscriptions (db : NotificationDb) (call : Call) (supported : Supported db) :
    (step db call).userIds = db.userIds ∧ Supported (step db call) := by
  cases call with
  | subscribeEvent env actor payload =>
      have subscribed := subscribeEvent_subscribed env actor payload db
      generalize step db (.subscribeEvent env actor payload) = db' at subscribed
      cases subscribed with
      | refused => exact ⟨rfl, supported⟩
      | renewed subscriptionId =>
          refine ⟨rfl, ?_⟩
          intro row member
          have channels := Table.map_modify db.notificationSubscriptions subscriptionId
            (fun row => { row with isActive := true }) (·.channel) (fun _ => rfl)
          have inside := List.mem_map_of_mem (f := (·.channel)) member
          rw [channels] at inside
          obtain ⟨old, stored, same⟩ := List.mem_map.mp inside
          rw [← same]
          exact supported old stored
      | added objectType channel named =>
          refine ⟨rfl, ?_⟩
          intro row member
          rcases List.mem_append.mp member with old | new
          · exact supported row old
          · rw [List.mem_singleton.mp new]
            exact ⟨channel, named⟩
  | triggerNotification env payload =>
      have triggered := triggerNotification_triggered env payload db
      generalize step db (.triggerNotification env payload) = db' at triggered
      cases triggered with
      | silent => exact ⟨rfl, supported⟩
      | delivered free => exact ⟨rfl, supported⟩

theorem step_kept (userIds : List Nat) (moment : Time) (db : NotificationDb) (call : Call)
    (earlier : call.now ≤ moment) (kept : Kept userIds moment db) :
    Kept userIds moment (step db call) := by
  obtain ⟨users, supported⟩ := step_subscriptions db call kept.supported
  obtain ⟨appended, spaced⟩ := step_batch db call
  refine ⟨users.trans kept.users, supported, ?_⟩
  intro row member
  rw [appended] at member
  rcases List.mem_append.mp member with old | new
  · exact kept.past row old
  · exact (spaced.created row new).trans_le earlier

theorem run_kept (userIds : List Nat) (moment : Time) (calls : List Call)
    (earlier : ∀ call ∈ calls, call.now ≤ moment) :
    Kept userIds moment (run (NotificationDb.start userIds) calls) := by
  have along : Runs.Along step (fun _ call => call.now ≤ moment)
      (NotificationDb.start userIds) calls := by
    generalize NotificationDb.start userIds = db
    induction calls generalizing db with
    | nil => trivial
    | cons call calls ih =>
        exact ⟨earlier call List.mem_cons_self,
          ih (fun other member => earlier other (List.mem_cons_of_mem call member)) (step db call)⟩
  refine Runs.run_preserves_along step (Kept userIds moment) _ ?_ _ calls along ?_
  · intro db call kept earlier
    exact step_kept userIds moment db call earlier kept
  · exact ⟨rfl, fun _ member => (nomatch member), fun _ member => nomatch member⟩

theorem run_rows (db : NotificationDb) (calls : List Call) (row : Notification)
    (stored : row ∈ db.notifications.rows) : row ∈ (run db calls).notifications.rows := by
  refine Runs.run_preserves step (fun db => row ∈ db.notifications.rows) ?_ db calls stored
  intro db call stored
  rw [(step_batch db call).1]
  exact List.mem_append_left _ stored

theorem batches_apart (db : NotificationDb) (first : Call) (middle : List Call) (second : Call)
    (row row' : Notification) (early : row ∈ batch db first)
    (late : row' ∈ batch (run (step db first) middle) second) (same : topicOf row = topicOf row') :
    row.createdAt + timedeltaMinutes 10 < row'.createdAt := by
  have stored : row ∈ (step db first).notifications.rows := by
    rw [(step_batch db first).1]
    exact List.mem_append_right _ early
  have spaced := (step_batch (run (step db first) middle) second).2
  rw [spaced.created row' late]
  exact spaced.apart row' late row (run_rows _ middle row stored) same

/-- Along every run whose clock does not go back: each trigger for an existing recipient does
exactly what is asked of it, two batches on one topic are more than ten minutes apart, and no
batch holds two notifications of one channel. -/
theorem throttle_exact (userIds : List Nat) (calls : List Call)
    (clocked : (calls.map Call.now).Pairwise (· ≤ ·)) :
    (∀ early env payload late, calls = early ++ .triggerNotification env payload :: late →
        payload.recipientUserId ∈ userIds →
        Exact env payload (run (NotificationDb.start userIds) early)) ∧
      (∀ early first middle second late, calls = early ++ first :: (middle ++ second :: late) →
        ∀ row ∈ batch (run (NotificationDb.start userIds) early) first,
        ∀ row' ∈ batch (run (NotificationDb.start userIds) (early ++ first :: middle)) second,
          topicOf row = topicOf row' → row.createdAt + timedeltaMinutes 10 < row'.createdAt) ∧
      ∀ early call late, calls = early ++ call :: late →
        ((batch (run (NotificationDb.start userIds) early) call).map (·.channel)).Nodup := by
  refine ⟨?_, ?_, ?_⟩
  · rintro early env payload late rfl known
    rw [List.map_append, List.map_cons, List.pairwise_append] at clocked
    refine trigger_exact env payload userIds _ (run_kept userIds env.now early ?_) known
    intro call member
    exact clocked.2.2 call.now (List.mem_map_of_mem member) env.now List.mem_cons_self
  · rintro early first middle second late rfl row member row' member' same
    rw [run, Runs.run_append] at member'
    exact batches_apart _ first middle second row row' member member' same
  · rintro early call late rfl
    exact (step_batch _ call).2.once

def budgetAt (now : Time) : Call :=
  .triggerNotification ⟨now, RowOrder.byKey, RowOrder.byKey⟩
    ⟨7, ⟨"budget_alert", by decide⟩, ⟨"project", by decide⟩, ⟨"P-101", by decide⟩,
      ⟨"Budget Alert", by decide⟩, ⟨"Budget reached 90%", by decide⟩⟩

def subscribeAt (now : Time) (objectType : Option String) : Call :=
  .subscribeEvent ⟨now, RowOrder.byKey, RowOrder.byKey⟩ ⟨7, false, []⟩
    ⟨⟨"budget_alert", by decide⟩, objectType, "in_process"⟩

/-- Two overlapping subscriptions, one of them made twice, and three alerts: the second comes
exactly ten minutes after the first and is held back, the third a microsecond later. -/
def budgetAlerts : List Call :=
  [subscribeAt 0 none, subscribeAt 1 (some "project"), subscribeAt 2 none, budgetAt 3,
    budgetAt (timedeltaMinutes 10 + 3), budgetAt (timedeltaMinutes 10 + 4)]

theorem budget_alerts_throttled :
    (run (NotificationDb.start [7]) budgetAlerts).notifications.rows.map
        (fun row => (row.channel, row.createdAt)) =
      [(.inSite, 3), (.inProcess, 3), (.inSite, timedeltaMinutes 10 + 4),
        (.inProcess, timedeltaMinutes 10 + 4)] ∧
      ∀ early call late, budgetAlerts = early ++ call :: late →
        ((batch (run (NotificationDb.start [7]) early) call).map (·.channel)).Nodup :=
  ⟨by decide +kernel, (throttle_exact [7] budgetAlerts (by decide)).2.2⟩

end RetailApp.Notifications
