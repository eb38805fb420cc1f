import RetailApp.Library.Runs
import RetailApp.Services.NotificationService

/-! Runs of subscriptions and triggers, and what one call does to the two tables. -/

namespace RetailApp.Notifications

open Transaction

inductive Call where
  | subscribeEvent (env : NotificationEnv) (actor : User) (payload : NotificationSubscribeRequest)
  | triggerNotification (env : NotificationEnv) (payload : NotificationEventTriggerRequest)

def Call.now : Call → Time
  | .subscribeEvent env _ _ => env.now
  | .triggerNotification env _ => env.now

def step (db : NotificationDb) : Call → NotificationDb
  | .subscribeEvent env actor payload => after (RetailApp.subscribeEvent env actor payload) db
  | .triggerNotification env payload => after (RetailApp.triggerNotification env payload) db

def run (db : NotificationDb) (calls : List Call) : NotificationDb := Runs.run step db calls

structure Topic where
  recipientUserId : Nat
  eventType : String
  objectType : String
  objectId : String
  deriving DecidableEq

def topicOf (row : Notification) : Topic :=
  ⟨row.recipientUserId, row.eventType, row.objectType, row.objectId⟩

def topicAsked (payload : NotificationEventTriggerRequest) : Topic :=
  ⟨payload.recipientUserId, payload.eventType.1, payload.objectType.1, payload.objectId.1⟩

/-- Every stored subscription names a member of the enumeration. -/
def Supported (db : NotificationDb) : Prop :=
  ∀ row ∈ db.notificationSubscriptions.rows, ∃ channel : NotificationChannel,
    row.channel = channel.value

inductive Subscribed (env : NotificationEnv) (actor : User) (payload : NotificationSubscribeRequest)
    (db : NotificationDb) : NotificationDb → Prop
  | refused : Subscribed env actor payload db db
  | renewed (subscriptionId : Nat) : Subscribed env actor payload db
      { db with
        notificationSubscriptions := db.notificationSubscriptions.modify subscriptionId
          (fun row => { row with isActive := true }) }
  | added (objectType : Option String) (channel : NotificationChannel)
      (supported : payload.channel = channel.value) : Subscribed env actor payload db
      { db with
        notificationSubscriptions := db.notificationSubscriptions.insert
          { newSubscription env actor payload with objectType := objectType } }

theorem ofValue?_some (text : String) (channel : NotificationChannel) :
    NotificationChannel.ofValue? text = some channel ↔ text = channel.value := by
  unfold NotificationChannel.ofValue?
  constructor
  · intro found
    split at found
    · rename_i same
      rw [← Option.some.inj found, same]
    · split at found
      · rename_i same
        rw [← Option.some.inj found, same]
      · cases found
  · rintro rfl
    cases channel <;> decide

theorem value_injective : Function.Injective NotificationChannel.value := by
  intro first second same
  have found := (ofValue?_some first.value second).mpr same
  exact Option.some.inj (((ofValue?_some first.value first).mpr rfl).symm.trans found)

theorem insertSubscription_cases (row : NotificationSubscription) (db : NotificationDb) :
    (∃ raised, insertSubscription row db = .error raised db) ∨
      ∃ objectType, insertSubscription row db = .ok db.notificationSubscriptions.nextKey
        { db with
          notificationSubscriptions :=
            db.notificationSubscriptions.insert { row with objectType := objectType } } := by
  cases stored : nullableVarchar "object_type" 64 row.objectType with
  | error raised =>
      left
      exact ⟨raised, by simp [insertSubscription, run_bind, stored]⟩
  | ok objectType =>
      by_cases known : row.userId ∈ db.userIds
      · right
        exact ⟨objectType, by simp [insertSubscription, run_bind, run_map, stored, known]⟩
      · left
        exact ⟨_, by simp [insertSubscription, run_bind, stored, known]; rfl⟩

theorem subscribeEvent_subscribed (env : NotificationEnv) (actor : User)
    (payload : NotificationSubscribeRequest) (db : NotificationDb) :
    Subscribed env actor payload db (step db (.subscribeEvent env actor payload)) := by
  rw [step]
  cases named : NotificationChannel.ofValue? payload.channel with
  | none =>
      have same : after (subscribeEvent env actor payload) db = db := by
        simp [subscribeEvent, named, after, run_bind]
      rw [same]
      exact .refused
  | some channel =>
      have supported := (ofValue?_some payload.channel channel).mp named
      cases found : existingSubscription env actor payload db with
      | some existing =>
          have same : after (subscribeEvent env actor payload) db =
              { db with
                notificationSubscriptions := db.notificationSubscriptions.modify existing.1
                  (fun row => { row with isActive := true }) } := by
            simp [subscribeEvent, named, after, run_bind, run_map, transactional, found,
              activateSubscription]
          rw [same]
          exact .renewed existing.1
      | none =>
          rcases insertSubscription_cases (newSubscription env actor payload) db with
            ⟨raised, refused⟩ | ⟨objectType, inserted⟩
          · have same : after (subscribeEvent env actor payload) db = db := by
              simp [subscribeEvent, named, after, run_bind, run_map, transactional, found, refused]
            rw [same]
            exact .refused
          · have same : after (subscribeEvent env actor payload) db =
                { db with
                  notificationSubscriptions := db.notificationSubscriptions.insert
                    { newSubscription env actor payload with objectType := objectType } } := by
              simp [subscribeEvent, named, after, run_bind, run_map, transactional, found, inserted,
                refreshSubscription]
            rw [same]
            exact .added objectType channel supported

theorem insertNotification_eq (row : Notification) (db : NotificationDb)
    (known : row.recipientUserId ∈ db.userIds) :
    insertNotification row db =
      .ok db.notifications.nextKey { db with notifications := db.notifications.insert row } := by
  simp [insertNotification, known, run_bind, run_map]

/-- The loop writes one row for each channel and remembers the last. -/
theorem createNotifications_eq (env : NotificationEnv) (payload : NotificationEventTriggerRequest)
    (channels : List NotificationChannel) (db : NotificationDb)
    (known : payload.recipientUserId ∈ db.userIds) (created : Option Nat)
    (valid : ∀ key ∈ created, ∃ row, db.notifications.get? key = some row) :
    ∃ last, createNotifications env payload created channels db =
        .ok last { db with
          notifications :=
            db.notifications.insertAll (channels.map (newNotification env payload)) } ∧
      (∀ key ∈ last, ∃ row, (db.notifications.insertAll
        (channels.map (newNotification env payload))).get? key = some row) ∧
      (last = none ↔ created = none ∧ channels = []) := by
  induction channels generalizing db created with
  | nil =>
      rw [List.map_nil, Table.insertAll_nil]
      exact ⟨created, rfl, valid, by simp⟩
  | cons channel channels ih =>
      have inserted := insertNotification_eq (newNotification env payload channel) db known
      obtain ⟨last, looped, present, empty⟩ := ih
        { db with notifications := db.notifications.insert (newNotification env payload channel) }
        known (some db.notifications.nextKey) (by simp)
      refine ⟨last, ?_, ?_, ?_⟩
      · rw [createNotifications, List.foldlM_cons, bind_ok]
        refine ⟨_, _, (map_ok _ _ _ _ _).mpr ⟨_, inserted, rfl⟩, ?_⟩
        rw [List.map_cons, Table.insertAll_cons]
        exact looped
      · rw [List.map_cons, Table.insertAll_cons]
        exact present
      · rw [empty]
        simp

theorem isThrottled_iff (now : Time) (payload : NotificationEventTriggerRequest)
    (db : NotificationDb) :
    isThrottled now payload.recipientUserId payload.eventType.1 payload.objectType.1
        payload.objectId.1 db = true ↔
      ∃ row ∈ db.notifications.rows, topicOf row = topicAsked payload ∧
        now - timedeltaMinutes 10 ≤ row.createdAt := by
  simp [isThrottled, List.any_eq_true, topicOf, topicAsked, throttleMinutes, and_assoc]

def notified (env : NotificationEnv) (payload : NotificationEventTriggerRequest)
    (db : NotificationDb) : List Notification :=
  (env.setOrder.arrange (channels payload db)).map (newNotification env payload)

theorem channels_perm (env : NotificationEnv) (payload : NotificationEventTriggerRequest)
    (db : NotificationDb) :
    ((notified env payload db).map (·.channel)).Perm (channels payload db) := by
  rw [notified, List.map_map]
  have same : (fun row : Notification => row.channel) ∘ newNotification env payload = id := rfl
  rw [same, List.map_id]
  exact env.setOrder.perm _

section Trigger

variable (env : NotificationEnv) (payload : NotificationEventTriggerRequest) (db : NotificationDb)
  (known : payload.recipientUserId ∈ db.userIds)

include known in
theorem triggerNotification_throttled
    (throttled : isThrottled env.now payload.recipientUserId payload.eventType.1
      payload.objectType.1 payload.objectId.1 db = true) :
    triggerNotification env payload db = .ok none db := by
  simp [triggerNotification, known, run_bind, throttled]

include known in
theorem triggerNotification_delivers
    (free : isThrottled env.now payload.recipientUserId payload.eventType.1
      payload.objectType.1 payload.objectId.1 db = false) :
    ∃ response, triggerNotification env payload db = .ok (some response)
      { db with notifications := db.notifications.insertAll (notified env payload db) } := by
  obtain ⟨last, looped, present, empty⟩ := createNotifications_eq env payload
    (env.setOrder.arrange (channels payload db)) db known none (by simp)
  have inSite : NotificationChannel.inSite ∈ env.setOrder.arrange (channels payload db) := by
    rw [(env.setOrder.perm _).mem_iff, channels, List.mem_dedup]
    exact List.mem_cons_self
  have some_last : last ≠ none := fun none => List.ne_nil_of_mem inSite (empty.mp none).2
  obtain ⟨key, rfl⟩ := Option.ne_none_iff_exists'.mp some_last
  obtain ⟨row, stored⟩ := present key rfl
  refine ⟨toNotificationResponse (key, row), ?_⟩
  have committed := (transactional_ok _ _ _ _).mpr looped
  simp [triggerNotification, known, run_bind, free, committed, run_map, refreshNotification, stored,
    notified]

/-- What `trigger_notification` can do to the tables: nothing, or a row for each channel. -/
inductive Triggered : NotificationDb → Prop
  | silent : Triggered db
  | delivered (free : isThrottled env.now payload.recipientUserId payload.eventType.1
      payload.objectType.1 payload.objectId.1 db = false) :
      Triggered { db with notifications := db.notifications.insertAll (notified env payload db) }

theorem triggerNotification_triggered :
    Triggered env payload db (step db (.triggerNotification env payload)) := by
  rw [step]
  by_cases known : payload.recipientUserId ∈ db.userIds
  · cases throttled : isThrottled env.now payload.recipientUserId payload.eventType.1
      payload.objectType.1 payload.objectId.1 db with
    | true =>
        rw [after_ok _ _ _ _ (triggerNotification_throttled env payload db known throttled)]
        exact .silent
    | false =>
        obtain ⟨response, delivered⟩ :=
          triggerNotification_delivers env payload db known throttled
        rw [after_ok _ _ _ _ delivered]
        exact .delivered throttled
  · have unknown : after (triggerNotification env payload) db = db := by
      simp [triggerNotification, known, after, run_bind]
    rw [unknown]
    exact .silent

end Trigger

end RetailApp.Notifications
