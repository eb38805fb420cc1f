import RetailApp.Schemas
import RetailApp.Session

namespace RetailApp

open Transaction

/-- The tables of the notification subsystem, with the ids of the users they refer to. -/
structure NotificationDb where
  userIds : List Nat
  notifications : Table Notification
  notificationSubscriptions : Table NotificationSubscription
  deriving DecidableEq

def NotificationDb.start (userIds : List Nat) : NotificationDb :=
  ⟨userIds, Table.empty, Table.empty⟩

/-- What one call takes from outside the tables: the clock (`utcnow()` and the database's
`now()`), the order in which a query without ORDER BY returns subscriptions, and the order in
which a loop goes through a set of channels. -/
structure NotificationEnv where
  now : Time
  rowOrder : RowOrder (Nat × NotificationSubscription)
  setOrder : RowOrder NotificationChannel

abbrev NotificationService (α : Type) := Session NotificationDb Raised α

def throttleMinutes : Int := 10

def NotificationChannel.ofValue? (value : String) : Option NotificationChannel :=
  if value = NotificationChannel.inSite.value then some .inSite
  else if value = NotificationChannel.inProcess.value then some .inProcess
  else none

def toNotificationResponse (entity : Nat × Notification) : NotificationResponse where
  id := entity.1
  recipientUserId := entity.2.recipientUserId
  eventType := entity.2.eventType
  objectType := entity.2.objectType
  objectId := entity.2.objectId
  channel := entity.2.channel.value
  title := entity.2.title
  message := entity.2.message
  isDelivered := entity.2.isDelivered
  deliveredAt := entity.2.deliveredAt
  isRead := entity.2.isRead
  readAt := entity.2.readAt
  createdAt := entity.2.createdAt

def toSubscriptionResponse (entity : Nat × NotificationSubscription) :
    NotificationSubscriptionResponse where
  id := entity.1
  userId := entity.2.userId
  eventType := entity.2.eventType
  objectType := entity.2.objectType
  channel := entity.2.channel
  isActive := entity.2.isActive
  createdAt := entity.2.createdAt

/-- Both tables refer to users; the event type and the channel fit their columns by the checks
in front, the object type of a subscription need not. -/
def insertSubscription (row : NotificationSubscription) : NotificationService Nat := do
  let objectType ← attempt (nullableVarchar "object_type" 64 row.objectType)
  let db ← get
  attempt (raiseIf (row.userId ∉ db.userIds)
    (.integrityError "notification_subscriptions_user_id_fkey"))
  set { db with
    notificationSubscriptions :=
      db.notificationSubscriptions.insert { row with objectType := objectType } }
  return db.notificationSubscriptions.nextKey

def insertNotification (row : Notification) : NotificationService Nat := do
  let db ← get
  attempt (raiseIf (row.recipientUserId ∉ db.userIds)
    (.integrityError "notifications_recipient_user_id_fkey"))
  set { db with notifications := db.notifications.insert row }
  return db.notifications.nextKey

def refreshSubscription (subscriptionId : Nat) :
    NotificationService NotificationSubscriptionResponse := do
  let db ← get
  let row ← attempt
    (orRaise (db.notificationSubscriptions.get? subscriptionId) .objectDeletedError)
  return toSubscriptionResponse (subscriptionId, row)

def refreshNotification (notificationId : Nat) : NotificationService NotificationResponse := do
  let db ← get
  let row ← attempt (orRaise (db.notifications.get? notificationId) .objectDeletedError)
  return toNotificationResponse (notificationId, row)

def existingSubscription (env : NotificationEnv) (actor : User)
    (payload : NotificationSubscribeRequest) (db : NotificationDb) :
    Option (Nat × NotificationSubscription) :=
  (db.notificationSubscriptions.select env.rowOrder (fun row =>
    row.userId == actor.id && row.eventType == payload.eventType.1 &&
      row.objectType == payload.objectType && row.channel == payload.channel)).head?

def activateSubscription (subscriptionId : Nat) : NotificationService Unit :=
  modify fun db =>
    { db with
      notificationSubscriptions := db.notificationSubscriptions.modify subscriptionId
        (fun row => { row with isActive := true }) }

def newSubscription (env : NotificationEnv) (actor : User)
    (payload : NotificationSubscribeRequest) : NotificationSubscription where
  userId := actor.id
  eventType := payload.eventType.1
  objectType := payload.objectType
  channel := payload.channel
  isActive := true
  createdAt := env.now

def subscribeEvent (env : NotificationEnv) (actor : User) (payload : NotificationSubscribeRequest) :
    NotificationService NotificationSubscriptionResponse := do
  attempt (raiseIf (NotificationChannel.ofValue? payload.channel = none)
    (.validation "Unsupported notification channel"))
  let saved ← transactional do
    match existingSubscription env actor payload (← get) with
    | some existing =>
        activateSubscription existing.1
        return Sum.inl (toSubscriptionResponse
          (existing.1, { existing.2 with isActive := true }))
    | none => Sum.inr <$> insertSubscription (newSubscription env actor payload)
  match saved with
  | .inl response => return response
  | .inr subscriptionId => refreshSubscription subscriptionId

def isThrottled (now : Time) (recipientUserId : Nat) (eventType objectType objectId : String)
    (db : NotificationDb) : Bool :=
  db.notifications.rows.any (fun row =>
    row.recipientUserId == recipientUserId && row.eventType == eventType &&
      row.objectType == objectType && row.objectId == objectId &&
        decide (now - timedeltaMinutes throttleMinutes ≤ row.createdAt))

def matchingSubscriptions (payload : NotificationEventTriggerRequest) (db : NotificationDb) :
    List NotificationSubscription :=
  db.notificationSubscriptions.rows.filter (fun row =>
    row.userId == payload.recipientUserId && row.isActive && row.eventType == payload.eventType.1 &&
      (row.objectType.isNone || row.objectType == some payload.objectType.1))

/-- The set of channels: each member once. -/
def channels (payload : NotificationEventTriggerRequest) (db : NotificationDb) :
    List NotificationChannel :=
  (.inSite :: (matchingSubscriptions payload db).filterMap
    (fun row => NotificationChannel.ofValue? row.channel)).dedup

def newNotification (env : NotificationEnv) (payload : NotificationEventTriggerRequest)
    (channel : NotificationChannel) : Notification where
  recipientUserId := payload.recipientUserId
  eventType := payload.eventType.1
  objectType := payload.objectType.1
  objectId := payload.objectId.1
  channel := channel
  title := payload.title.1
  message := payload.message.1
  isDelivered := true
  deliveredAt := some env.now
  isRead := false
  readAt := none
  createdAt := env.now

def createNotifications (env : NotificationEnv) (payload : NotificationEventTriggerRequest)
    (created : Option Nat) (channels : List NotificationChannel) :
    NotificationService (Option Nat) :=
  channels.foldlM
    (fun _ channel => some <$> insertNotification (newNotification env payload channel)) created

/-- The actor and the list of known events only show in the log. -/
def triggerNotification (env : NotificationEnv) (payload : NotificationEventTriggerRequest) :
    NotificationService (Option NotificationResponse) := do
  let db ← get
  attempt (raiseIf (payload.recipientUserId ∉ db.userIds)
    (.notFound "Notification recipient not found"))
  if isThrottled env.now payload.recipientUserId payload.eventType.1 payload.objectType.1
      payload.objectId.1 db then
    return none
  else
    let created ← transactional
      (createNotifications env payload none (env.setOrder.arrange (channels payload db)))
    match created with
    | none => return none
    | some notificationId => some <$> refreshNotification notificationId

/-- `target_user_id or actor.id`: a target of 0 is no target. -/
def inboxOwner (actor : User) : Option Nat → Nat
  | none => actor.id
  | some targetUserId => if targetUserId = 0 then actor.id else targetUserId

def listNotifications (db : NotificationDb) (actor : User) (targetUserId : Option Nat) :
    Except Raised (List NotificationResponse) := do
  let userId := inboxOwner actor targetUserId
  raiseIf (userId ≠ actor.id ∧ actor.isSuperuser = false)
    (.authorization "Notification access denied")
  return (db.notifications.entries.filter
    (fun entry => entry.2.recipientUserId == userId)).reverse.map toNotificationResponse

def receipted (now : Time) (isRead : Bool) (entity : Notification) : Notification :=
  { entity with isRead := isRead, readAt := if isRead then some now else none }

def flushReceipt (loaded assigned current : Notification) : Notification :=
  { current with
    isRead := changed loaded.isRead assigned.isRead current.isRead
    readAt := changed loaded.readAt assigned.readAt current.readAt }

def markNotificationRead (now : Time) (actor : User) (notificationId : Nat) (isRead : Bool) :
    NotificationService NotificationResponse := do
  let db ← get
  let entity ← attempt
    (orRaise (db.notifications.get? notificationId) (.notFound "Notification not found"))
  attempt (raiseIf (entity.recipientUserId ≠ actor.id ∧ actor.isSuperuser = false)
    (.authorization "Notification access denied"))
  transactional (modify fun db =>
    { db with
      notifications := db.notifications.modify notificationId
        (flushReceipt entity (receipted now isRead entity)) })
  refreshNotification notificationId

end RetailApp
