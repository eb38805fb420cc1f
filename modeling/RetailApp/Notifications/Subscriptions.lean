import RetailApp.Notifications.Inbox

/-! Subscriptions over runs: none is ever lost, every later trigger honours it, and when the
table comes to hold the same one twice. -/

namespace RetailApp.Inbox

open Transaction Notifications

structure SubscriptionKey where
  userId : Nat
  eventType : String
  objectType : Option String
  channel : String
  deriving DecidableEq

def keyOf (row : NotificationSubscription) : SubscriptionKey :=
  ⟨row.userId, row.eventType, row.objectType, row.channel⟩

def keyAsked (actor : User) (payload : NotificationSubscribeRequest) : SubscriptionKey :=
  ⟨actor.id, payload.eventType.1, payload.objectType, payload.channel⟩

def subscriptionKeys (db : NotificationDb) : List SubscriptionKey :=
  db.notificationSubscriptions.rows.map keyOf

def Storable (db : NotificationDb) (actor : User) (payload : NotificationSubscribeRequest)
    (stored : Option String) : Prop :=
  nullableVarchar "object_type" 64 payload.objectType = .ok stored ∧ actor.id ∈ db.userIds

inductive Saved (env : NotificationEnv) (actor : User) (payload : NotificationSubscribeRequest)
    (db : NotificationDb) : NotificationDb → Prop
  | unsupported (refused : NotificationChannel.ofValue? payload.channel = none) :
      Saved env actor payload db db
  | renewed (supported : ∃ channel, NotificationChannel.ofValue? payload.channel = some channel)
      (subscriptionId : Nat) (row : NotificationSubscription)
      (present : db.notificationSubscriptions.get? subscriptionId = some row)
      (same : keyOf row = keyAsked actor payload) : Saved env actor payload db
      { db with
        notificationSubscriptions := db.notificationSubscriptions.modify subscriptionId
          (fun row => { row with isActive := true }) }
  | unstorable (refused : ∀ stored, ¬ Storable db actor payload stored) :
      Saved env actor payload db db
  | added (supported : ∃ channel, NotificationChannel.ofValue? payload.channel = some channel)
      (fresh : keyAsked actor payload ∉ subscriptionKeys db) (stored : Option String)
      (storable : Storable db actor payload stored) : Saved env actor payload db
      { db with
        notificationSubscriptions := db.notificationSubscriptions.insert
          { newSubscription env actor payload with objectType := stored } }

theorem existingSubscription_selects (actor : User) (payload : NotificationSubscribeRequest)
    (row : NotificationSubscription) :
    (row.userId == actor.id && row.eventType == payload.eventType.1 &&
      row.objectType == payload.objectType && row.channel == payload.channel) = true ↔
      keyOf row = keyAsked actor payload := by
  simp [keyOf, keyAsked, and_assoc]

theorem existingSubscription_some (env : NotificationEnv) (actor : User)
    (payload : NotificationSubscribeRequest) (db : NotificationDb)
    (entry : Nat × NotificationSubscription)
    (found : existingSubscription env actor payload db = some entry) :
    db.notificationSubscriptions.get? entry.1 = some entry.2 ∧
      keyOf entry.2 = keyAsked actor payload := by
  have member := List.mem_of_mem_head? (Option.mem_def.mpr found)
  rw [Table.mem_select, existingSubscription_selects] at member
  exact member

theorem existingSubscription_none (env : NotificationEnv) (actor : User)
    (payload : NotificationSubscribeRequest) (db : NotificationDb)
    (missing : existingSubscription env actor payload db = none) :
    keyAsked actor payload ∉ subscriptionKeys db := by
  intro taken
  obtain ⟨row, stored, same⟩ := List.mem_map.mp taken
  obtain ⟨key, present⟩ := (Table.mem_rows _ row).mp stored
  have member : (key, row) ∈ db.notificationSubscriptions.select env.rowOrder (fun row =>
      row.userId == actor.id && row.eventType == payload.eventType.1 &&
        row.objectType == payload.objectType && row.channel == payload.channel) := by
    rw [Table.mem_select]
    exact ⟨present, (existingSubscription_selects actor payload row).mpr same⟩
  rw [List.head?_eq_none_iff.mp missing] at member
  cases member

theorem subscribeEvent_saved (env : NotificationEnv) (actor : User)
    (payload : NotificationSubscribeRequest) (db : NotificationDb) :
    Saved env actor payload db (step db (.notify (.subscribeEvent env actor payload))) := by
  rw [step, Notifications.step]
  cases named : NotificationChannel.ofValue? payload.channel with
  | none =>
      have same : after (subscribeEvent env actor payload) db = db := by
        simp [subscribeEvent, named, after, run_bind]
      rw [same]
      exact .unsupported named
  | some channel =>
      cases found : existingSubscription env actor payload db with
      | some existing =>
          have wrote : after (subscribeEvent env actor payload) db =
              { db with
                notificationSubscriptions := db.notificationSubscriptions.modify existing.1
                  (fun row => { row with isActive := true }) } := by
            simp [subscribeEvent, named, after, run_bind, run_map, transactional, found,
              activateSubscription]
          obtain ⟨present, same⟩ := existingSubscription_some env actor payload db existing found
          rw [wrote]
          exact .renewed ⟨channel, named⟩ existing.1 existing.2 present same
      | none =>
          have fresh := existingSubscription_none env actor payload db found
          cases fits : nullableVarchar "object_type" 64 payload.objectType with
          | error raised =>
              have same : after (subscribeEvent env actor payload) db = db := by
                simp [subscribeEvent, named, after, run_bind, transactional, found,
                  insertSubscription, newSubscription, fits]
              rw [same]
              refine .unstorable ?_
              intro stored storable
              rw [storable.1] at fits
              cases fits
          | ok stored =>
              by_cases known : actor.id ∈ db.userIds
              · have wrote : after (subscribeEvent env actor payload) db =
                    { db with
                      notificationSubscriptions := db.notificationSubscriptions.insert
                        { newSubscription env actor payload with objectType := stored } } := by
                  simp [subscribeEvent, named, after, run_bind, run_map, transactional, found,
                    insertSubscription, newSubscription, fits, known, refreshSubscription]
                rw [wrote]
                exact .added ⟨channel, named⟩ fresh stored ⟨fits, known⟩
              · have same : after (subscribeEvent env actor payload) db = db := by
                  simp [subscribeEvent, named, after, run_bind, transactional, found,
                    insertSubscription, newSubscription, fits, known]
                rw [same]
                exact .unstorable (fun _ storable => known storable.2)

theorem trigger_subscriptions (db : NotificationDb) (env : NotificationEnv)
    (payload : NotificationEventTriggerRequest) :
    (step db (.notify (.triggerNotification env payload))).notificationSubscriptions =
      db.notificationSubscriptions := by
  rw [step]
  have triggered := triggerNotification_triggered env payload db
  generalize Notifications.step db (.triggerNotification env payload) = db' at triggered
  cases triggered <;> rfl

theorem mark_subscriptions (db : NotificationDb) (now : Time) (actor : User) (target : Nat)
    (isRead : Bool) : (step db (.mark now actor target isRead)).notificationSubscriptions =
      db.notificationSubscriptions := by
  rcases step_mark db now actor target isRead with ⟨row, _, _, wrote⟩ | ⟨_, same⟩
  · rw [wrote]
  · rw [same]

theorem renewed_keys (db : NotificationDb) (subscriptionId : Nat) :
    subscriptionKeys { db with
      notificationSubscriptions := db.notificationSubscriptions.modify subscriptionId
        (fun row => { row with isActive := true }) } = subscriptionKeys db :=
  Table.map_modify db.notificationSubscriptions subscriptionId _ keyOf (fun _ => rfl)

theorem step_keys (db : NotificationDb) (call : Call) :
    ∃ added, subscriptionKeys (step db call) = subscriptionKeys db ++ added := by
  have unchanged
      (same : (step db call).notificationSubscriptions = db.notificationSubscriptions) :
      ∃ added, subscriptionKeys (step db call) = subscriptionKeys db ++ added :=
    ⟨[], by rw [subscriptionKeys, same, List.append_nil, subscriptionKeys]⟩
  cases call with
  | mark now actor target isRead => exact unchanged (mark_subscriptions db now actor target isRead)
  | notify call =>
      cases call with
      | triggerNotification env payload => exact unchanged (trigger_subscriptions db env payload)
      | subscribeEvent env actor payload =>
          have saved := subscribeEvent_saved env actor payload db
          generalize step db (.notify (.subscribeEvent env actor payload)) = db' at saved unchanged
          cases saved with
          | unsupported refused => exact unchanged rfl
          | unstorable refused => exact unchanged rfl
          | renewed supported subscriptionId row present same =>
              exact ⟨[], by rw [renewed_keys, List.append_nil]⟩
          | added supported fresh stored storable =>
              exact ⟨_, by rw [subscriptionKeys, Table.insert, List.map_append]; rfl⟩

/-- A subscription that is new under the object type asked for, and not under the one the
column makes of it by dropping blanks at the end. -/
def Repeats (db : NotificationDb) : Call → Prop
  | .notify (.subscribeEvent _ actor payload) =>
      (∃ channel, NotificationChannel.ofValue? payload.channel = some channel) ∧
        keyAsked actor payload ∉ subscriptionKeys db ∧
        ∃ stored, Storable db actor payload stored ∧
          { keyAsked actor payload with objectType := stored } ∈ subscriptionKeys db
  | .notify (.triggerNotification _ _) => False
  | .mark _ _ _ _ => False

theorem step_unique (db : NotificationDb) (call : Call) (unique : (subscriptionKeys db).Nodup) :
    (subscriptionKeys (step db call)).Nodup ↔ ¬ Repeats db call := by
  cases call with
  | mark now actor target isRead =>
      rw [subscriptionKeys, mark_subscriptions]
      exact iff_of_true unique id
  | notify call =>
      cases call with
      | triggerNotification env payload =>
          rw [subscriptionKeys, trigger_subscriptions]
          exact iff_of_true unique id
      | subscribeEvent env actor payload =>
          have saved := subscribeEvent_saved env actor payload db
          generalize step db (.notify (.subscribeEvent env actor payload)) = db' at saved
          cases saved with
          | unsupported refused =>
              refine iff_of_true unique ?_
              rintro ⟨⟨channel, supported⟩, _⟩
              rw [refused] at supported
              cases supported
          | unstorable refused =>
              refine iff_of_true unique ?_
              rintro ⟨_, _, stored, storable, _⟩
              exact refused stored storable
          | renewed supported subscriptionId row present same =>
              refine iff_of_true ?_ ?_
              · rw [renewed_keys]
                exact unique
              · rintro ⟨_, fresh, _⟩
                have held := List.mem_map_of_mem (f := keyOf)
                  ((Table.mem_rows _ _).mpr ⟨subscriptionId, present⟩)
                exact fresh (same ▸ held)
          | added supported fresh stored storable =>
              have keys : subscriptionKeys { db with
                  notificationSubscriptions := db.notificationSubscriptions.insert
                    { newSubscription env actor payload with objectType := stored } } =
                  subscriptionKeys db ++ [{ keyAsked actor payload with objectType := stored }] := by
                rw [subscriptionKeys, Table.insert, List.map_append]
                rfl
              rw [keys, List.nodup_append_comm, List.singleton_append, List.nodup_cons,
                and_iff_left unique, not_iff_not]
              constructor
              · intro taken
                exact ⟨supported, fresh, stored, storable, taken⟩
              · rintro ⟨_, _, other, storable', taken⟩
                obtain rfl := Except.ok.inj (storable.1.symm.trans storable'.1)
                exact taken

/-- After a run no user holds a subscription twice, exactly when no call of it has asked for
one under an object type that the column shortens to one the user already had. -/
theorem one_row_per_subscription_iff (userIds : List Nat) (calls : List Call) :
    (subscriptionKeys (run userIds calls)).Nodup ↔
      Runs.Along step (fun db call => ¬ Repeats db call) (NotificationDb.start userIds) calls := by
  apply Runs.final_iff_along step (fun _ => True) (fun db => (subscriptionKeys db).Nodup)
    (fun db call => ¬ Repeats db call)
  · exact fun _ _ _ => trivial
  · exact fun db call _ unique => step_unique db call unique
  · intro db call _ repeated unique
    obtain ⟨added, keys⟩ := step_keys db call
    rw [keys] at unique
    exact repeated (List.nodup_append.mp unique).1
  · trivial
  · exact List.nodup_nil

/-- All subscriptions are in force, and on channels that exist. -/
structure InForce (db : NotificationDb) : Prop where
  active : ∀ row ∈ db.notificationSubscriptions.rows, row.isActive = true
  supported : Supported db

theorem step_inForce (db : NotificationDb) (call : Call) (inForce : InForce db) :
    InForce (step db call) := by
  have unchanged
      (same : (step db call).notificationSubscriptions = db.notificationSubscriptions) :
      InForce (step db call) := by
    refine ⟨?_, ?_⟩
    · rw [same]
      exact inForce.active
    · rw [Supported, same]
      exact inForce.supported
  cases call with
  | mark now actor target isRead => exact unchanged (mark_subscriptions db now actor target isRead)
  | notify call =>
      refine ⟨?_, (step_subscriptions db call inForce.supported).2⟩
      cases call with
      | triggerNotification env payload =>
          exact (unchanged (trigger_subscriptions db env payload)).active
      | subscribeEvent env actor payload =>
          have saved := subscribeEvent_saved env actor payload db
          generalize step db (.notify (.subscribeEvent env actor payload)) = db' at saved
          cases saved with
          | unsupported refused => exact inForce.active
          | unstorable refused => exact inForce.active
          | renewed supported subscriptionId row present same =>
              exact (Table.forall_rows_modify _ _ _ row
                (fun row : NotificationSubscription => row.isActive = true) present
                inForce.active).mpr rfl
          | added supported fresh stored storable =>
              exact (Table.forall_rows_insert _ _
                (fun row : NotificationSubscription => row.isActive = true)).mpr ⟨inForce.active, rfl⟩

theorem run_inForce (userIds : List Nat) (calls : List Call) : InForce (run userIds calls) :=
  Runs.run_preserves step InForce step_inForce _ calls
    ⟨fun _ member => (nomatch member), fun _ member => nomatch member⟩

theorem subscribeEvent_stored (env : NotificationEnv) (actor : User)
    (payload : NotificationSubscribeRequest) (db db' : NotificationDb)
    (response : NotificationSubscriptionResponse)
    (short : ∀ text ∈ payload.objectType, text.length ≤ 64)
    (subscribed : subscribeEvent env actor payload db = .ok response db') :
    keyAsked actor payload ∈ subscriptionKeys db' := by
  have asStored : nullableVarchar "object_type" 64 payload.objectType = .ok payload.objectType := by
    cases given : payload.objectType with
    | none => rfl
    | some text => simp [nullableVarchar, varchar, short text (Option.mem_def.mpr given), Except.map]
  have wrote : step db (.notify (.subscribeEvent env actor payload)) = db' :=
    after_ok _ _ _ _ subscribed
  have saved := subscribeEvent_saved env actor payload db
  rw [wrote] at saved
  cases saved with
  | unsupported refused => simp [subscribeEvent, refused, run_bind] at subscribed
  | unstorable refused =>
      by_contra absent
      have missing : existingSubscription env actor payload db = none := by
        cases found : existingSubscription env actor payload db with
        | none => rfl
        | some entry =>
            obtain ⟨present, same⟩ := existingSubscription_some env actor payload db entry found
            exact (absent (same ▸ List.mem_map_of_mem
              ((Table.mem_rows _ _).mpr ⟨_, present⟩))).elim
      have unknown : actor.id ∉ db.userIds := fun known => refused _ ⟨asStored, known⟩
      cases named : NotificationChannel.ofValue? payload.channel with
      | none => simp [subscribeEvent, named, run_bind] at subscribed
      | some channel =>
          simp [subscribeEvent, named, run_bind, transactional, missing, insertSubscription,
            newSubscription, asStored, unknown] at subscribed
  | renewed supported subscriptionId row present same =>
      rw [renewed_keys, ← same]
      exact List.mem_map_of_mem ((Table.mem_rows _ _).mpr ⟨_, present⟩)
  | added supported fresh stored storable =>
      obtain rfl := Except.ok.inj (asStored.symm.trans storable.1)
      exact List.mem_map_of_mem (List.mem_append_right _ (List.mem_singleton.mpr rfl))

theorem run_keys (db : NotificationDb) (calls : List Call) (key : SubscriptionKey)
    (held : key ∈ subscriptionKeys db) : key ∈ subscriptionKeys (Runs.run step db calls) := by
  refine Runs.run_preserves step (fun db => key ∈ subscriptionKeys db) ?_ db calls held
  intro db call held
  obtain ⟨added, keys⟩ := step_keys db call
  rw [keys]
  exact List.mem_append_left _ held

theorem triggerNotification_some (env : NotificationEnv)
    (payload : NotificationEventTriggerRequest) (db db' : NotificationDb)
    (notification : NotificationResponse)
    (triggered : triggerNotification env payload db = .ok (some notification) db') :
    payload.recipientUserId ∈ db.userIds ∧
      db' = { db with notifications := db.notifications.insertAll (notified env payload db) } := by
  by_cases known : payload.recipientUserId ∈ db.userIds
  · refine ⟨known, ?_⟩
    cases throttled : isThrottled env.now payload.recipientUserId payload.eventType.1
      payload.objectType.1 payload.objectId.1 db with
    | true =>
        rw [triggerNotification_throttled env payload db known throttled] at triggered
        cases triggered
    | false =>
        obtain ⟨response, delivered⟩ := triggerNotification_delivers env payload db known throttled
        rw [delivered] at triggered
        cases triggered
        rfl
  · simp [triggerNotification, known, run_bind] at triggered

/-- Once `subscribe_event` has returned, every later trigger of the event for this user on an
object the subscription covers, if it is not held back, reaches the user on the channel
subscribed to, once. -/
theorem subscription_honoured (userIds : List Nat) (early middle : List Call)
    (env env' : NotificationEnv) (actor : User) (payload : NotificationSubscribeRequest)
    (payload' : NotificationEventTriggerRequest) (response : NotificationSubscriptionResponse)
    (notification : NotificationResponse) (db db' : NotificationDb)
    (subscribed : subscribeEvent env actor payload (run userIds early) = .ok response db)
    (toUser : payload'.recipientUserId = actor.id)
    (event : payload'.eventType.1 = payload.eventType.1)
    (covers : payload.objectType = none ∨ payload.objectType = some payload'.objectType.1)
    (triggered : triggerNotification env' payload' (run userIds
        (early ++ .notify (.subscribeEvent env actor payload) :: middle)) =
      .ok (some notification) db') :
    ∃ rows, db'.notifications.rows = (run userIds (early ++
        .notify (.subscribeEvent env actor payload) :: middle)).notifications.rows ++ rows ∧
      (∀ row ∈ rows, topicOf row = topicAsked payload') ∧
      (rows.map (·.channel.value)).count payload.channel = 1 := by
  have short : ∀ text ∈ payload.objectType, text.length ≤ 64 := by
    intro text member
    rcases covers with all | one
    · rw [all] at member
      cases member
    · rw [one, Option.mem_some_iff] at member
      exact member ▸ payload'.objectType.2.2
  have stored := subscribeEvent_stored env actor payload _ db response short subscribed
  have wrote : step (run userIds early) (.notify (.subscribeEvent env actor payload)) = db :=
    after_ok _ _ _ _ subscribed
  have held : keyAsked actor payload ∈ subscriptionKeys (run userIds
      (early ++ .notify (.subscribeEvent env actor payload) :: middle)) := by
    rw [run, Runs.run_append, Runs.run, List.foldl_cons]
    exact run_keys _ middle _ (wrote ▸ stored)
  have inForce := run_inForce userIds
    (early ++ .notify (.subscribeEvent env actor payload) :: middle)
  generalize run userIds (early ++ .notify (.subscribeEvent env actor payload) :: middle) =
    later at held triggered inForce
  obtain ⟨row, subscription, same⟩ := List.mem_map.mp held
  obtain ⟨user, eventType, objectType, channel⟩ := SubscriptionKey.mk.inj same
  have addressed : Addressed payload' later payload.channel := by
    refine .inr ⟨row, subscription, user.trans toUser.symm, inForce.active row subscription,
      eventType.trans event.symm, ?_, channel⟩
    rcases covers with all | one
    · exact .inl (objectType.trans all)
    · exact .inr (objectType.trans one)
  obtain ⟨_, batch⟩ := triggerNotification_some env' payload' later db' notification triggered
  have whole := notified_batch env' payload' later inForce.supported
  refine ⟨notified env' payload' later, by rw [batch]; rfl, whole.topic, ?_⟩
  exact List.count_eq_one_of_mem whole.once ((whole.addressed _).mpr addressed)

def byKeyAt (now : Time) : NotificationEnv := ⟨now, RowOrder.byKey, RowOrder.byKey⟩

def toAlerts (objectType : Option String) : NotificationSubscribeRequest :=
  ⟨⟨"risk_alert", by decide⟩, objectType, "in_process"⟩

def alert : NotificationEventTriggerRequest :=
  ⟨7, ⟨"risk_alert", by decide⟩, ⟨"merchant", by decide⟩, ⟨"M-7", by decide⟩,
    ⟨"Risk Alert", by decide⟩, ⟨"Score above 80", by decide⟩⟩

def alerted : List Call :=
  [.notify (.triggerNotification (byKeyAt 1) alert), .mark 2 recipient 1 true]

theorem subscription_honoured_for_alert : ∃ notification db' rows,
    triggerNotification (byKeyAt (timedeltaMinutes 11)) alert (run [7]
        (.notify (.subscribeEvent (byKeyAt 0) recipient (toAlerts none)) :: alerted)) =
      .ok (some notification) db' ∧
    db'.notifications.rows = (run [7] (.notify (.subscribeEvent (byKeyAt 0) recipient
      (toAlerts none)) :: alerted)).notifications.rows ++ rows ∧
    (∀ row ∈ rows, topicOf row = topicAsked alert) ∧
    (rows.map (·.channel.value)).count "in_process" = 1 := by
  obtain ⟨response, subscribed⟩ := returns_of_isOk
    (subscribeEvent (byKeyAt 0) recipient (toAlerts none)) (run [7] []) (by decide +kernel)
  obtain ⟨notification, triggered⟩ := triggerNotification_delivers (byKeyAt (timedeltaMinutes 11))
    alert (run [7] (.notify (.subscribeEvent (byKeyAt 0) recipient (toAlerts none)) :: alerted))
    (by decide +kernel) (by decide +kernel)
  obtain ⟨rows, appended, topic, once⟩ := subscription_honoured [7] [] alerted (byKeyAt 0)
    (byKeyAt (timedeltaMinutes 11)) recipient (toAlerts none) alert response notification _ _
    subscribed rfl rfl (.inl rfl) triggered
  exact ⟨notification, _, rows, triggered, appended, topic, once⟩

/-- An object type with a blank too many is looked up as it is and stored without the blank. -/
def padded : String := String.ofList (List.replicate 64 'x' ++ [' '])

example : ¬ (subscriptionKeys (run [7]
    [.notify (.subscribeEvent (byKeyAt 0) recipient (toAlerts (some padded))),
      .notify (.subscribeEvent (byKeyAt 1) recipient (toAlerts (some padded)))])).Nodup := by
  decide +kernel

end RetailApp.Inbox
