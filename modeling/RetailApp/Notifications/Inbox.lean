import RetailApp.Library.LastWrite
import RetailApp.Notifications.Throttle

/-! The inboxes over runs of subscriptions, triggers and read receipts: each user sees what was
sent to them, once, and on each notification the receipt of the last mark that was let through. -/

namespace RetailApp.Inbox

open Transaction Notifications

inductive Call where
  | notify (call : Notifications.Call)
  | mark (now : Time) (actor : User) (notificationId : Nat) (isRead : Bool)

def step (db : NotificationDb) : Call → NotificationDb
  | .notify call => Notifications.step db call
  | .mark now actor notificationId isRead =>
      after (markNotificationRead now actor notificationId isRead) db

def run (userIds : List Nat) (calls : List Call) : NotificationDb :=
  Runs.run step (NotificationDb.start userIds) calls

def sent (db : NotificationDb) : Call → List Notification
  | .notify (.triggerNotification env payload) =>
      if payload.recipientUserId ∈ db.userIds ∧ isThrottled env.now payload.recipientUserId
          payload.eventType.1 payload.objectType.1 payload.objectId.1 db = false then
        notified env payload db
      else []
  | .notify (.subscribeEvent _ _ _) => []
  | .mark _ _ _ _ => []

def sentAlong (db : NotificationDb) (calls : List Call) : List Notification :=
  Runs.outputs step sent db calls

structure Receipt where
  isRead : Bool
  readAt : Option Time
  deriving DecidableEq

def receiptOf (row : Notification) : Receipt := ⟨row.isRead, row.readAt⟩

def stamped (row : Notification) (receipt : Receipt) : Notification :=
  { row with isRead := receipt.isRead, readAt := receipt.readAt }

/-- The receipt a call puts on a notification of this recipient: only the recipient and
superusers may. -/
def receiptGiven (notificationId recipientUserId : Nat) : Call → Option Receipt
  | .notify _ => none
  | .mark now actor target isRead =>
      if target = notificationId ∧ (recipientUserId = actor.id ∨ actor.isSuperuser = true) then
        some ⟨isRead, if isRead then some now else none⟩
      else none

def unread (row : Notification) : Notification := stamped row ⟨false, none⟩

theorem flushReceipt_loaded (loaded assigned : Notification)
    (same : unread assigned = unread loaded) : flushReceipt loaded assigned loaded = assigned := by
  cases loaded
  cases assigned
  simp_all [flushReceipt, unread, stamped]

theorem step_mark (db : NotificationDb) (now : Time) (actor : User) (target : Nat) (isRead : Bool) :
    (∃ row, db.notifications.get? target = some row ∧
      (row.recipientUserId = actor.id ∨ actor.isSuperuser = true) ∧
      step db (.mark now actor target isRead) = { db with
        notifications := db.notifications.modify target
          (flushReceipt row (receipted now isRead row)) }) ∨
    (∀ row, db.notifications.get? target = some row →
      ¬ (row.recipientUserId = actor.id ∨ actor.isSuperuser = true)) ∧
      step db (.mark now actor target isRead) = db := by
  cases found : db.notifications.get? target with
  | none =>
      right
      refine ⟨nofun, ?_⟩
      simp [step, after, markNotificationRead, run_bind, found]
  | some row =>
      by_cases may : row.recipientUserId = actor.id ∨ actor.isSuperuser = true
      · left
        have passes : ¬ (row.recipientUserId ≠ actor.id ∧ actor.isSuperuser = false) := by
          rintro ⟨stranger, plain⟩
          rcases may with own | super
          · exact stranger own
          · rw [plain] at super
            cases super
        refine ⟨row, rfl, may, ?_⟩
        simp [step, after, markNotificationRead, run_bind, run_map, found, passes, transactional,
          refreshNotification]
      · right
        rw [not_or, Bool.not_eq_true] at may
        refine ⟨?_, ?_⟩
        · intro other same
          obtain rfl := Option.some.inj same
          rw [not_or, Bool.not_eq_true]
          exact may
        · simp [step, after, markNotificationRead, run_bind, found, may]

theorem step_notify (db : NotificationDb) (call : Notifications.Call) :
    (step db (.notify call)).notifications =
      db.notifications.insertAll (sent db (.notify call)) := by
  rw [step]
  cases call with
  | subscribeEvent env actor payload =>
      rw [sent, Table.insertAll_nil]
      have subscribed := subscribeEvent_subscribed env actor payload db
      generalize Notifications.step db (.subscribeEvent env actor payload) = db' at subscribed
      cases subscribed <;> rfl
  | triggerNotification env payload =>
      rw [sent, Notifications.step]
      by_cases known : payload.recipientUserId ∈ db.userIds
      · cases throttled : isThrottled env.now payload.recipientUserId payload.eventType.1
          payload.objectType.1 payload.objectId.1 db with
        | true =>
            rw [after_ok _ _ _ _ (triggerNotification_throttled env payload db known throttled),
              if_neg (by simp), Table.insertAll_nil]
        | false =>
            obtain ⟨response, delivered⟩ :=
              triggerNotification_delivers env payload db known throttled
            rw [after_ok _ _ _ _ delivered, if_pos ⟨known, rfl⟩]
      · have refused : after (triggerNotification env payload) db = db := by
          simp [triggerNotification, known, after, run_bind]
        rw [refused, if_neg (fun both => known both.1), Table.insertAll_nil]

theorem step_shows (row : Notification) (notificationId : Nat) (db : NotificationDb) (call : Call)
    (receipt : Receipt)
    (shown : db.notifications.get? notificationId = some (stamped row receipt)) :
    (step db call).notifications.get? notificationId = some (stamped row
      ((receiptGiven notificationId row.recipientUserId call).getD receipt)) := by
  cases call with
  | notify call =>
      rw [step_notify]
      exact Table.get?_insertAll_of_some _ _ _ _ shown
  | mark now actor target isRead =>
      rcases step_mark db now actor target isRead with ⟨found, present, may, wrote⟩ | ⟨denied, same⟩
      · rw [wrote, Table.get?_modify_of_some _ _ _ _ present]
        by_cases here : notificationId = target
        · subst here
          obtain rfl := Option.some.inj (present.symm.trans shown)
          have given : receiptGiven notificationId row.recipientUserId
              (.mark now actor notificationId isRead) =
                some ⟨isRead, if isRead then some now else none⟩ := if_pos ⟨rfl, may⟩
          rw [if_pos rfl, given, Option.getD_some,
            flushReceipt_loaded (stamped row receipt) (receipted now isRead (stamped row receipt)) rfl]
          rfl
        · have other : receiptGiven notificationId row.recipientUserId
              (.mark now actor target isRead) = none := if_neg (fun both => here both.1.symm)
          rw [if_neg here, other]
          exact shown
      · rw [same, shown]
        have none : receiptGiven notificationId row.recipientUserId
            (.mark now actor target isRead) = none := by
          refine if_neg ?_
          rintro ⟨rfl, may⟩
          exact denied _ shown may
        rw [none]
        rfl

theorem sent_unread (db : NotificationDb) (call : Call) :
    (sent db call).map unread = sent db call := by
  have all : ∀ row ∈ sent db call, unread row = row := by
    intro row member
    cases call with
    | mark now actor target isRead => cases member
    | notify call =>
        cases call with
        | subscribeEvent env actor payload => cases member
        | triggerNotification env payload =>
            rw [sent] at member
            split at member
            · obtain ⟨channel, _, rfl⟩ := List.mem_map.mp member
              rfl
            · cases member
  rw [List.map_congr_left all, List.map_id']

theorem step_letters (db : NotificationDb) (call : Call) :
    (step db call).notifications.rows.map unread =
      db.notifications.rows.map unread ++ sent db call := by
  cases call with
  | notify call =>
      rw [step_notify, Table.insertAll, List.map_append, sent_unread]
  | mark now actor target isRead =>
      have nothing : sent db (.mark now actor target isRead) = [] := rfl
      rw [nothing, List.append_nil]
      rcases step_mark db now actor target isRead with ⟨row, present, may, wrote⟩ | ⟨_, same⟩
      · rw [wrote]
        exact Table.map_modify _ _ _ _ (fun _ => rfl)
      · rw [same]

theorem run_letters (db : NotificationDb) (calls : List Call) :
    (Runs.run step db calls).notifications.rows.map unread =
      db.notifications.rows.map unread ++ sentAlong db calls :=
  Runs.run_appends step sent (fun db => db.notifications.rows.map unread) step_letters db calls

def lastReceipt (notificationId : Nat) (row : Notification) (calls : List Call) : Receipt :=
  (calls.filterMap (receiptGiven notificationId row.recipientUserId)).getLast?.getD (receiptOf row)

theorem run_shows (db : NotificationDb) (calls : List Call) (notificationId : Nat)
    (row : Notification) (stored : db.notifications.get? notificationId = some row) :
    (Runs.run step db calls).notifications.get? notificationId =
      some (stamped row (lastReceipt notificationId row calls)) := by
  rw [lastReceipt, ← LastWrite.last_of_calls step _ db]
  exact LastWrite.shows_last step _
    (fun db receipt => db.notifications.get? notificationId = some (stamped row receipt))
    (step_shows row notificationId) db (receiptOf row) calls stored

/-- A receipt has its time exactly when it says read. -/
def Dated (db : NotificationDb) : Prop :=
  ∀ row ∈ db.notifications.rows, row.isRead = row.readAt.isSome

theorem sent_dated (db : NotificationDb) (call : Call) :
    ∀ row ∈ sent db call, row.isRead = row.readAt.isSome := by
  rw [← sent_unread]
  intro row member
  obtain ⟨_, _, rfl⟩ := List.mem_map.mp member
  rfl

theorem step_dated (db : NotificationDb) (call : Call) (dated : Dated db) : Dated (step db call) := by
  cases call with
  | notify call =>
      intro row member
      rw [step_notify, Table.insertAll] at member
      rcases List.mem_append.mp member with old | new
      · exact dated row old
      · exact sent_dated db _ row new
  | mark now actor target isRead =>
      rcases step_mark db now actor target isRead with ⟨row, present, may, wrote⟩ | ⟨_, same⟩
      · rw [wrote]
        refine (Table.forall_rows_modify _ _ _ _ _ present dated).mpr ?_
        rw [flushReceipt_loaded row (receipted now isRead row) rfl]
        cases isRead <;> rfl
      · rw [same]
        exact dated

def letterOf (response : NotificationResponse) : NotificationResponse :=
  { response with id := 0, isRead := false, readAt := none }

/-- What is shown to the owner of an inbox: everything sent to them, the newest first. -/
structure Shows (letters : List Notification) (owner : Nat)
    (responses : List NotificationResponse) : Prop where
  letters : responses.map letterOf =
    (letters.filter (fun row => row.recipientUserId == owner)).reverse.map
      (fun row => toNotificationResponse (0, row))
  descending : responses.Pairwise (fun newer older => older.id < newer.id)
  dated : ∀ response ∈ responses, response.isRead = response.readAt.isSome

theorem list_shows (db : NotificationDb) (letters : List Notification) (owner : Nat)
    (dated : Dated db) (same : db.notifications.rows.map unread = letters) :
    Shows letters owner ((db.notifications.entries.filter
      (fun entry => entry.2.recipientUserId == owner)).reverse.map toNotificationResponse) := by
  constructor
  · have rows := Table.filter_entries_rows db.notifications
      (fun row => row.recipientUserId == owner)
    have owned : letters.filter (fun row => row.recipientUserId == owner) =
        (db.notifications.rows.filter (fun row => row.recipientUserId == owner)).map unread := by
      rw [← same, List.filter_map]
      rfl
    rw [owned, ← rows, List.map_map, List.map_reverse, List.map_reverse, List.map_map, List.map_map]
    rfl
  · rw [List.pairwise_map, List.pairwise_reverse]
    exact (Table.entries_ascending db.notifications).sublist List.filter_sublist
  · intro response member
    obtain ⟨⟨key, row⟩, inside, rfl⟩ := List.mem_map.mp member
    have stored := (List.mem_filter.mp (List.mem_reverse.mp inside)).1
    exact dated row ((Table.mem_rows _ _).mpr ⟨key, (Table.mem_entries _ _ _).mp stored⟩)

theorem listNotifications_eq (db : NotificationDb) (actor : User) (targetUserId : Option Nat) :
    listNotifications db actor targetUserId =
      if inboxOwner actor targetUserId = actor.id ∨ actor.isSuperuser = true then
        .ok ((db.notifications.entries.filter (fun entry =>
          entry.2.recipientUserId == inboxOwner actor targetUserId)).reverse.map
            toNotificationResponse)
      else .error (.authorization "Notification access denied") := by
  by_cases may : inboxOwner actor targetUserId = actor.id ∨ actor.isSuperuser = true
  · have passes : ¬ (inboxOwner actor targetUserId ≠ actor.id ∧ actor.isSuperuser = false) := by
      rintro ⟨foreign, plain⟩
      rcases may with own | super
      · exact foreign own
      · rw [plain] at super
        cases super
    rw [if_pos may, listNotifications, raiseIf_neg _ _ passes]
    rfl
  · have denied : inboxOwner actor targetUserId ≠ actor.id ∧ actor.isSuperuser = false := by
      rwa [not_or, Bool.not_eq_true] at may
    rw [if_neg may, listNotifications, raiseIf_pos _ _ denied]
    rfl

/-- After any run every user is shown exactly what was sent to them in it, once and the newest
first, nobody but they and superusers are shown it, and each notification carries the receipt
of the last mark by one of these since it was sent. -/
theorem inbox_exact (userIds : List Nat) (calls : List Call) :
    (∀ actor targetUserId,
      (inboxOwner actor targetUserId = actor.id ∨ actor.isSuperuser = true →
        ∃ responses, listNotifications (run userIds calls) actor targetUserId = .ok responses ∧
          Shows (sentAlong (NotificationDb.start userIds) calls) (inboxOwner actor targetUserId)
            responses) ∧
      (¬ (inboxOwner actor targetUserId = actor.id ∨ actor.isSuperuser = true) →
        listNotifications (run userIds calls) actor targetUserId =
          .error (.authorization "Notification access denied"))) ∧
      ∀ early late notificationId row, calls = early ++ late →
        (run userIds early).notifications.get? notificationId = some row →
        (run userIds calls).notifications.get? notificationId =
          some (stamped row (lastReceipt notificationId row late)) := by
  have dated : Dated (run userIds calls) :=
    Runs.run_preserves step Dated step_dated _ calls (fun _ member => nomatch member)
  have letters := run_letters (NotificationDb.start userIds) calls
  refine ⟨?_, ?_⟩
  · intro actor targetUserId
    rw [listNotifications_eq]
    refine ⟨?_, fun denied => if_neg denied⟩
    intro may
    exact ⟨_, if_pos may, list_shows _ _ _ dated letters⟩
  · rintro early late notificationId row rfl stored
    rw [run, Runs.run_append]
    exact run_shows _ late notificationId row stored

def recipient : User := ⟨7, false, []⟩

def stranger : User := ⟨8, false, []⟩

/-- Two alerts, a mark by their recipient, one by a stranger and one that takes the first back. -/
example : (listNotifications (run [7, 8] [.notify (budgetAt 0), .mark 1 stranger 1 true,
    .mark 2 recipient 1 true, .notify (budgetAt (timedeltaMinutes 11)), .mark 3 recipient 1 false,
    .mark 4 recipient 2 true]) recipient none).toOption.map
      (fun responses => responses.map (fun response => (response.id, response.readAt))) =
    some [(2, some 4), (1, none)] := by decide +kernel

end RetailApp.Inbox
