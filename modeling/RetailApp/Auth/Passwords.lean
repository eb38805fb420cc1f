import RetailApp.Validation.Minimums

/-! Which password logs in. The tables hold a hash; seen from outside it is a register that holds
the last password an account was changed to. -/

namespace RetailApp.Passwords

open Transaction Auth

inductive Call where
  | auth (call : Auth.Call)
  | createUser (tools : RegistrationEnv) (payload : UserCreateRequest) (actorUserId : Option Nat)
  | changePassword (tools : RegistrationEnv) (userId : Nat) (payload : ChangePasswordRequest)

def requester (db : AuthDb) (userId : Nat) : Option (Nat × UserRow) :=
  ((db.users.get? userId).filter (fun row => row.isActive && !row.isDeleted)).map (userId, ·)

section Passwords

variable (settings : AuthSettings)

def step (db : AuthDb) : Call → AuthDb
  | .auth call => call.tables settings db
  | .createUser tools payload actorUserId =>
      after (RetailApp.createUser tools payload actorUserId) db
  | .changePassword tools userId payload =>
      match requester db userId with
      | some user => after (RetailApp.changePassword settings tools user payload) db
      | none => db

def run (db : AuthDb) (calls : List Call) : AuthDb := Runs.run (step settings) db calls

def usable (row : UserRow) : Bool := row.isActive && !row.isDeleted

def accepts (first : UserRow) (last : Option String) (password : String) : Bool :=
  match last with
  | some changed => password == changed
  | none => settings.verifyPassword password first.passwordHash

/-- A change goes through when the new password meets the policy and the old one is taken. -/
def changes (first : UserRow) (last : Option String) (tools : RegistrationEnv)
    (payload : ChangePasswordRequest) : Bool :=
  usable first && (validatePasswordPolicy tools payload.newPassword.1).isOk &&
    accepts settings first last payload.oldPassword

def changedTo (key : Nat) (first : UserRow) (last : Option String) : Call → Option String
  | .auth _ => last
  | .createUser _ _ _ => last
  | .changePassword tools userId payload =>
      if userId = key ∧ changes settings first last tools payload = true then
        some payload.newPassword.1
      else last

def lastPassword (key : Nat) (first : UserRow) (calls : List Call) : Option String :=
  Runs.run (changedTo settings key first) none calls

def identity (row : UserRow) : String × Bool × Bool := (row.username, row.isActive, row.isDeleted)

def Shows (key : Nat) (first : UserRow) (db : AuthDb) (last : Option String) : Prop :=
  ∃ row, db.users.get? key = some row ∧ identity row = identity first ∧
    ∀ password, settings.verifyPassword password row.passwordHash =
      accepts settings first last password

/-- argon2 as documented: a hash it makes verifies the password it was made from and no other. -/
def Verifies (call : Call) : Prop :=
  match call with
  | .changePassword tools _ _ => ∀ password given,
      settings.verifyPassword password (tools.hashPassword given) = (password == given)
  | .auth _ => True
  | .createUser _ _ _ => True

inductive Accounts (db : AuthDb) : Call → AuthDb → Prop
  | same (call : Call) (db' : AuthDb) (users : db'.users = db.users) : Accounts db call db'
  | login (call : Auth.Call) (db' : AuthDb) (user : Nat × UserRow) (assigned : UserRow)
      (users : db'.users = db.users.modify user.1 (UserRow.flush user.2 assigned))
      (same : identity assigned = identity user.2)
      (password : assigned.passwordHash = user.2.passwordHash) : Accounts db (.auth call) db'
  | register (tools : RegistrationEnv) (payload : UserCreateRequest) (actorUserId : Option Nat)
      (db' : AuthDb) (row : UserRow) (free : row.username ∉ db.users.rows.map (·.username))
      (users : db'.users = db.users.insert row) :
      Accounts db (.createUser tools payload actorUserId) db'

theorem login_accounts (env : AuthEnv) (payload : LoginRequest) (db : AuthDb) :
    Accounts db (.auth (.login env payload)) (after (login settings env payload) db) := by
  have split : after (login settings env payload) db = _ :=
    after_checked (loginChecks env payload) (loginCommit settings env payload) db
  rw [split]
  cases checks : loginChecks env payload db with
  | error raised => exact .same _ _ rfl
  | ok user =>
      by_cases wrong : settings.verifyPassword payload.password user.2.passwordHash = false
      · have counted := Lockout.login_wrong settings env payload db user checks wrong
        rw [checks] at split
        rw [← split, after_error _ _ _ _ counted]
        refine .login _ _ user (failedLogin env.now user.2) rfl ?_ ?_ <;>
          unfold failedLogin lockUserIfNeeded <;> split_ifs <;> rfl
      · dsimp only
        rw [loginCommit, if_neg wrong]
        rcases after_cases (loginSucceededCommit settings env user)
          (allOrNothing_answer _ _ (allOrNothing_transactional _)) db with ⟨_, returned⟩ | same
        · obtain ⟨_, _, wrote⟩ := (loginSucceededCommit_ok settings env user db _ _).mp returned
          rw [wrote]
          exact .login _ _ user (loggedIn env.now user.2) rfl rfl rfl
        · rw [same]
          exact .same _ _ rfl

theorem refreshToken_users (env : AuthEnv) (value : String) (db : AuthDb) :
    (after (refreshToken settings env value) db).users = db.users := by
  have whole : AllOrNothing (refreshToken settings env value) :=
    allOrNothing_checked (refreshChecks settings env value) (refreshCommit settings env)
      (fun _ record _ => allOrNothing_answer _ _ (allOrNothing_transactional _) _)
  rcases after_cases (refreshToken settings env value) whole db with ⟨_, returned⟩ | same
  · obtain ⟨record, passed, committed⟩ := (checked_ok (refreshChecks settings env value)
      (refreshCommit settings env) db _ _).mp returned
    have usable := ((refreshChecks_ok settings env value db record).mp passed).2
    have live : record.2.isRevoked = false := Bool.eq_false_iff.mpr (fun dead => usable (.inl dead))
    obtain ⟨_, _, wrote⟩ := (refreshCommit_ok settings env record db _ live _).mp committed
    rw [wrote]
  · rw [same]

theorem register_accounts (tools : RegistrationEnv) (payload : UserCreateRequest)
    (actorUserId : Option Nat) (db : AuthDb) :
    Accounts db (.createUser tools payload actorUserId)
      (after (RetailApp.createUser tools payload actorUserId) db) := by
  rcases outcome_cases (RetailApp.createUser tools payload actorUserId) db with
    ⟨created, returned, _⟩ | ⟨raised, failed, _⟩
  · obtain ⟨_, free, _, wrote⟩ := createUser_ok tools payload actorUserId db _ created returned
    rw [wrote]
    refine .register tools payload actorUserId _ (newUser tools payload).row ?_ rfl
    simpa [newUser] using free
  · have same := Validation.createUser_allOrNothing tools payload actorUserId db _ raised failed
    rw [same]
    exact .same _ _ rfl

theorem step_accounts (db : AuthDb) (call : Call)
    (other : ∀ tools userId payload, call ≠ .changePassword tools userId payload) :
    Accounts db call (step settings db call) := by
  cases call with
  | auth call =>
      cases call with
      | login env payload => exact login_accounts settings env payload db
      | refreshToken env value => exact .same _ _ (refreshToken_users settings env value db)
      | logout user named =>
          refine .same _ _ ?_
          rw [step, Auth.Call.tables, after_ok _ _ _ _ (logout_eq settings user named db)]
  | createUser tools payload actorUserId => exact register_accounts tools payload actorUserId db
  | changePassword tools userId payload => exact absurd rfl (other tools userId payload)

def Allowed (row : UserRow) (tools : RegistrationEnv) (payload : ChangePasswordRequest) : Prop :=
  usable row = true ∧ (validatePasswordPolicy tools payload.newPassword.1).isOk = true ∧
    settings.verifyPassword payload.oldPassword row.passwordHash = true

def withPassword (passwordHash : String) (row : UserRow) : UserRow :=
  { row with passwordHash := passwordHash }

def changedTables (tools : RegistrationEnv) (userId : Nat) (row : UserRow)
    (payload : ChangePasswordRequest) (db : AuthDb) : AuthDb :=
  { db with
    users := db.users.modify userId (UserRow.flush row
      (withPassword (tools.hashPassword payload.newPassword.1) row))
    auditLogs := db.auditLogs.insert
      ⟨some userId, "auth.password.change", "user", userId, .noDetails⟩ }

theorem step_change (tools : RegistrationEnv) (userId : Nat) (payload : ChangePasswordRequest)
    (db : AuthDb) :
    (∃ row, db.users.get? userId = some row ∧ Allowed settings row tools payload ∧
      step settings db (.changePassword tools userId payload) =
        changedTables tools userId row payload db) ∨
    (∀ row, db.users.get? userId = some row → ¬ Allowed settings row tools payload) ∧
      step settings db (.changePassword tools userId payload) = db := by
  cases found : db.users.get? userId with
  | none => exact .inr ⟨nofun, by simp [step, requester, found]⟩
  | some row =>
      cases active : usable row with
      | false =>
          right
          refine ⟨?_, ?_⟩
          · intro other isRow allowed
            obtain rfl := Option.some.inj isRow
            rw [allowed.1] at active
            cases active
          · have nobody : requester db userId = none := by
              rw [requester, found, Option.filter_some, if_neg]
              · rfl
              · exact Bool.eq_false_iff.mp active
            rw [step, nobody]
      | true =>
          have somebody : requester db userId = some (userId, row) := by
            rw [requester, found, Option.filter_some, if_pos]
            · rfl
            · exact active
          rw [step, somebody]
          cases policy : validatePasswordPolicy tools payload.newPassword.1 with
          | error raised =>
              right
              refine ⟨?_, by simp [after, changePassword, run_bind, policy]⟩
              intro other isRow allowed
              obtain rfl := Option.some.inj isRow
              rw [Allowed, policy] at allowed
              cases allowed.2.1
          | ok passed =>
              cases right : settings.verifyPassword payload.oldPassword row.passwordHash with
              | false =>
                  refine .inr ⟨?_, by simp [after, changePassword, run_bind, policy, right]⟩
                  intro other isRow allowed
                  obtain rfl := Option.some.inj isRow
                  rw [allowed.2.2] at right
                  cases right
              | true =>
                  refine .inl ⟨row, rfl, ⟨active, by rw [policy]; rfl, right⟩, ?_⟩
                  simp [after, changePassword, run_bind, policy, right, transactional, updateUser,
                    writeAuthAudit, changedTables, withPassword]

theorem get?_flush (users : Table UserRow) (key : Nat) (row : UserRow)
    (found : users.get? key = some row) (user : Nat × UserRow) (assigned : UserRow)
    (same : identity assigned = identity user.2)
    (password : assigned.passwordHash = user.2.passwordHash) :
    ∃ row', (users.modify user.1 (UserRow.flush user.2 assigned)).get? key = some row' ∧
      identity row' = identity row ∧ row'.passwordHash = row.passwordHash := by
  simp only [identity, Prod.mk.injEq] at same
  rw [Table.get?_modify, found]
  split
  · refine ⟨_, rfl, ?_, ?_⟩
    · simp [identity, UserRow.flush, same.1, same.2.1, same.2.2]
    · simp [UserRow.flush, password]
  · exact ⟨row, rfl, rfl, rfl⟩

theorem accounts_kept (db db' : AuthDb) (call : Call) (accounts : Accounts db call db') (key : Nat)
    (row : UserRow) (found : db.users.get? key = some row) :
    ∃ row', db'.users.get? key = some row' ∧ identity row' = identity row ∧
      row'.passwordHash = row.passwordHash := by
  cases accounts with
  | same call db' users => exact ⟨row, by rw [users, found], rfl, rfl⟩
  | login call db' user assigned users same password =>
      rw [users]
      exact get?_flush db.users key row found user assigned same password
  | register tools payload actorUserId db' new free users =>
      exact ⟨row, by rw [users]; exact Table.get?_insert_of_some _ _ _ _ found, rfl, rfl⟩

theorem usable_congr (row first : UserRow) (same : identity row = identity first) :
    usable row = usable first := by
  simp only [identity, Prod.mk.injEq] at same
  rw [usable, usable, same.2.1, same.2.2]

theorem step_shows (key : Nat) (first : UserRow) (db : AuthDb) (last : Option String) (call : Call)
    (verifies : Verifies settings call) (shows : Shows settings key first db last) :
    Shows settings key first (step settings db call) (changedTo settings key first last call) := by
  obtain ⟨row, found, same, takes⟩ := shows
  have unchanged (other : ∀ tools userId payload, call ≠ .changePassword tools userId payload)
      (idle : changedTo settings key first last call = last) :
      Shows settings key first (step settings db call)
        (changedTo settings key first last call) := by
    obtain ⟨row', present, alike, password⟩ :=
      accounts_kept db _ call (step_accounts settings db call other) key row found
    rw [idle]
    exact ⟨row', present, alike.trans same, by rw [password]; exact takes⟩
  cases call with
  | auth call => exact unchanged (by simp) rfl
  | createUser tools payload actorUserId => exact unchanged (by simp) rfl
  | changePassword tools userId payload =>
      have goes : changes settings first last tools payload = true ↔
          Allowed settings row tools payload := by
        rw [changes, Allowed, Bool.and_eq_true, Bool.and_eq_true, usable_congr row first same,
          takes, and_assoc]
      rcases step_change settings tools userId payload db with ⟨loaded, there, may, wrote⟩ |
        ⟨refused, idle⟩
      · rw [wrote]
        by_cases own : userId = key
        · subst own
          obtain rfl := Option.some.inj (there.symm.trans found)
          have register : changedTo settings userId first last
              (.changePassword tools userId payload) = some payload.newPassword.1 :=
            if_pos ⟨rfl, goes.mpr may⟩
          have stored : (changedTables tools userId loaded payload db).users.get? userId =
              some (withPassword (tools.hashPassword payload.newPassword.1) loaded) := by
            rw [changedTables, Table.get?_modify_of_some _ _ _ _ found, if_pos rfl,
              UserRow.flush_loaded]
          rw [register]
          exact ⟨_, stored, same, fun password => verifies password payload.newPassword.1⟩
        · have register : changedTo settings key first last
              (.changePassword tools userId payload) = last := if_neg (fun both => own both.1)
          have stored : (changedTables tools userId loaded payload db).users.get? key =
              some row := by
            rw [changedTables, Table.get?_modify, if_neg (fun here => own here.symm), found]
          rw [register]
          exact ⟨row, stored, same, takes⟩
      · rw [idle]
        have register : changedTo settings key first last
            (.changePassword tools userId payload) = last := by
          refine if_neg ?_
          rintro ⟨rfl, change⟩
          exact refused row found (goes.mp change)
        rw [register]
        exact ⟨row, found, same, takes⟩

/-- No two accounts have one username: what the unique index enforces. -/
def Distinct (db : AuthDb) : Prop := (db.users.rows.map (·.username)).Nodup

theorem step_distinct (db : AuthDb) (call : Call) (distinct : Distinct db) :
    Distinct (step settings db call) := by
  have modified (key : Nat) (loaded assigned : UserRow) (db' : AuthDb)
      (users : db'.users = db.users.modify key (UserRow.flush loaded assigned))
      (same : assigned.username = loaded.username) : Distinct db' := by
    have names := Table.map_modify db.users key (UserRow.flush loaded assigned) (·.username)
      (fun row => by simp [UserRow.flush, same])
    rw [Distinct, users, names]
    exact distinct
  have others (accounts : Accounts db call (step settings db call)) :
      Distinct (step settings db call) := by
    cases accounts with
    | same _ _ users =>
        rw [Distinct, users]
        exact distinct
    | login _ _ user assigned users same _ =>
        exact modified user.1 user.2 assigned _ users (congrArg Prod.fst same)
    | register _ _ _ _ row free users =>
        rw [Distinct, users, Table.insert, List.map_append, List.map_singleton,
          List.nodup_append_comm, List.singleton_append, List.nodup_cons]
        exact ⟨free, distinct⟩
  cases call with
  | auth call => exact others (step_accounts settings db _ (by simp))
  | createUser tools payload actorUserId => exact others (step_accounts settings db _ (by simp))
  | changePassword tools userId payload =>
      rcases step_change settings tools userId payload db with ⟨row, _, _, wrote⟩ | ⟨_, same⟩
      · rw [wrote]
        exact modified userId row _ _ rfl rfl
      · rw [same]
        exact distinct

theorem login_iff (env : AuthEnv) (payload : LoginRequest) (db : AuthDb) (user : Nat × UserRow)
    (found : loadUserForAuth db payload.username = some user)
    (fresh : settings.hashToken env.accessToken ∉ tokenHashes db ∧
      settings.hashToken env.refreshToken ∉ refreshTokenHashes db) :
    (∃ response db', login settings env payload db = .ok response db') ↔
      usable user.2 = true ∧
        ¬ user.2.lockedUntil.any (fun lockedUntil => env.now < lockedUntil) = true ∧
        settings.verifyPassword payload.password user.2.passwordHash = true := by
  have active : usable user.2 = true ↔ ¬ (user.2.isDeleted = true ∨ user.2.isActive = false) := by
    cases deleted : user.2.isDeleted <;> cases active : user.2.isActive <;>
      simp [usable, deleted, active]
  rw [active]
  constructor
  · rintro ⟨response, db', returned⟩
    obtain ⟨loaded, passed, committed⟩ := (checked_ok (loginChecks env payload)
      (loginCommit settings env payload) db db' response).mp returned
    obtain ⟨again, usable, unlocked⟩ := (loginChecks_ok env payload db loaded).mp passed
    obtain rfl := Option.some.inj (again.symm.trans found)
    refine ⟨usable, unlocked, ?_⟩
    by_contra wrong
    rw [Bool.not_eq_true] at wrong
    have counted := Lockout.login_wrong settings env payload db loaded passed wrong
    rw [returned] at counted
    cases counted
  · rintro ⟨usable, unlocked, right⟩
    have passed := (loginChecks_ok env payload db user).mpr ⟨found, usable, unlocked⟩
    exact ⟨_, _, Lockout.login_right settings env payload db user passed
      (by rw [right]; decide) fresh⟩

/-- After any run of logins, refreshes, logouts, registrations and password changes, and from any
state, the one password that logs in to an account is the last it was changed to, or the one it
had where nothing changed it; a change asks for that password and the policy, and never for less
however often it was refused. -/
theorem last_password_logs_in (db : AuthDb) (distinct : Distinct db) (key : Nat) (first : UserRow)
    (present : db.users.get? key = some first) (calls : List Call)
    (verifies : ∀ call ∈ calls, Verifies settings call) :
    ∃ row, (run settings db calls).users.get? key = some row ∧
      ∀ env password,
        settings.hashToken env.accessToken ∉ tokenHashes (run settings db calls) ∧
          settings.hashToken env.refreshToken ∉ refreshTokenHashes (run settings db calls) →
        ((∃ response db', login settings env ⟨first.username, password⟩ (run settings db calls) =
            .ok response db') ↔
          usable first = true ∧
            ¬ row.lockedUntil.any (fun lockedUntil => env.now < lockedUntil) = true ∧
            accepts settings first (lastPassword settings key first calls) password = true) := by
  have shows : Shows settings key first (run settings db calls)
      (lastPassword settings key first calls) :=
    Runs.run_simulates (step settings) (changedTo settings key first)
      (Shows settings key first) (Verifies settings)
      (fun db last call verifies shows => step_shows settings key first db last call verifies shows)
      db none calls verifies ⟨first, present, rfl, fun _ => rfl⟩
  have names : Distinct (run settings db calls) :=
    Runs.run_preserves (step settings) Distinct (step_distinct settings) db calls distinct
  obtain ⟨row, found, same, takes⟩ := shows
  have name : row.username = first.username := congrArg Prod.fst same
  have named : loadUserForAuth (run settings db calls) first.username = some (key, row) :=
    Table.find?_unique (run settings db calls).users (fun row => row.username == first.username)
      (fun row => row.username) first.username (fun _ selected => eq_of_beq selected) names key row
      found (beq_iff_eq.mpr name)
  refine ⟨row, found, ?_⟩
  intro env password fresh
  rw [login_iff settings env ⟨first.username, password⟩ _ (key, row) named fresh, takes,
    usable_congr row first same]

def besidesPassword (users : Table UserRow) (key : Nat) : Option UserRow :=
  (users.get? key).map (withPassword "")

structure Unchanged (db db' : AuthDb) : Prop where
  sessions : db'.sessionTokens = db.sessionTokens
  accounts : ∀ key, besidesPassword db'.users key = besidesPassword db.users key

theorem change_unchanged (tools : RegistrationEnv) (userId : Nat)
    (payload : ChangePasswordRequest) (db : AuthDb) :
    Unchanged db (step settings db (.changePassword tools userId payload)) := by
  rcases step_change settings tools userId payload db with ⟨row, found, _, wrote⟩ | ⟨_, same⟩
  · rw [wrote]
    refine ⟨rfl, ?_⟩
    intro key
    rw [besidesPassword, besidesPassword, changedTables, Table.get?_modify]
    split
    · rename_i here
      rw [here, found, Option.map_some, UserRow.flush_loaded]
      rfl
    · rfl
  · rw [same]
    exact ⟨rfl, fun _ => rfl⟩

theorem currentUserChecks_unchanged (now : Time) (credentials : Option HTTPAuthorizationCredentials)
    (db db' : AuthDb) (unchanged : Unchanged db db') :
    currentUserChecks settings now credentials db' =
      currentUserChecks settings now credentials db := by
  have loads (userId : Nat) (raised : Raised) :
      (do
        let user ← orRaise (db'.users.get? userId) raised
        raiseIf (user.isActive = false ∨ user.isDeleted = true) raised
        return (⟨userId, user.isSuperuser, user.roles⟩ : User) : Except Raised User) =
      (do
        let user ← orRaise (db.users.get? userId) raised
        raiseIf (user.isActive = false ∨ user.isDeleted = true) raised
        return ⟨userId, user.isSuperuser, user.roles⟩) := by
    have same := unchanged.accounts userId
    rw [besidesPassword, besidesPassword] at same
    cases now : db'.users.get? userId with
    | none =>
        rw [now, Option.map_none, eq_comm, Option.map_eq_none_iff] at same
        rw [same]
    | some row' =>
        rw [now, Option.map_some, eq_comm, Option.map_eq_some_iff] at same
        obtain ⟨row, found, alike⟩ := same
        simp only [withPassword, UserRow.mk.injEq] at alike
        rw [found]
        simp only [orRaise_some, bind, Except.bind, alike]
  simp only [currentUserChecks, unchanged.sessions, loads]

/-- Changing passwords, however often and whether it succeeds or not, ends no session: every
token is accepted for the user it was accepted for before. And it counts nothing towards a lock:
the accounts stay as they were but for the password. -/
theorem tokens_outlive_password_changes (db : AuthDb)
    (changes : List (RegistrationEnv × Nat × ChangePasswordRequest)) :
    (∀ now credentials,
      reply (getCurrentUser settings now credentials) (run settings db
          (changes.map (fun change => .changePassword change.1 change.2.1 change.2.2))) =
        reply (getCurrentUser settings now credentials) db) ∧
      ∀ key, besidesPassword (run settings db
          (changes.map (fun change => .changePassword change.1 change.2.1 change.2.2))).users key =
        besidesPassword db.users key := by
  have unchanged : Unchanged db (run settings db
      (changes.map (fun change => .changePassword change.1 change.2.1 change.2.2))) := by
    induction changes generalizing db with
    | nil => exact ⟨rfl, fun _ => rfl⟩
    | cons change changes ih =>
        have first := change_unchanged settings change.1 change.2.1 change.2.2 db
        have rest := ih (step settings db (.changePassword change.1 change.2.1 change.2.2))
        exact ⟨rest.sessions.trans first.sessions,
          fun key => (rest.accounts key).trans (first.accounts key)⟩
  refine ⟨?_, unchanged.accounts⟩
  intro now credentials
  rw [getCurrentUser, reply_attempt, reply_attempt]
  exact currentUserChecks_unchanged settings now credentials db _ unchanged

end Passwords

def changeOwner (oldPassword : String) (newPassword : BoundedText 8 128) : Call :=
  .changePassword sampleTools 1 ⟨oldPassword, newPassword⟩

def ownerChanges : List Call :=
  [changeOwner "guess-1" ⟨"stolen-pass-1", by decide⟩,
    changeOwner "owner-pass-1" ⟨"owner-pass-2", by decide⟩]

theorem sampleTools_verifies (password given : String) :
    sampleSettings.verifyPassword password (sampleTools.hashPassword given) =
      (password == given) := by
  have prefixed : "$argon2id$" ++ given = "$argon2id$" ++ password ↔ password = given := by
    rw [String.append_right_inj, eq_comm]
  rw [Bool.eq_iff_iff, beq_iff_eq, ← prefixed]
  exact beq_iff_eq

theorem owner_logs_in_with_last :
    (∃ response db', login sampleSettings bobLogin ⟨ownerRow.username, "owner-pass-2"⟩
        (run sampleSettings (AuthDb.start ⟨[ownerRow]⟩) ownerChanges) = .ok response db') ∧
      ¬ ∃ response db', login sampleSettings bobLogin ⟨ownerRow.username, "owner-pass-1"⟩
        (run sampleSettings (AuthDb.start ⟨[ownerRow]⟩) ownerChanges) = .ok response db' := by
  have verifies : ∀ call ∈ ownerChanges, Verifies sampleSettings call := by
    intro call member
    simp only [ownerChanges, changeOwner, List.mem_cons, List.not_mem_nil, or_false] at member
    rcases member with rfl | rfl <;> exact sampleTools_verifies
  obtain ⟨row, found, exactly⟩ := last_password_logs_in sampleSettings
    (AuthDb.start ⟨[ownerRow]⟩) (List.nodup_singleton _) 1 ownerRow rfl ownerChanges verifies
  have unlocked : ((run sampleSettings (AuthDb.start ⟨[ownerRow]⟩) ownerChanges).users.get? 1).map
      (·.lockedUntil) = some none := by decide +kernel
  rw [found, Option.map_some, Option.some.injEq] at unlocked
  have each := fun password => exactly bobLogin password (by decide +kernel)
  simp only [unlocked, Option.any_none, Bool.false_eq_true, not_false_eq_true, true_and] at each
  rw [each, each]
  decide +kernel

end RetailApp.Passwords
