import RetailApp.Library.Runs
import RetailApp.Services.AuthService

/-! Runs of logins, refreshes and logouts. Whatever a call does, the accounts stay who they are;
a call that returns revokes the sessions it ends and may add one, and a call that raises leaves
the session table alone. -/

namespace RetailApp.Auth

open Transaction

inductive Call where
  | login (env : AuthEnv) (payload : LoginRequest)
  | refreshToken (env : AuthEnv) (refreshTokenValue : String)
  | logout (user : User) (refreshTokenValue : Option String)

/-- A call that returned, with its answer. -/
inductive Event where
  | loggedIn (username : String) (response : TokenResponse)
  | refreshed (exchanged : String) (response : TokenResponse)
  | loggedOut (userId : Nat) (named : Option String)

/-- The tables, and the calls that have returned so far, the latest first. -/
structure State where
  db : AuthDb
  log : List Event

section Runs

variable (settings : AuthSettings)

def Call.tables (db : AuthDb) : Call → AuthDb
  | .login env payload => after (RetailApp.login settings env payload) db
  | .refreshToken env refreshTokenValue =>
      after (RetailApp.refreshToken settings env refreshTokenValue) db
  | .logout user refreshTokenValue => after (RetailApp.logout settings user refreshTokenValue) db

def Call.event (db : AuthDb) : Call → Option Event
  | .login env payload =>
      (reply (RetailApp.login settings env payload) db).toOption.map (.loggedIn payload.username)
  | .refreshToken env refreshTokenValue =>
      (reply (RetailApp.refreshToken settings env refreshTokenValue) db).toOption.map
        (.refreshed refreshTokenValue)
  | .logout user refreshTokenValue =>
      (reply (RetailApp.logout settings user refreshTokenValue) db).toOption.map
        (fun _ => .loggedOut user.id refreshTokenValue)

def step (state : State) (call : Call) : State where
  db := call.tables settings state.db
  log := (call.event settings state.db).toList ++ state.log

def run (state : State) (calls : List Call) : State := Runs.run (step settings) state calls

def State.start (users : Table UserRow) : State := ⟨AuthDb.start users, []⟩

end Runs

def userNamed (users : Table UserRow) (username : String) : Option Nat :=
  (users.find? (·.username == username)).map (·.1)

/-- What the checks on an account go by, its password and lock apart. -/
def standing (row : UserRow) : Bool × Bool := (row.isActive, row.isDeleted)

structure SameAccounts (users users' : Table UserRow) : Prop where
  named : ∀ username, userNamed users' username = userNamed users username
  standing : ∀ key, (users'.get? key).map standing = (users.get? key).map standing

theorem SameAccounts.refl (users : Table UserRow) : SameAccounts users users :=
  ⟨fun _ => rfl, fun _ => rfl⟩

theorem SameAccounts.trans (first second third : Table UserRow)
    (before : SameAccounts first second) (later : SameAccounts second third) :
    SameAccounts first third :=
  ⟨fun username => (later.named username).trans (before.named username),
    fun key => (later.standing key).trans (before.standing key)⟩

theorem sameAccounts_modify (users : Table UserRow) (key : Nat) (loaded assigned : UserRow)
    (name : assigned.username = loaded.username) (active : assigned.isActive = loaded.isActive)
    (deleted : assigned.isDeleted = loaded.isDeleted) :
    SameAccounts users (users.modify key (UserRow.flush loaded assigned)) where
  named username := by
    refine Table.find?_modify users key (UserRow.flush loaded assigned) _ ?_
    intro row
    simp only [UserRow.flush, name, changed_same]
  standing other := by
    rw [Table.get?_modify]
    split
    · rw [Option.map_map]
      congr 1
      funext row
      simp only [Function.comp_apply, standing, UserRow.flush, active, deleted, changed_same]
    · rfl

section Sessions

variable (settings : AuthSettings)

structure Fits (row : SessionToken) (userId : Nat) (response : TokenResponse) : Prop where
  owner : row.userId = userId
  access : row.tokenHash = settings.hashToken response.accessToken
  refresh : row.refreshTokenHash = settings.hashToken response.refreshToken
  expires : row.expiresAt = response.expiresAt

/-- The sessions a call ends when it returns, as the session table shows them. -/
def Event.hits (row : SessionToken) : Event → Bool
  | .loggedIn _ _ => false
  | .refreshed exchanged _ => row.refreshTokenHash == settings.hashToken exchanged
  | .loggedOut userId named =>
      row.userId == userId && match truthy named with
        | some value => row.refreshTokenHash == settings.hashToken value
        | none => true

def revoke (row : SessionToken) : SessionToken := { row with isRevoked := true }

def Event.revokes (event : Event) (row : SessionToken) : SessionToken :=
  if event.hits settings row = true then revoke row else row

inductive Opens (db : AuthDb) : Event → Option SessionToken → Prop
  | login (username : String) (response : TokenResponse) (row : SessionToken) (userId : Nat)
      (named : userNamed db.users username = some userId) (fits : Fits settings row userId response)
      (live : row.isRevoked = false) : Opens db (.loggedIn username response) (some row)
  | refresh (exchanged : String) (response : TokenResponse) (row record : SessionToken)
      (member : record ∈ db.sessionTokens.rows)
      (hash : record.refreshTokenHash = settings.hashToken exchanged)
      (fits : Fits settings row record.userId response) (live : row.isRevoked = false) :
      Opens db (.refreshed exchanged response) (some row)
  | logout (userId : Nat) (named : Option String) : Opens db (.loggedOut userId named) none

def tokenHashes (db : AuthDb) : List String := db.sessionTokens.rows.map (·.tokenHash)

def refreshTokenHashes (db : AuthDb) : List String :=
  db.sessionTokens.rows.map (·.refreshTokenHash)

structure Wrote (db db' : AuthDb) (event : Event) (fresh : Option SessionToken) : Prop where
  accounts : SameAccounts db.users db'.users
  sessions : db'.sessionTokens.rows =
    db.sessionTokens.rows.map (event.revokes settings) ++ fresh.toList
  opens : Opens settings db event fresh
  tokenFree : ∀ row, fresh = some row → row.tokenHash ∉ tokenHashes db
  refreshTokenFree : ∀ row, fresh = some row → row.refreshTokenHash ∉ refreshTokenHashes db

structure Refused (db db' : AuthDb) : Prop where
  accounts : SameAccounts db.users db'.users
  sessions : db'.sessionTokens = db.sessionTokens

@[simp] theorem revokes_userId (event : Event) (row : SessionToken) :
    (event.revokes settings row).userId = row.userId := by
  unfold Event.revokes
  split <;> rfl

@[simp] theorem revokes_tokenHash (event : Event) (row : SessionToken) :
    (event.revokes settings row).tokenHash = row.tokenHash := by
  unfold Event.revokes
  split <;> rfl

@[simp] theorem revokes_refreshTokenHash (event : Event) (row : SessionToken) :
    (event.revokes settings row).refreshTokenHash = row.refreshTokenHash := by
  unfold Event.revokes
  split <;> rfl

@[simp] theorem revokes_expiresAt (event : Event) (row : SessionToken) :
    (event.revokes settings row).expiresAt = row.expiresAt := by
  unfold Event.revokes
  split <;> rfl

@[simp] theorem revokes_isRevoked (event : Event) (row : SessionToken) :
    (event.revokes settings row).isRevoked = (row.isRevoked || event.hits settings row) := by
  unfold Event.revokes
  cases hit : event.hits settings row <;> simp [revoke]

theorem map_revokes {α : Type} (column : SessionToken → α) (event : Event)
    (rows : List SessionToken)
    (kept : ∀ row, column (event.revokes settings row) = column row) :
    (rows.map (event.revokes settings)).map column = rows.map column := by
  rw [List.map_map]
  exact List.map_congr_left (fun row _ => kept row)

theorem hash_free (rows : List SessionToken) (column : SessionToken → String) (hash : String) :
    rows.any (fun row => column row == hash) = false ↔ hash ∉ rows.map column := by
  rw [List.any_eq_false, List.mem_map]
  constructor
  · rintro free ⟨row, member, same⟩
    exact free row member (beq_iff_eq.mpr same)
  · intro free row member same
    exact free ⟨row, member, beq_iff_eq.mp same⟩

theorem insertSession_ok (row : SessionToken) (db db' : AuthDb) (value : Unit) :
    insertSession row db = .ok value db' ↔ row.tokenHash ∉ tokenHashes db ∧
      row.refreshTokenHash ∉ refreshTokenHashes db ∧
        db' = { db with sessionTokens := db.sessionTokens.insert row } := by
  have tokenFree : tokenHashTaken db row.tokenHash = false ↔ row.tokenHash ∉ tokenHashes db :=
    hash_free _ (·.tokenHash) _
  have refreshFree : refreshTokenHashTaken db row.refreshTokenHash = false ↔
      row.refreshTokenHash ∉ refreshTokenHashes db := hash_free _ (·.refreshTokenHash) _
  rw [← tokenFree, ← refreshFree]
  simp only [insertSession, bind_ok, get_ok, attempt_ok, set_ok, raiseIf_ok, Bool.not_eq_true]
  constructor
  · rintro ⟨_, _, ⟨rfl, rfl⟩, _, _, ⟨tokenFree, rfl⟩, _, _, ⟨refreshFree, rfl⟩, rfl⟩
    exact ⟨tokenFree, refreshFree, rfl⟩
  · rintro ⟨tokenFree, refreshFree, rfl⟩
    exact ⟨db, db, ⟨rfl, rfl⟩, (), db, ⟨tokenFree, rfl⟩, (), db, ⟨refreshFree, rfl⟩, rfl⟩

theorem newSession_fits (env : AuthEnv) (userId : Nat) :
    Fits settings (newSession settings env userId) userId (tokenResponse settings env) :=
  ⟨rfl, rfl, rfl, rfl⟩

theorem flush_revoke (loaded current : SessionToken) (live : loaded.isRevoked = false) :
    SessionToken.flush loaded { loaded with isRevoked := true } current = revoke current := by
  simp [SessionToken.flush, changed, revoke, live]

theorem revoke_revoke (row : SessionToken) : revoke (revoke row) = revoke row := rfl

def revokeAll (sessionTokens : Table SessionToken) (keys : List Nat) : Table SessionToken :=
  keys.foldl (fun sessionTokens key => sessionTokens.modify key revoke) sessionTokens

theorem updateSession_revoke (record : Nat × SessionToken) (db : AuthDb)
    (live : record.2.isRevoked = false) :
    updateSession record { record.2 with isRevoked := true } db =
      .ok () { db with sessionTokens := db.sessionTokens.modify record.1 revoke } := by
  have flushed : SessionToken.flush record.2 { record.2 with isRevoked := true } = revoke :=
    funext (fun current => flush_revoke record.2 current live)
  rw [updateSession, flushed]
  rfl

theorem forM_revoke (records : List (Nat × SessionToken)) (db : AuthDb)
    (live : ∀ record ∈ records, record.2.isRevoked = false) :
    records.forM (fun record => updateSession record { record.2 with isRevoked := true }) db =
      .ok () { db with sessionTokens := revokeAll db.sessionTokens (records.map (·.1)) } := by
  induction records generalizing db with
  | nil => rfl
  | cons record records ih =>
      obtain ⟨first, rest⟩ := List.forall_mem_cons.mp live
      rw [List.forM_eq_forM, List.forM_cons, bind_ok]
      exact ⟨(), _, updateSession_revoke record db first, ih _ rest⟩

theorem rows_revokeAll (sessionTokens : Table SessionToken) (keys : List Nat) (event : Event)
    (chosen : ∀ key row, sessionTokens.get? key = some row → row.isRevoked = false →
      (key ∈ keys ↔ event.hits settings row = true)) :
    (revokeAll sessionTokens keys).rows = sessionTokens.rows.map (event.revokes settings) := by
  apply Table.rows_map
  intro key
  rw [revokeAll, Table.get?_foldl_modify _ _ _ revoke_revoke]
  cases present : sessionTokens.get? key with
  | none => simp
  | some row =>
      cases already : row.isRevoked with
      | true =>
          have same : revoke row = row := by rw [revoke, ← already]
          simp [Event.revokes, same]
      | false =>
          simp only [Event.revokes, ← chosen key row present already, Option.map_some]
          split <;> rfl

theorem found_iff (sessionTokens : Table SessionToken) (selects : SessionToken → Bool)
    (hash : String) (pins : ∀ row, selects row = true → row.refreshTokenHash = hash)
    (distinct : (sessionTokens.rows.map (·.refreshTokenHash)).Nodup) (key : Nat)
    (row : SessionToken) (present : sessionTokens.get? key = some row) :
    key ∈ (sessionTokens.find? selects).toList.map (·.1) ↔ selects row = true := by
  constructor
  · intro member
    obtain ⟨entry, isFound, rfl⟩ := List.mem_map.mp member
    obtain ⟨there, chosen⟩ := Table.find?_some sessionTokens selects entry
      (Option.mem_toList.mp isFound)
    rwa [Option.some.inj (present.symm.trans there)]
  · intro selected
    rw [Table.find?_unique sessionTokens selects _ hash pins distinct key row present selected]
    exact List.mem_singleton.mpr rfl

theorem sessionsToRevoke_live (db : AuthDb) (userId : Nat) (named : Option String)
    (record : Nat × SessionToken) (member : record ∈ sessionsToRevoke settings db userId named) :
    record.2.isRevoked = false := by
  unfold sessionsToRevoke at member
  split at member
  · have chosen := (Table.find?_some _ _ _ (Option.mem_toList.mp member)).2
    simp only [Bool.and_eq_true, Bool.not_eq_true'] at chosen
    exact chosen.2
  · have chosen := (List.mem_filter.mp member).2
    simp only [Bool.and_eq_true, Bool.not_eq_true'] at chosen
    exact chosen.2

theorem sessionsToRevoke_chosen (db : AuthDb) (userId : Nat) (named : Option String)
    (distinct : (refreshTokenHashes db).Nodup) (key : Nat) (row : SessionToken)
    (present : db.sessionTokens.get? key = some row) (live : row.isRevoked = false) :
    key ∈ (sessionsToRevoke settings db userId named).map (·.1) ↔
      (Event.loggedOut userId named).hits settings row = true := by
  rw [sessionsToRevoke, Event.hits]
  cases truthy named with
  | some value =>
      rw [found_iff db.sessionTokens _ (settings.hashToken value) ?_ distinct key row present]
      · simp [live]
      · intro other selected
        simp only [Bool.and_eq_true, beq_iff_eq] at selected
        exact selected.1.2
  | none =>
      simp only [Bool.and_true, List.mem_map, List.mem_filter, Bool.and_eq_true, beq_iff_eq,
        Bool.not_eq_true']
      constructor
      · rintro ⟨⟨_, other⟩, ⟨member, owned, _⟩, rfl⟩
        have there := (Table.mem_entries db.sessionTokens _ other).mp member
        rwa [Option.some.inj (present.symm.trans there)]
      · intro owned
        exact ⟨(key, row), ⟨(Table.mem_entries _ key row).mpr present, owned, live⟩, rfl⟩

theorem logout_eq (user : User) (named : Option String) (db : AuthDb) :
    logout settings user named db = .ok ()
      { db with
        sessionTokens := revokeAll db.sessionTokens
          ((sessionsToRevoke settings db user.id named).map (·.1))
        auditLogs := db.auditLogs.insert
          ⟨some user.id, "auth.logout", "user", user.id, .noDetails⟩ } := by
  rw [logout, transactional_ok, bind_ok]
  refine ⟨db, db, rfl, ?_⟩
  rw [bind_ok]
  exact ⟨(), _, forM_revoke _ db (sessionsToRevoke_live settings db user.id named), rfl⟩

theorem loginChecks_ok (env : AuthEnv) (payload : LoginRequest) (db : AuthDb)
    (user : Nat × UserRow) :
    loginChecks env payload db = .ok user ↔ loadUserForAuth db payload.username = some user ∧
      ¬ (user.2.isDeleted = true ∨ user.2.isActive = false) ∧
        ¬ user.2.lockedUntil.any (fun lockedUntil => env.now < lockedUntil) = true := by
  simp only [loginChecks, bind_except_ok, orRaise_ok, raiseIf_ok, pure_except_ok]
  constructor
  · rintro ⟨_, found, _, usable, _, unlocked, rfl⟩
    exact ⟨found, usable, unlocked⟩
  · rintro ⟨found, usable, unlocked⟩
    exact ⟨user, found, (), usable, (), unlocked, rfl⟩

theorem refreshChecks_ok (env : AuthEnv) (value : String) (db : AuthDb)
    (record : Nat × SessionToken) :
    refreshChecks settings env value db = .ok record ↔
      db.sessionTokens.find? (·.refreshTokenHash == settings.hashToken value) = some record ∧
        ¬ (record.2.isRevoked = true ∨ record.2.refreshExpiresAt ≤ env.now) := by
  simp only [refreshChecks, bind_except_ok, orRaise_ok, raiseIf_ok, pure_except_ok]
  constructor
  · rintro ⟨_, found, _, usable, rfl⟩
    exact ⟨found, usable⟩
  · rintro ⟨found, usable⟩
    exact ⟨record, found, (), usable, rfl⟩

theorem sameAccounts_failedLogin (users : Table UserRow) (now : Time) (user : Nat × UserRow) :
    SameAccounts users (users.modify user.1 (UserRow.flush user.2 (failedLogin now user.2))) := by
  apply sameAccounts_modify <;> unfold failedLogin lockUserIfNeeded <;> split <;> rfl

theorem sameAccounts_loggedIn (users : Table UserRow) (now : Time) (user : Nat × UserRow) :
    SameAccounts users (users.modify user.1 (UserRow.flush user.2 (loggedIn now user.2))) :=
  sameAccounts_modify users user.1 user.2 (loggedIn now user.2) rfl rfl rfl

theorem login_wrote (env : AuthEnv) (payload : LoginRequest) (db db' : AuthDb)
    (response : TokenResponse)
    (returned : login settings env payload db = .ok response db') :
    ∃ row, Wrote settings db db' (.loggedIn payload.username response) (some row) := by
  obtain ⟨user, passed, committed⟩ :=
    (checked_ok (loginChecks env payload) (loginCommit settings env payload) db db' response).mp
      returned
  have found := ((loginChecks_ok env payload db user).mp passed).1
  unfold loginCommit at committed
  split at committed
  · obtain ⟨_, _, _, raised⟩ := (bind_ok _ _ _ _ _).mp committed
    cases raised
  · simp only [loginSucceededCommit, bind_ok, transactional_ok, pure_ok, updateUser,
      writeAuthAudit, modify_ok, insertSession_ok] at committed
    obtain ⟨_, _, ⟨_, _, rfl, _, _, ⟨tokenFree, refreshFree, rfl⟩, rfl⟩, rfl, rfl⟩ := committed
    refine ⟨newSession settings env user.1, ?_, ?_, ?_, ?_, ?_⟩
    · exact sameAccounts_loggedIn db.users env.now user
    · have untouched : Event.revokes settings (.loggedIn payload.username
          (tokenResponse settings env)) = id := rfl
      rw [untouched, List.map_id]
      rfl
    · have named : userNamed db.users payload.username = some user.1 :=
        congrArg (Option.map Prod.fst) found
      exact .login _ _ _ user.1 named (newSession_fits settings env user.1) rfl
    · intro row same
      obtain rfl := Option.some.inj same
      exact tokenFree
    · intro row same
      obtain rfl := Option.some.inj same
      exact refreshFree

theorem login_refused (env : AuthEnv) (payload : LoginRequest) (db db' : AuthDb) (raised : Raised)
    (failed : login settings env payload db = .error raised db') : Refused db db' := by
  rcases (checked_error (loginChecks env payload) (loginCommit settings env payload) db db'
    raised).mp failed with ⟨_, rfl⟩ | ⟨user, _, committed⟩
  · exact ⟨SameAccounts.refl db.users, rfl⟩
  · unfold loginCommit at committed
    split at committed
    · obtain ⟨_, rfl⟩ := EStateM.Result.error.inj committed
      exact ⟨sameAccounts_failedLogin db.users env.now user, rfl⟩
    · have whole : AllOrNothing (loginSucceededCommit settings env user) :=
        allOrNothing_answer _ _ (allOrNothing_transactional _)
      obtain rfl := whole db db' raised committed
      exact ⟨SameAccounts.refl db'.users, rfl⟩

theorem refreshToken_wrote (env : AuthEnv) (value : String) (db db' : AuthDb)
    (response : TokenResponse) (distinct : (refreshTokenHashes db).Nodup)
    (returned : refreshToken settings env value db = .ok response db') :
    ∃ row, Wrote settings db db' (.refreshed value response) (some row) := by
  obtain ⟨record, passed, committed⟩ :=
    (checked_ok (refreshChecks settings env value) (refreshCommit settings env) db db'
      response).mp returned
  obtain ⟨found, usable⟩ := (refreshChecks_ok settings env value db record).mp passed
  obtain ⟨present, hash⟩ := Table.find?_some _ _ _ found
  have live : record.2.isRevoked = false := Bool.eq_false_iff.mpr (fun dead => usable (.inl dead))
  have written (other : AuthDb) :
      updateSession record { record.2 with isRevoked := true } db = .ok () other ↔
        { db with sessionTokens := db.sessionTokens.modify record.1 revoke } = other := by
    rw [updateSession_revoke record db live]
    simp
  simp only [refreshCommit, bind_ok, transactional_ok, pure_ok, written, writeAuthAudit,
    modify_ok, insertSession_ok] at committed
  obtain ⟨_, _, ⟨_, _, rfl, _, _, ⟨tokenFree, refreshFree, rfl⟩, rfl⟩, rfl, rfl⟩ := committed
  have rows : (db.sessionTokens.modify record.1 revoke).rows = db.sessionTokens.rows.map
      (Event.revokes settings (.refreshed value (tokenResponse settings env))) := by
    refine rows_revokeAll settings db.sessionTokens [record.1] _ ?_
    intro key row there _
    have chosen := found_iff db.sessionTokens (·.refreshTokenHash == settings.hashToken value)
      (settings.hashToken value) (fun _ selected => beq_iff_eq.mp selected) distinct key row there
    rw [found] at chosen
    exact chosen
  rw [tokenHashes, rows, map_revokes settings _ _ _ (revokes_tokenHash settings _)] at tokenFree
  rw [refreshTokenHashes, rows,
    map_revokes settings _ _ _ (revokes_refreshTokenHash settings _)] at refreshFree
  refine ⟨newSession settings env record.2.userId, ?_, ?_, ?_, ?_, ?_⟩
  · exact SameAccounts.refl db.users
  · exact congrArg (· ++ [newSession settings env record.2.userId]) rows
  · exact .refresh _ _ _ record.2 ((Table.mem_rows _ _).mpr ⟨record.1, present⟩)
      (beq_iff_eq.mp hash) (newSession_fits settings env record.2.userId) rfl
  · intro row same
    obtain rfl := Option.some.inj same
    exact tokenFree
  · intro row same
    obtain rfl := Option.some.inj same
    exact refreshFree

theorem refreshToken_refused (env : AuthEnv) (value : String) (db db' : AuthDb) (raised : Raised)
    (failed : refreshToken settings env value db = .error raised db') : Refused db db' := by
  have whole : AllOrNothing (refreshToken settings env value) :=
    allOrNothing_checked (refreshChecks settings env value) (refreshCommit settings env)
      (fun _ record _ => allOrNothing_answer _ _ (allOrNothing_transactional _) _)
  obtain rfl := whole db db' raised failed
  exact ⟨SameAccounts.refl db'.users, rfl⟩

theorem logout_wrote (user : User) (named : Option String) (db : AuthDb)
    (distinct : (refreshTokenHashes db).Nodup) :
    Wrote settings db (after (logout settings user named) db) (.loggedOut user.id named) none := by
  rw [after_ok _ _ _ _ (logout_eq settings user named db)]
  refine ⟨SameAccounts.refl db.users, ?_, .logout user.id named, ?_, ?_⟩
  · rw [Option.toList_none, List.append_nil]
    exact rows_revokeAll settings db.sessionTokens _ _
      (fun key row => sessionsToRevoke_chosen settings db user.id named distinct key row)
  · simp
  · simp

theorem step_cases (state : State) (call : Call)
    (distinct : (refreshTokenHashes state.db).Nodup) :
    (Refused state.db (step settings state call).db ∧
        (step settings state call).log = state.log) ∨
      ∃ event fresh, Wrote settings state.db (step settings state call).db event fresh ∧
        (step settings state call).log = event :: state.log := by
  cases call with
  | login env payload =>
      rcases outcome_cases (login settings env payload) state.db with
        ⟨response, returned, answer⟩ | ⟨raised, failed, answer⟩
      · obtain ⟨row, wrote⟩ := login_wrote settings env payload state.db _ response returned
        refine Or.inr ⟨.loggedIn payload.username response, some row, wrote, ?_⟩
        simp [step, Call.event, answer, Except.toOption]
      · refine Or.inl ⟨login_refused settings env payload state.db _ raised failed, ?_⟩
        simp [step, Call.event, answer, Except.toOption]
  | refreshToken env value =>
      rcases outcome_cases (refreshToken settings env value) state.db with
        ⟨response, returned, answer⟩ | ⟨raised, failed, answer⟩
      · obtain ⟨row, wrote⟩ :=
          refreshToken_wrote settings env value state.db _ response distinct returned
        refine Or.inr ⟨.refreshed value response, some row, wrote, ?_⟩
        simp [step, Call.event, answer, Except.toOption]
      · refine Or.inl ⟨refreshToken_refused settings env value state.db _ raised failed, ?_⟩
        simp [step, Call.event, answer, Except.toOption]
  | logout user named =>
      refine Or.inr ⟨.loggedOut user.id named, none,
        logout_wrote settings user named state.db distinct, ?_⟩
      simp [step, Call.event, reply, logout_eq, Except.toOption]

end Sessions

end RetailApp.Auth
