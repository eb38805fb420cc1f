import RetailApp.Auth.Calls
import RetailApp.Library.TwoStep

/-! Logins, refreshes and logouts in sessions of their own. A login reads the account and
compares the password in one step, a refresh looks its session up in one; each writes in
another, from the row it loaded. A logout reads and writes in one transaction. -/

namespace RetailApp.Auth

open Transaction

/-- `env` is what the request sees at its first step, `committedAt` the clock at its second. -/
inductive Request where
  | login (env : AuthEnv) (committedAt : Time) (payload : LoginRequest)
  | refreshToken (env : AuthEnv) (committedAt : Time) (refreshTokenValue : String)
  | logout (user : User) (refreshTokenValue : Option String)

/-- A login with a wrong password raises once its failure is committed. -/
inductive Reply where
  | invalidCredentials
  | issued (response : TokenResponse)
  | loggedOut
  deriving DecidableEq

inductive Plan where
  | login (env : AuthEnv) (payload : LoginRequest) (user : Nat × UserRow)
  | refreshToken (env : AuthEnv) (refreshTokenValue : String) (record : Nat × SessionToken)
  | logout (user : User) (refreshTokenValue : Option String)

variable (settings : AuthSettings)

def read : Request → AuthDb → Except Raised (Reply ⊕ Plan)
  | .login env committedAt payload, db =>
      (loginChecks env payload db).map
        (fun user => .inr (.login { env with now := committedAt } payload user))
  | .refreshToken env committedAt value, db =>
      (refreshChecks settings env value db).map
        (fun record => .inr (.refreshToken { env with now := committedAt } value record))
  | .logout user value, _ => .ok (.inr (.logout user value))

def commit : Plan → AuthService Reply
  | .login env payload user =>
      if settings.verifyPassword payload.password user.2.passwordHash = false then
        (fun _ => .invalidCredentials) <$> loginFailedCommit env user
      else .issued <$> loginSucceededCommit settings env user
  | .refreshToken env _ record => .issued <$> refreshCommit settings env record
  | .logout user value => (fun _ => .loggedOut) <$> logout settings user value

def backend : Protocol Request AuthDb Raised Reply Plan := ⟨read settings, commit settings⟩

def Request.call : Request → Call
  | .login env _ payload => .login env payload
  | .refreshToken env _ value => .refreshToken env value
  | .logout user value => .logout user value

def Request.AtOnce : Request → Prop
  | .login env committedAt _ => committedAt = env.now
  | .refreshToken env committedAt _ => committedAt = env.now
  | .logout _ _ => True

theorem read_login (env : AuthEnv) (committedAt : Time) (payload : LoginRequest) (db : AuthDb)
    (answer : Reply ⊕ Plan) :
    read settings (.login env committedAt payload) db = .ok answer ↔
      ∃ user, loginChecks env payload db = .ok user ∧
        answer = .inr (.login { env with now := committedAt } payload user) := by
  rw [read, map_except_ok]
  simp only [eq_comm]

theorem read_refreshToken (env : AuthEnv) (committedAt : Time) (value : String) (db : AuthDb)
    (answer : Reply ⊕ Plan) :
    read settings (.refreshToken env committedAt value) db = .ok answer ↔
      ∃ record, refreshChecks settings env value db = .ok record ∧
        answer = .inr (.refreshToken { env with now := committedAt } value record) := by
  rw [read, map_except_ok]
  simp only [eq_comm]

/-- What the commit of a failed login writes, whatever the tables hold by then. -/
def guessed (env : AuthEnv) (user : Nat × UserRow) (db : AuthDb) : AuthDb :=
  { db with
    users := db.users.modify user.1 (UserRow.flush user.2 (failedLogin env.now user.2))
    auditLogs := db.auditLogs.insert ⟨some user.1, "auth.login.failed", "user", user.1,
      .authLoginFailed (failedLogin env.now user.2).failedLoginAttempts⟩ }

theorem loadUserForAuth_modify (db db' : AuthDb) (username : String) (user : Nat × UserRow)
    (assigned row : UserRow)
    (users : db'.users = db.users.modify user.1 (UserRow.flush user.2 assigned))
    (same : assigned.username = user.2.username)
    (named : loadUserForAuth db username = some (user.1, row)) :
    loadUserForAuth db' username = some (user.1, UserRow.flush user.2 assigned row) := by
  have kept := Table.find?_modify_of_some db.users user.1 user.1
    (UserRow.flush user.2 assigned) (·.username == username) row ?_ named
  · rw [if_pos rfl, ← users] at kept
    exact kept
  · intro other
    simp only [UserRow.flush, same, changed_same]

theorem loginFailedCommit_eq (env : AuthEnv) (user : Nat × UserRow) (db : AuthDb) :
    loginFailedCommit env user db = .ok () (guessed env user db) := by
  rw [loginFailedCommit, transactional_ok, bind_ok]
  exact ⟨(), _, rfl, rfl⟩

variable {settings} in
theorem commit_wrong (env : AuthEnv) (payload : LoginRequest) (user : Nat × UserRow)
    (db : AuthDb) (wrong : settings.verifyPassword payload.password user.2.passwordHash = false) :
    commit settings (.login env payload user) db = .ok .invalidCredentials (guessed env user db) := by
  rw [commit, if_pos wrong, map_ok]
  exact ⟨(), loginFailedCommit_eq env user db, rfl⟩

def issued (env : AuthEnv) (user : Nat × UserRow) (db : AuthDb) : AuthDb where
  users := db.users.modify user.1 (UserRow.flush user.2 (loggedIn env.now user.2))
  sessionTokens := db.sessionTokens.insert (newSession settings env user.1)
  auditLogs := db.auditLogs.insert
    ⟨some user.1, "auth.login.success", "user", user.1, .noDetails⟩

theorem loginSucceededCommit_ok (env : AuthEnv) (user : Nat × UserRow) (db db' : AuthDb)
    (response : TokenResponse) :
    loginSucceededCommit settings env user db = .ok response db' ↔
      (settings.hashToken env.accessToken ∉ tokenHashes db ∧
        settings.hashToken env.refreshToken ∉ refreshTokenHashes db) ∧
      response = tokenResponse settings env ∧ db' = issued settings env user db := by
  simp only [loginSucceededCommit, bind_ok, transactional_ok, pure_ok, updateUser,
    writeAuthAudit, modify_ok, insertSession_ok, tokenHashes, refreshTokenHashes]
  constructor
  · rintro ⟨_, _, ⟨_, _, rfl, _, _, ⟨tokenFree, refreshFree, rfl⟩, rfl⟩, rfl, rfl⟩
    exact ⟨⟨tokenFree, refreshFree⟩, rfl, rfl⟩
  · rintro ⟨⟨tokenFree, refreshFree⟩, rfl, rfl⟩
    exact ⟨(), _, ⟨(), _, rfl, (), _, ⟨tokenFree, refreshFree, rfl⟩, rfl⟩, rfl, rfl⟩

inductive Writes (db : AuthDb) : Plan → AuthDb → Prop
  | guessed (env : AuthEnv) (payload : LoginRequest) (user : Nat × UserRow)
      (wrong : settings.verifyPassword payload.password user.2.passwordHash = false) :
      Writes db (.login env payload user) (guessed env user db)
  | loggedIn (env : AuthEnv) (payload : LoginRequest) (user : Nat × UserRow)
      (right : settings.verifyPassword payload.password user.2.passwordHash ≠ false)
      (fresh : settings.hashToken env.refreshToken ∉ refreshTokenHashes db) :
      Writes db (.login env payload user) (issued settings env user db)
  | refreshed (env : AuthEnv) (value : String) (record : Nat × SessionToken)
      (fresh : settings.hashToken env.refreshToken ∉ refreshTokenHashes db) :
      Writes db (.refreshToken env value record)
        { db with
          sessionTokens := (db.sessionTokens.modify record.1 revoke).insert
            (newSession settings env record.2.userId)
          auditLogs := db.auditLogs.insert
            ⟨some record.2.userId, "auth.token.refresh", "session", record.1, .noDetails⟩ }
  | loggedOut (user : User) (value : Option String) :
      Writes db (.logout user value)
        { db with
          sessionTokens := revokeAll db.sessionTokens
            ((sessionsToRevoke settings db user.id value).map (·.1))
          auditLogs := db.auditLogs.insert
            ⟨some user.id, "auth.logout", "user", user.id, .noDetails⟩ }

def Plan.FoundLive : Plan → Prop
  | .login _ _ _ => True
  | .refreshToken _ _ record => record.2.isRevoked = false
  | .logout _ _ => True

theorem refreshCommit_ok (env : AuthEnv) (record : Nat × SessionToken) (db db' : AuthDb)
    (live : record.2.isRevoked = false) (response : TokenResponse) :
    refreshCommit settings env record db = .ok response db' ↔
      (settings.hashToken env.accessToken ∉ tokenHashes db ∧
        settings.hashToken env.refreshToken ∉ refreshTokenHashes db) ∧
      response = tokenResponse settings env ∧
      db' = { db with
        sessionTokens := (db.sessionTokens.modify record.1 revoke).insert
          (newSession settings env record.2.userId)
        auditLogs := db.auditLogs.insert
          ⟨some record.2.userId, "auth.token.refresh", "session", record.1, .noDetails⟩ } := by
  have access : (db.sessionTokens.modify record.1 revoke).rows.map (·.tokenHash) =
      tokenHashes db := Table.map_modify _ _ _ _ (fun _ => rfl)
  have refresh : (db.sessionTokens.modify record.1 revoke).rows.map (·.refreshTokenHash) =
      refreshTokenHashes db := Table.map_modify _ _ _ _ (fun _ => rfl)
  have flushed : SessionToken.flush record.2 { record.2 with isRevoked := true } = revoke :=
    funext (fun current => flush_revoke record.2 current live)
  simp only [refreshCommit, bind_ok, transactional_ok, pure_ok, updateSession, flushed,
    writeAuthAudit, modify_ok, insertSession_ok, tokenHashes, refreshTokenHashes] at access refresh ⊢
  constructor
  · rintro ⟨_, _, ⟨_, _, rfl, _, _, ⟨tokenFree, refreshFree, rfl⟩, rfl⟩, rfl, rfl⟩
    rw [access] at tokenFree
    rw [refresh] at refreshFree
    exact ⟨⟨tokenFree, refreshFree⟩, rfl, rfl⟩
  · rintro ⟨⟨tokenFree, refreshFree⟩, rfl, rfl⟩
    rw [← access] at tokenFree
    rw [← refresh] at refreshFree
    exact ⟨(), _, ⟨(), _, rfl, (), _, ⟨tokenFree, refreshFree, rfl⟩, rfl⟩, rfl, rfl⟩

theorem commit_writes (plan : Plan) (foundLive : plan.FoundLive) (db db' : AuthDb) (reply : Reply)
    (committed : commit settings plan db = .ok reply db') : Writes settings db plan db' := by
  cases plan with
  | login env payload user =>
      by_cases wrong : settings.verifyPassword payload.password user.2.passwordHash = false
      · rw [commit_wrong env payload user db wrong] at committed
        obtain ⟨_, rfl⟩ := EStateM.Result.ok.inj committed
        exact .guessed env payload user wrong
      · rw [commit, if_neg wrong, map_ok] at committed
        obtain ⟨_, committed, _⟩ := committed
        obtain ⟨⟨_, refreshFree⟩, _, rfl⟩ :=
          (loginSucceededCommit_ok settings env user db db' _).mp committed
        exact .loggedIn env payload user wrong refreshFree
  | refreshToken env value record =>
      rw [commit, map_ok] at committed
      obtain ⟨response, committed, _⟩ := committed
      obtain ⟨⟨_, refreshFree⟩, _, rfl⟩ :=
        (refreshCommit_ok settings env record db db' foundLive response).mp committed
      exact .refreshed env value record refreshFree
  | logout user value =>
      rw [commit, map_ok] at committed
      obtain ⟨_, committed, _⟩ := committed
      rw [logout_eq] at committed
      obtain ⟨_, rfl⟩ := EStateM.Result.ok.inj committed
      exact .loggedOut user value

theorem allOrNothing_commit (plan : Plan) : AllOrNothing (commit settings plan) := by
  cases plan with
  | login env payload user =>
      rw [commit]
      split
      · exact allOrNothing_map _ _ (allOrNothing_transactional _)
      · exact allOrNothing_map _ _ (allOrNothing_answer _ _ (allOrNothing_transactional _))
  | refreshToken env value record =>
      exact allOrNothing_map _ _ (allOrNothing_answer _ _ (allOrNothing_transactional _))
  | logout user value => exact allOrNothing_map _ _ (allOrNothing_transactional _)

theorem after_serve (request : Request) (db : AuthDb) :
    after ((backend settings).serve request) db =
      match read settings request db with
      | .ok (.inr plan) => after (commit settings plan) db
      | .ok (.inl _) => db
      | .error _ => db := by
  have reads : (backend settings).read = read settings := rfl
  have commits : (backend settings).commit = commit settings := rfl
  cases outcome : read settings request db with
  | error raised =>
      simp [Protocol.serve, after, run_bind, reads, outcome]
  | ok answer =>
      cases answer with
      | inl reply =>
          simp [Protocol.serve, after, run_bind, reads, outcome]
      | inr plan =>
          simp [Protocol.serve, after, run_bind, reads, commits, outcome]

/-- A request whose two steps follow each other at one time leaves what its call leaves. -/
theorem serve_call (request : Request) (atOnce : request.AtOnce) (db : AuthDb) :
    after ((backend settings).serve request) db = request.call.tables settings db := by
  rw [after_serve]
  cases request with
  | login env committedAt payload =>
      obtain rfl : committedAt = env.now := atOnce
      have called := after_checked (loginChecks env payload) (loginCommit settings env payload) db
      refine Eq.trans ?_ called.symm
      cases outcome : loginChecks env payload db with
      | error raised => simp [read, outcome, Except.map]
      | ok user =>
          simp only [read, outcome, Except.map, commit, loginCommit]
          split
          · rw [after_map]
            rfl
          · rw [after_map]
  | refreshToken env committedAt value =>
      obtain rfl : committedAt = env.now := atOnce
      have called := after_checked (refreshChecks settings env value) (refreshCommit settings env) db
      refine Eq.trans ?_ called.symm
      cases outcome : refreshChecks settings env value db with
      | error raised => simp [read, outcome, Except.map]
      | ok record =>
          simp only [read, outcome, Except.map, commit]
          rw [after_map]
  | logout user value => exact after_map _ _ _

end RetailApp.Auth
