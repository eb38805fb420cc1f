import RetailApp.Schemas
import RetailApp.Session

namespace RetailApp

open Transaction

structure AuthDb where
  users : Table UserRow
  sessionTokens : Table SessionToken
  auditLogs : Table ImmutableAuditLog
  deriving DecidableEq

def AuthDb.start (users : Table UserRow) : AuthDb := ⟨users, Table.empty, Table.empty⟩

/-- SHA-256 and passlib as the services use them, and the settings that set the expiry times. -/
structure AuthSettings where
  hashToken : String → String
  verifyPassword : String → String → Bool
  accessTokenMinutes : Int
  refreshTokenMinutes : Int

/-- What one call takes from outside the tables: the clock and two draws of `token_urlsafe`. -/
structure AuthEnv where
  now : Time
  accessToken : String
  refreshToken : String

abbrev AuthService (α : Type) := Session AuthDb Raised α

def maxFailedLoginAttempts : Nat := 5

def lockMinutes : Int := 15

def UserRow.flush (loaded assigned current : UserRow) : UserRow where
  username := changed loaded.username assigned.username current.username
  passwordHash := changed loaded.passwordHash assigned.passwordHash current.passwordHash
  failedLoginAttempts :=
    changed loaded.failedLoginAttempts assigned.failedLoginAttempts current.failedLoginAttempts
  lockedUntil := changed loaded.lockedUntil assigned.lockedUntil current.lockedUntil
  lastLoginAt := changed loaded.lastLoginAt assigned.lastLoginAt current.lastLoginAt
  isSuperuser := changed loaded.isSuperuser assigned.isSuperuser current.isSuperuser
  isActive := changed loaded.isActive assigned.isActive current.isActive
  isDeleted := changed loaded.isDeleted assigned.isDeleted current.isDeleted
  roles := changed loaded.roles assigned.roles current.roles

@[simp] theorem UserRow.flush_loaded (loaded assigned : UserRow) :
    UserRow.flush loaded assigned loaded = assigned := by
  simp [UserRow.flush]

def SessionToken.flush (loaded assigned current : SessionToken) : SessionToken where
  userId := changed loaded.userId assigned.userId current.userId
  tokenHash := changed loaded.tokenHash assigned.tokenHash current.tokenHash
  refreshTokenHash :=
    changed loaded.refreshTokenHash assigned.refreshTokenHash current.refreshTokenHash
  expiresAt := changed loaded.expiresAt assigned.expiresAt current.expiresAt
  refreshExpiresAt :=
    changed loaded.refreshExpiresAt assigned.refreshExpiresAt current.refreshExpiresAt
  isRevoked := changed loaded.isRevoked assigned.isRevoked current.isRevoked

def updateUser (loaded : Nat × UserRow) (assigned : UserRow) : AuthService Unit :=
  modify fun db =>
    { db with users := db.users.modify loaded.1 (UserRow.flush loaded.2 assigned) }

def updateSession (loaded : Nat × SessionToken) (assigned : SessionToken) : AuthService Unit :=
  modify fun db =>
    { db with
      sessionTokens := db.sessionTokens.modify loaded.1 (SessionToken.flush loaded.2 assigned) }

def tokenHashTaken (db : AuthDb) (tokenHash : String) : Bool :=
  db.sessionTokens.rows.any (·.tokenHash == tokenHash)

def refreshTokenHashTaken (db : AuthDb) (refreshTokenHash : String) : Bool :=
  db.sessionTokens.rows.any (·.refreshTokenHash == refreshTokenHash)

def insertSession (row : SessionToken) : AuthService Unit := do
  let db ← get
  attempt (raiseIf (tokenHashTaken db row.tokenHash = true)
    (.integrityError "ix_session_tokens_token_hash"))
  attempt (raiseIf (refreshTokenHashTaken db row.refreshTokenHash = true)
    (.integrityError "ix_session_tokens_refresh_token_hash"))
  set { db with sessionTokens := db.sessionTokens.insert row }

def writeAuthAudit (actorUserId : Nat) (action entityType : String) (entityId : Nat)
    (details : AuditDetails) : AuthService Unit :=
  modify fun db =>
    { db with
      auditLogs := db.auditLogs.insert ⟨some actorUserId, action, entityType, entityId, details⟩ }

/-- What a registration takes from outside: argon2 as it hashes during this call, Fernet as it
encrypts, and which characters Unicode counts as decimal digits. -/
structure RegistrationEnv where
  hashPassword : String → String
  encrypt : String → String
  isDecimal : Char → Bool

def passwordMinLength : Nat := 8

def isLetter (character : Char) : Bool :=
  ('A' ≤ character && character ≤ 'Z') || ('a' ≤ character && character ≤ 'z')

def validatePasswordPolicy (env : RegistrationEnv) (password : String) : Except Raised Unit := do
  raiseIf (password.length < passwordMinLength)
    (.validation "Password must be at least 8 characters long")
  let hasLetter := password.toList.any isLetter
  let hasNumber := password.toList.any env.isDecimal
  raiseIf ((hasLetter && hasNumber) = false)
    (.validation "Password must include both letters and numbers")

/-- A new account: its row, and the two encrypted columns that no statement here reads. -/
structure NewUser where
  row : UserRow
  idNumberEncrypted : Option String
  contactInfoEncrypted : Option String

def newUser (env : RegistrationEnv) (payload : UserCreateRequest) : NewUser where
  row :=
    { username := strip payload.username.1
      passwordHash := env.hashPassword payload.password.1
      failedLoginAttempts := 0
      lockedUntil := none
      lastLoginAt := none
      isSuperuser := false
      isActive := true
      isDeleted := false
      roles := [] }
  idNumberEncrypted := payload.idNumber.map env.encrypt
  contactInfoEncrypted := payload.contactInfo.map env.encrypt

def insertUser (row : UserRow) : AuthService Nat := do
  let db ← get
  attempt (raiseIf (db.users.rows.any (·.username == row.username) = true)
    (.integrityError "ix_users_username"))
  set { db with users := db.users.insert row }
  return db.users.nextKey

def addUser (actorUserId : Option Nat) (user : NewUser) : AuthService (Nat × NewUser) :=
  transactional do
    let userId ← insertUser user.row
    modify fun db =>
      { db with
        auditLogs := db.auditLogs.insert
          ⟨actorUserId, "user.create", "user", userId, .userCreate user.row.username⟩ }
    return (userId, user)

def addUserOrConflict (actorUserId : Option Nat) (user : NewUser) : AuthService (Nat × NewUser) :=
  fun db =>
    match addUser actorUserId user db with
    | .error (.integrityError _) written => .error (.conflict "Username already exists") written
    | outcome => outcome

def createUser (env : RegistrationEnv) (payload : UserCreateRequest) (actorUserId : Option Nat) :
    AuthService (Nat × NewUser) := do
  attempt (validatePasswordPolicy env payload.password.1)
  addUserOrConflict actorUserId (newUser env payload)

def loadUserForAuth (db : AuthDb) (username : String) : Option (Nat × UserRow) :=
  db.users.find? (·.username == username)

def loginChecks (env : AuthEnv) (payload : LoginRequest) (db : AuthDb) :
    Except Raised (Nat × UserRow) := do
  let user ← orRaise (loadUserForAuth db payload.username) (.authentication "Invalid credentials")
  raiseIf (user.2.isDeleted = true ∨ user.2.isActive = false)
    (.authentication "Invalid credentials")
  raiseIf (user.2.lockedUntil.any (fun lockedUntil => env.now < lockedUntil) = true)
    (.security "Account temporarily locked due to failed attempts")
  return user

def lockUserIfNeeded (now : Time) (user : UserRow) : UserRow :=
  if maxFailedLoginAttempts ≤ user.failedLoginAttempts then
    { user with lockedUntil := some (now + timedeltaMinutes lockMinutes) }
  else user

def failedLogin (now : Time) (user : UserRow) : UserRow :=
  lockUserIfNeeded now { user with failedLoginAttempts := user.failedLoginAttempts + 1 }

def loginFailedCommit (env : AuthEnv) (user : Nat × UserRow) : AuthService Unit :=
  transactional do
    updateUser user (failedLogin env.now user.2)
    writeAuthAudit user.1 "auth.login.failed" "user" user.1
      (.authLoginFailed (failedLogin env.now user.2).failedLoginAttempts)

def newSession (settings : AuthSettings) (env : AuthEnv) (userId : Nat) : SessionToken where
  userId := userId
  tokenHash := settings.hashToken env.accessToken
  refreshTokenHash := settings.hashToken env.refreshToken
  expiresAt := env.now + timedeltaMinutes settings.accessTokenMinutes
  refreshExpiresAt := env.now + timedeltaMinutes settings.refreshTokenMinutes
  isRevoked := false

def tokenResponse (settings : AuthSettings) (env : AuthEnv) : TokenResponse where
  accessToken := env.accessToken
  refreshToken := env.refreshToken
  expiresAt := env.now + timedeltaMinutes settings.accessTokenMinutes

def loggedIn (now : Time) (user : UserRow) : UserRow :=
  { user with failedLoginAttempts := 0, lockedUntil := none, lastLoginAt := some now }

def loginSucceededCommit (settings : AuthSettings) (env : AuthEnv) (user : Nat × UserRow) :
    AuthService TokenResponse := do
  transactional do
    updateUser user (loggedIn env.now user.2)
    insertSession (newSession settings env user.1)
    writeAuthAudit user.1 "auth.login.success" "user" user.1 .noDetails
  return tokenResponse settings env

/-- The password is compared with the row the checks loaded. -/
def loginCommit (settings : AuthSettings) (env : AuthEnv) (payload : LoginRequest)
    (user : Nat × UserRow) : AuthService TokenResponse :=
  if settings.verifyPassword payload.password user.2.passwordHash = false then do
    loginFailedCommit env user
    attempt (.error (.authentication "Invalid credentials"))
  else
    loginSucceededCommit settings env user

def login (settings : AuthSettings) (env : AuthEnv) (payload : LoginRequest) :
    AuthService TokenResponse := do
  let db ← get
  let user ← attempt (loginChecks env payload db)
  loginCommit settings env payload user

def refreshChecks (settings : AuthSettings) (env : AuthEnv) (refreshTokenValue : String)
    (db : AuthDb) : Except Raised (Nat × SessionToken) := do
  let record ← orRaise
    (db.sessionTokens.find? (·.refreshTokenHash == settings.hashToken refreshTokenValue))
    (.authentication "Invalid refresh token")
  raiseIf (record.2.isRevoked = true ∨ record.2.refreshExpiresAt ≤ env.now)
    (.authentication "Invalid refresh token")
  return record

def refreshCommit (settings : AuthSettings) (env : AuthEnv) (record : Nat × SessionToken) :
    AuthService TokenResponse := do
  transactional do
    updateSession record { record.2 with isRevoked := true }
    insertSession (newSession settings env record.2.userId)
    writeAuthAudit record.2.userId "auth.token.refresh" "session" record.1 .noDetails
  return tokenResponse settings env

def refreshToken (settings : AuthSettings) (env : AuthEnv) (refreshTokenValue : String) :
    AuthService TokenResponse := do
  let db ← get
  let record ← attempt (refreshChecks settings env refreshTokenValue db)
  refreshCommit settings env record

/-- A string that Python's `if` takes for one: an empty one is none. -/
def truthy (value : Option String) : Option String := value.filter (· ≠ "")

/-- The unrevoked sessions a logout revokes: the one of the refresh token it names, or all of
the user's when it names none. -/
def sessionsToRevoke (settings : AuthSettings) (db : AuthDb) (userId : Nat)
    (refreshTokenValue : Option String) : List (Nat × SessionToken) :=
  match truthy refreshTokenValue with
  | some value =>
      (db.sessionTokens.find? (fun row => row.userId == userId &&
        row.refreshTokenHash == settings.hashToken value && !row.isRevoked)).toList
  | none =>
      db.sessionTokens.entries.filter (fun entry => entry.2.userId == userId && !entry.2.isRevoked)

def logout (settings : AuthSettings) (user : User) (refreshTokenValue : Option String) :
    AuthService Unit :=
  transactional do
    let db ← get
    (sessionsToRevoke settings db user.id refreshTokenValue).forM
      (fun record => updateSession record { record.2 with isRevoked := true })
    writeAuthAudit user.id "auth.logout" "user" user.id .noDetails

structure HTTPAuthorizationCredentials where
  scheme : String
  credentials : String

def isExpired (now time : Time) : Bool := time < now

def currentUserChecks (settings : AuthSettings) (now : Time)
    (credentials : Option HTTPAuthorizationCredentials) (db : AuthDb) : Except Raised User := do
  let given ← orRaise (credentials.filter (fun given => given.scheme.toLower == "bearer"))
    (.authentication "Authentication required")
  let record ← orRaise
    (db.sessionTokens.find? (·.tokenHash == settings.hashToken given.credentials))
    (.authentication "Invalid or expired token")
  raiseIf (record.2.isRevoked = true ∨ isExpired now record.2.expiresAt = true)
    (.authentication "Invalid or expired token")
  let user ← orRaise (db.users.get? record.2.userId)
    (.authentication "User account not available")
  raiseIf (user.isActive = false ∨ user.isDeleted = true)
    (.authentication "User account not available")
  return ⟨record.2.userId, user.isSuperuser, user.roles⟩

def getCurrentUser (settings : AuthSettings) (now : Time)
    (credentials : Option HTTPAuthorizationCredentials) : AuthService User := do
  attempt (currentUserChecks settings now credentials (← get))

/-- The row the request's user was loaded with is the one compared and assigned to. -/
def changePassword (settings : AuthSettings) (env : RegistrationEnv) (user : Nat × UserRow)
    (payload : ChangePasswordRequest) : AuthService Unit := do
  attempt (validatePasswordPolicy env payload.newPassword.1)
  attempt (raiseIf (settings.verifyPassword payload.oldPassword user.2.passwordHash = false)
    (.authentication "Old password is incorrect"))
  transactional do
    updateUser user { user.2 with passwordHash := env.hashPassword payload.newPassword.1 }
    writeAuthAudit user.1 "auth.password.change" "user" user.1 .noDetails

end RetailApp
