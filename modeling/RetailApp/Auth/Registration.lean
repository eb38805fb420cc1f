import RetailApp.Auth.Lockout

/-! Whether the credentials of a registration log in. Registration strips the username, login
looks it up as it was typed. -/

namespace RetailApp.Auth

open Transaction

section

variable (settings : AuthSettings)

def IssuesTokens (db db' : AuthDb) (userId : Nat) (response : TokenResponse) : Prop :=
  ∃ session, Fits settings session userId response ∧ session.isRevoked = false ∧
    db'.sessionTokens.rows = db.sessionTokens.rows ++ [session]

theorem insertUser_ok (row : UserRow) (db db' : AuthDb) (userId : Nat) :
    insertUser row db = .ok userId db' ↔
      db.users.rows.any (·.username == row.username) = false ∧ db.users.nextKey = userId ∧
        { db with users := db.users.insert row } = db' := by
  rw [← Bool.not_eq_true]
  exact guarded_ok (fun db : AuthDb => db.users.rows.any (·.username == row.username) = true) _
    (fun db => { db with users := db.users.insert row }) (·.users.nextKey) db db' userId

def registered (actorUserId : Option Nat) (user : NewUser) (db : AuthDb) : AuthDb where
  users := db.users.insert user.row
  sessionTokens := db.sessionTokens
  auditLogs := db.auditLogs.insert
    ⟨actorUserId, "user.create", "user", db.users.nextKey, .userCreate user.row.username⟩

theorem addUser_ok (actorUserId : Option Nat) (user : NewUser) (db db' : AuthDb)
    (created : Nat × NewUser) :
    addUser actorUserId user db = .ok created db' ↔
      db.users.rows.any (·.username == user.row.username) = false ∧
        created = (db.users.nextKey, user) ∧ db' = registered actorUserId user db := by
  simp only [addUser, transactional_ok, bind_ok, insertUser_ok, modify_ok, pure_ok]
  constructor
  · rintro ⟨_, _, ⟨free, rfl, rfl⟩, _, _, rfl, rfl, rfl⟩
    exact ⟨free, rfl, rfl⟩
  · rintro ⟨free, rfl, rfl⟩
    exact ⟨_, _, ⟨free, rfl, rfl⟩, (), _, rfl, rfl, rfl⟩

theorem createUser_ok (env : RegistrationEnv) (payload : UserCreateRequest)
    (actorUserId : Option Nat) (db db' : AuthDb) (created : Nat × NewUser)
    (returned : createUser env payload actorUserId db = .ok created db') :
    validatePasswordPolicy env payload.password.1 = .ok () ∧
      db.users.rows.any (·.username == strip payload.username.1) = false ∧
      created = (db.users.nextKey, newUser env payload) ∧
      db' = registered actorUserId (newUser env payload) db := by
  rw [createUser, bind_ok] at returned
  obtain ⟨_, _, checked, added⟩ := returned
  obtain ⟨passed, rfl⟩ := (attempt_ok _ _ _ _).mp checked
  cases outcome : addUser actorUserId (newUser env payload) db with
  | error raised written =>
      rw [addUserOrConflict, outcome] at added
      cases raised <;> cases added
  | ok value written =>
      rw [addUserOrConflict, outcome] at added
      obtain ⟨rfl, rfl⟩ := EStateM.Result.ok.inj added
      exact ⟨passed, (addUser_ok actorUserId _ db _ _).mp outcome⟩

theorem find?_insert_new (users : Table UserRow) (row : UserRow)
    (free : users.rows.any (·.username == row.username) = false) :
    (users.insert row).find? (·.username == row.username) = some (users.nextKey, row) := by
  have missing : users.find? (·.username == row.username) = none := by
    rw [Table.find?_none]
    intro key other present
    have member := (Table.mem_rows users other).mpr ⟨key, present⟩
    exact Bool.eq_false_iff.mpr (List.any_eq_false.mp free other member)
  rw [Table.find?] at missing
  rw [Table.find?, Table.entries_insert, List.find?_append, missing]
  simp

theorem login_opens (env : AuthEnv) (payload : LoginRequest) (db db' : AuthDb)
    (response : TokenResponse) (userId : Nat)
    (returned : login settings env payload db = .ok response db')
    (issues : IssuesTokens settings db db' userId response) :
    userNamed db.users payload.username = some userId := by
  obtain ⟨row, wrote⟩ := login_wrote settings env payload db db' response returned
  obtain ⟨session, fits, _, rows⟩ := issues
  have untouched : Event.revokes settings (.loggedIn payload.username response) = id := rfl
  have sessions := wrote.sessions
  rw [untouched, List.map_id, rows] at sessions
  obtain rfl := List.singleton_inj.mp (List.append_cancel_left sessions)
  cases wrote.opens with
  | login _ _ _ other named fits' _ =>
      rw [named, ← fits'.owner, fits.owner]

/-- Right after a registration its credentials log in, and to the new account, exactly when the
username has no space around it. -/
theorem registered_logs_in_iff (tools : RegistrationEnv) (payload : UserCreateRequest)
    (actorUserId : Option Nat) (db db' : AuthDb) (created : Nat × NewUser) (env : AuthEnv)
    (returned : createUser tools payload actorUserId db = .ok created db')
    (verifies : settings.verifyPassword payload.password.1
      (tools.hashPassword payload.password.1) = true)
    (fresh : settings.hashToken env.accessToken ∉ tokenHashes db ∧
      settings.hashToken env.refreshToken ∉ refreshTokenHashes db) :
    (∃ response db'', login settings env ⟨payload.username.1, payload.password.1⟩ db' =
        .ok response db'' ∧ IssuesTokens settings db' db'' created.1 response) ↔
      strip payload.username.1 = payload.username.1 := by
  obtain ⟨_, free, rfl, rfl⟩ :=
    createUser_ok tools payload actorUserId db db' created returned
  constructor
  · rintro ⟨response, db'', returned, issues⟩
    have named := login_opens settings env _ _ db'' response _ returned issues
    obtain ⟨entry, found, here⟩ := Option.map_eq_some_iff.mp named
    obtain ⟨present, same⟩ := Table.find?_some _ _ entry found
    have new : (db.users.insert (newUser tools payload).row).get? db.users.nextKey =
        some (newUser tools payload).row := Table.get?_insert_self _ _
    rw [here] at present
    have isRow : (newUser tools payload).row = entry.2 := Option.some.inj (new.symm.trans present)
    rw [← isRow] at same
    exact eq_of_beq same
  · intro plain
    have found := find?_insert_new db.users (newUser tools payload).row free
    have checks : loginChecks env ⟨payload.username.1, payload.password.1⟩
        (registered actorUserId (newUser tools payload) db) =
          .ok (db.users.nextKey, (newUser tools payload).row) := by
      refine (loginChecks_ok env _ _ _).mpr ⟨?_, by simp [newUser], by simp [newUser]⟩
      have isName : (newUser tools payload).row.username = payload.username.1 := plain
      rw [isName] at found
      exact found
    refine ⟨_, _, Lockout.login_right settings env _ _ _ checks ?_ fresh, ?_⟩
    · rw [newUser, verifies]
      decide
    · exact ⟨newSession settings env db.users.nextKey, newSession_fits settings env _, rfl, rfl⟩

end

def sampleTools : RegistrationEnv where
  hashPassword := fun password => "$argon2id$" ++ password
  encrypt := fun value => "gAAAAA" ++ value
  isDecimal := fun character => '0' ≤ character && character ≤ '9'

theorem bob_length : 3 ≤ "bob".length ∧ "bob".length ≤ 64 := by decide

theorem bob_spaced_length : 3 ≤ " bob ".length ∧ " bob ".length ≤ 64 := by decide

theorem bob_password_length : 8 ≤ "abc12345".length ∧ "abc12345".length ≤ 128 := by decide

def bob : UserCreateRequest :=
  ⟨⟨"bob", bob_length⟩, ⟨"abc12345", bob_password_length⟩, none, none⟩

def bobSpaced : UserCreateRequest :=
  ⟨⟨" bob ", bob_spaced_length⟩, ⟨"abc12345", bob_password_length⟩, none, none⟩

def bobLogin : AuthEnv := ⟨0, "4yTgNq0", "Zk81rWb"⟩

def register (payload : UserCreateRequest) : AuthService (Nat × NewUser) :=
  createUser sampleTools payload none

theorem registered_logs_in_iff_bob :
    ∃ created db', register bob (AuthDb.start Table.empty) = .ok created db' ∧
      ((∃ response db'', login sampleSettings bobLogin ⟨"bob", "abc12345"⟩ db' = .ok response db'' ∧
          IssuesTokens sampleSettings db' db'' created.1 response) ↔ strip "bob" = "bob") := by
  obtain ⟨created, returned⟩ := returns_of_isOk (register bob) (AuthDb.start Table.empty)
    (by decide +kernel)
  exact ⟨created, _, returned, registered_logs_in_iff sampleSettings sampleTools bob none
    (AuthDb.start Table.empty) _ created bobLogin returned (by decide +kernel) (by decide +kernel)⟩

/-- Registered with a space on either side, and refused with the very same strings. -/
theorem bob_spaced_refused :
    (reply (register bobSpaced) (AuthDb.start Table.empty)).isOk = true ∧
      reply (login sampleSettings bobLogin ⟨" bob ", "abc12345"⟩)
          (after (register bobSpaced) (AuthDb.start Table.empty)) =
        .error (.authentication "Invalid credentials") ∧
      sampleSettings.verifyPassword "abc12345" (sampleTools.hashPassword "abc12345") = true := by
  decide +kernel

end RetailApp.Auth
