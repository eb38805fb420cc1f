import RetailApp.Auth.Sessions

/-! Who a token lets in, after any run. Neither the order of the clock nor fresh draws are
asked for: where a hash is in the table already the insert raises, and nothing is issued. -/

namespace RetailApp.Auth

open Transaction

variable (settings : AuthSettings) (users : Table UserRow)

/-- `getCurrentUser` lets in the user a bearer token was issued to, as long as it is live and
not expired, and nobody else. -/
def AcceptsExactly (state : State) : Prop :=
  ∀ now given userId,
    (∃ user, reply (getCurrentUser settings now (some given)) state.db = .ok user ∧
      user.id = userId) ↔
    given.scheme.toLower = "bearer" ∧
      Accepted users state.log now given.credentials userId

/-- A token whose session is revoked lets nobody in, whatever else happens. -/
def RevokedForGood (state : State) : Prop :=
  ∀ record ∈ state.db.sessionTokens.rows, ∀ given, record.isRevoked = true →
    record.tokenHash = settings.hashToken given.credentials → ∀ calls now,
      (reply (getCurrentUser settings now (some given)) (run settings state calls).db).isOk = false

/-- Once a user has logged out naming no refresh token, every refresh token issued to them
before is refused, whatever else happens. -/
def LoggedOutForGood (state : State) : Prop :=
  ∀ user named response, named = none ∨ named = some "" →
    Issued users state.log user.id response → ∀ calls env,
      reply (refreshToken settings env response.refreshToken)
          (run settings (step settings state (.logout user named)) calls).db =
        .error (.authentication "Invalid refresh token")

theorem currentUserChecks_ok (now : Time) (given : HTTPAuthorizationCredentials) (db : AuthDb)
    (user : User) :
    currentUserChecks settings now (some given) db = .ok user ↔
      given.scheme.toLower = "bearer" ∧ ∃ record row,
        db.sessionTokens.find? (·.tokenHash == settings.hashToken given.credentials) =
          some record ∧
        record.2.isRevoked = false ∧ now ≤ record.2.expiresAt ∧
          db.users.get? record.2.userId = some row ∧ row.isActive = true ∧
            row.isDeleted = false ∧ ⟨record.2.userId, row.isSuperuser, row.roles⟩ = user := by
  have bearer : (some given).filter (fun given => given.scheme.toLower == "bearer") =
      if given.scheme.toLower = "bearer" then some given else none := by
    simp [Option.filter]
  simp only [currentUserChecks, bearer, bind_except_ok, orRaise_ok, raiseIf_ok, pure_except_ok,
    isExpired, decide_eq_true_eq, not_or, not_lt, Bool.not_eq_true, Bool.not_eq_false]
  constructor
  · rintro ⟨_, shown, record, found, _, ⟨unrevoked, fresh⟩, row, present, _, ⟨active, kept⟩, same⟩
    split at shown
    · cases shown
      exact ⟨‹_›, record, row, found, unrevoked, fresh, present, active, kept, same⟩
    · cases shown
  · rintro ⟨shown, record, row, found, unrevoked, fresh, present, active, kept, same⟩
    exact ⟨given, if_pos shown, record, found, (), ⟨unrevoked, fresh⟩, row, present, (),
      ⟨active, kept⟩, same⟩

theorem getCurrentUser_reply (now : Time) (credentials : Option HTTPAuthorizationCredentials)
    (db : AuthDb) :
    reply (getCurrentUser settings now credentials) db =
      currentUserChecks settings now credentials db :=
  reply_attempt (currentUserChecks settings now credentials) db

theorem account_active (state : State) (accounts : SameAccounts users state.db.users)
    (active : ∀ key row, users.get? key = some row → row.isActive = true ∧ row.isDeleted = false)
    (userId : Nat) (present : (users.get? userId).isSome = true) :
    ∃ row, state.db.users.get? userId = some row ∧ row.isActive = true ∧
      row.isDeleted = false := by
  obtain ⟨before, found⟩ := Option.isSome_iff_exists.mp present
  have same := accounts.standing userId
  rw [found, Option.map_some] at same
  obtain ⟨row, there, equal⟩ := Option.map_eq_some_iff.mp same
  obtain ⟨alive, kept⟩ := active userId before found
  obtain ⟨rowActive, rowDeleted⟩ := Prod.mk.inj equal
  exact ⟨row, there, rowActive.trans alive, rowDeleted.trans kept⟩

theorem found_row (sessionTokens : Table SessionToken) (column : SessionToken → String)
    (distinct : (sessionTokens.rows.map column).Nodup) (hash : String) (row : SessionToken)
    (member : row ∈ sessionTokens.rows) (same : column row = hash) :
    ∃ key, sessionTokens.find? (fun row => column row == hash) = some (key, row) := by
  obtain ⟨key, present⟩ := (Table.mem_rows sessionTokens row).mp member
  exact ⟨key, Table.find?_unique sessionTokens _ column hash
    (fun _ selected => beq_iff_eq.mp selected) distinct key row present (beq_iff_eq.mpr same)⟩

theorem accepts_exactly (injective : Function.Injective settings.hashToken)
    (active : ∀ key row, users.get? key = some row → row.isActive = true ∧ row.isDeleted = false)
    (state : State) (tracks : Tracks settings users state) :
    AcceptsExactly settings users state := by
  have linked := tracks.linked
  intro now given userId
  simp only [getCurrentUser_reply, currentUserChecks_ok]
  constructor
  · rintro ⟨_, ⟨shown, record, row, found, unrevoked, fresh, _, _, _, rfl⟩, rfl⟩
    obtain ⟨present, hash⟩ := Table.find?_some _ _ record found
    have member := (Table.mem_rows _ record.2).mpr ⟨record.1, present⟩
    obtain ⟨response, fits⟩ := linked.fits record.2 member
    refine ⟨shown, response, ?_, injective (fits.access.symm.trans (beq_iff_eq.mp hash)), ?_⟩
    · exact (linked.live record.2.userId response).mpr ⟨record.2, member, fits, unrevoked⟩
    · rwa [← fits.expires]
  · rintro ⟨shown, response, live, access, fresh⟩
    obtain ⟨record, member, fits, unrevoked⟩ := (linked.live userId response).mp live
    obtain ⟨key, found⟩ := found_row state.db.sessionTokens (·.tokenHash) linked.tokens
      (settings.hashToken given.credentials) record member (access ▸ fits.access)
    obtain ⟨row, there, alive, kept⟩ := account_active users state tracks.accounts active
      record.userId (linked.owned record member)
    refine ⟨_, ⟨shown, (key, record), row, found, unrevoked, ?_, there, alive, kept, rfl⟩,
      fits.owner⟩
    rwa [fits.expires]

/-- A session is spent once it is revoked; its row stays. -/
def Spent (column : SessionToken → String) (hash : String) (state : State) : Prop :=
  ∃ row ∈ state.db.sessionTokens.rows, column row = hash ∧ row.isRevoked = true

theorem spent_step (column : SessionToken → String)
    (kept : ∀ event row, column (Event.revokes settings event row) = column row) (hash : String)
    (state : State) (call : Call) (tracks : Tracks settings users state)
    (spent : Spent column hash state) : Spent column hash (step settings state call) := by
  obtain ⟨row, member, same, revoked⟩ := spent
  rcases step_cases settings state call tracks.linked.refreshTokens with
    ⟨refused, _⟩ | ⟨event, fresh, wrote, _⟩
  · refine ⟨row, ?_, same, revoked⟩
    rwa [refused.sessions]
  · refine ⟨event.revokes settings row, ?_, (kept event row).trans same, ?_⟩
    · rw [wrote.sessions]
      exact List.mem_append_left _ (List.mem_map_of_mem member)
    · rw [revokes_isRevoked, revoked, Bool.true_or]

theorem spent_run (injective : Function.Injective settings.hashToken)
    (column : SessionToken → String)
    (kept : ∀ event row, column (Event.revokes settings event row) = column row) (hash : String)
    (state : State) (calls : List Call) (tracks : Tracks settings users state)
    (spent : Spent column hash state) : Spent column hash (run settings state calls) :=
  (Runs.run_preserves (step settings)
    (fun state => Tracks settings users state ∧ Spent column hash state)
    (fun state call both => ⟨tracks_step settings users injective state call both.1,
      spent_step settings users column kept hash state call both.1 both.2⟩)
    state calls ⟨tracks, spent⟩).2

theorem revoked_for_good (injective : Function.Injective settings.hashToken) (state : State)
    (tracks : Tracks settings users state) : RevokedForGood settings state := by
  intro record member given revoked hash calls now
  have later := (tracks_run settings users injective state calls tracks).linked
  obtain ⟨row, there, same, dead⟩ := spent_run settings users injective (·.tokenHash)
    (revokes_tokenHash settings) (settings.hashToken given.credentials) state calls tracks
    ⟨record, member, hash, revoked⟩
  obtain ⟨key, found⟩ := found_row _ (·.tokenHash) later.tokens _ row there same
  rw [getCurrentUser_reply]
  cases outcome : currentUserChecks settings now (some given) (run settings state calls).db with
  | error raised => rfl
  | ok user =>
      obtain ⟨_, hit, _, found', unrevoked, _⟩ :=
        (currentUserChecks_ok settings now given _ user).mp outcome
      obtain rfl := Option.some.inj (found.symm.trans found')
      exact absurd (dead.symm.trans unrevoked) Bool.true_eq_false.mp

theorem refreshToken_spent (env : AuthEnv) (value : String) (state : State)
    (distinct : (state.db.sessionTokens.rows.map (·.refreshTokenHash)).Nodup)
    (spent : Spent (·.refreshTokenHash) (settings.hashToken value) state) :
    reply (refreshToken settings env value) state.db =
      .error (.authentication "Invalid refresh token") := by
  obtain ⟨row, member, same, revoked⟩ := spent
  obtain ⟨key, found⟩ := found_row _ (·.refreshTokenHash) distinct _ row member same
  have refused : refreshChecks settings env value state.db =
      .error (.authentication "Invalid refresh token") := by
    simp [refreshChecks, found, orRaise, raiseIf, revoked, bind, Except.bind]
  have raised := (checked_error (refreshChecks settings env value) (refreshCommit settings env)
    state.db state.db _).mpr (Or.inl ⟨refused, rfl⟩)
  have outcome : refreshToken settings env value state.db = _ := raised
  rw [reply, outcome]

theorem logged_out_for_good (injective : Function.Injective settings.hashToken) (state : State)
    (tracks : Tracks settings users state) : LoggedOutForGood settings users state := by
  intro user named response nothing issued calls env
  obtain ⟨row, member, fits⟩ := (tracks.linked.issued user.id response).mp issued
  have ends : (Event.loggedOut user.id named).Ends user.id response.refreshToken :=
    ⟨rfl, nothing.imp_right Or.inl⟩
  have hit := (hits_iff_ends settings injective _ row user.id response fits).mpr ends
  have wrote := logout_wrote settings user named state.db tracks.linked.refreshTokens
  have spent : Spent (·.refreshTokenHash) (settings.hashToken response.refreshToken)
      (step settings state (.logout user named)) := by
    refine ⟨Event.revokes settings (.loggedOut user.id named) row, ?_, ?_, ?_⟩
    · rw [step, Call.tables, wrote.sessions]
      exact List.mem_append_left _ (List.mem_map_of_mem member)
    · exact (revokes_refreshTokenHash settings _ row).trans fits.refresh
    · rw [revokes_isRevoked, hit, Bool.or_true]
  have loggedOut := tracks_step settings users injective state (.logout user named) tracks
  have later := tracks_run settings users injective _ calls loggedOut
  exact refreshToken_spent settings env response.refreshToken _ later.linked.refreshTokens
    (spent_run settings users injective (·.refreshTokenHash) (revokes_refreshTokenHash settings)
      _ _ calls loggedOut spent)

theorem tokens_good_while_live (injective : Function.Injective settings.hashToken)
    (active : ∀ key row, users.get? key = some row → row.isActive = true ∧ row.isDeleted = false)
    (calls : List Call) :
    AcceptsExactly settings users (run settings (State.start users) calls) ∧
      RevokedForGood settings (run settings (State.start users) calls) ∧
        LoggedOutForGood settings users (run settings (State.start users) calls) := by
  have tracks := tracks_run settings users injective (State.start users) calls
    (tracks_start settings users)
  exact ⟨accepts_exactly settings users injective active _ tracks,
    revoked_for_good settings users injective _ tracks,
    logged_out_for_good settings users injective _ tracks⟩

def ownerRow : UserRow where
  username := "owner"
  passwordHash := "$argon2id$owner-pass-1"
  failedLoginAttempts := 0
  lockedUntil := none
  lastLoginAt := none
  isSuperuser := false
  isActive := true
  isDeleted := false
  roles := []

def accessSha : String := "73a91e45210ade4ca5754612768aa23a199258f79e925b83c05ff98c4bc71dfd"

def refreshSha : String := "615ead027f60e8b97c952ad1c73d7b7f156046944e8d2f5246126821a92ee926"

/-- SHA-256 on the two tokens of the run below. -/
def sampleHash (value : String) : String :=
  if value = "4yTgNq0" then accessSha else if value = "Zk81rWb" then refreshSha else "#" ++ value

theorem sampleHash_injective : Function.Injective sampleHash := by
  have marked (hash : String) (hex : hash.toList.head? ≠ some '#') (value : String) :
      "#" ++ value ≠ hash := by
    rintro rfl
    simp at hex
  have apart : accessSha ≠ refreshSha := by decide
  have access := marked accessSha (by decide)
  have refresh := marked refreshSha (by decide)
  have access' := fun value => (access value).symm
  have refresh' := fun value => (refresh value).symm
  intro first second same
  unfold sampleHash at same
  split_ifs at same <;> simp_all

def sampleSettings : AuthSettings where
  hashToken := sampleHash
  verifyPassword := fun password passwordHash => passwordHash == "$argon2id$" ++ password
  accessTokenMinutes := 30
  refreshTokenMinutes := 60 * 24 * 7

def ownerCalls : List Call :=
  [.login ⟨0, "4yTgNq0", "Zk81rWb"⟩ ⟨"owner", "owner-pass-1"⟩, .logout ⟨1, false, []⟩ (some "")]

theorem owner_tokens :
    (run sampleSettings (State.start ⟨[ownerRow]⟩) ownerCalls).log.length = 2 ∧
      AcceptsExactly sampleSettings ⟨[ownerRow]⟩
        (run sampleSettings (State.start ⟨[ownerRow]⟩) ownerCalls) := by
  have active : ∀ key row, (Table.mk [ownerRow]).get? key = some row →
      row.isActive = true ∧ row.isDeleted = false := by
    intro key row found
    have member := (Table.mem_rows _ row).mpr ⟨key, found⟩
    obtain rfl := List.mem_singleton.mp member
    exact ⟨rfl, rfl⟩
  exact ⟨by decide,
    (tokens_good_while_live sampleSettings ⟨[ownerRow]⟩ sampleHash_injective active ownerCalls).1⟩

end RetailApp.Auth
