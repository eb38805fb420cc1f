import RetailApp.Auth.Acceptance
import RetailApp.Auth.FailedLogins
import RetailApp.Library.Window

/-! Login attempts on one account, one after another. The counter is not reset when a lock
expires, so from the fifth failure in a row on every further one renews the lock. -/

namespace RetailApp.Auth.Lockout

open Transaction

structure Attempt where
  env : AuthEnv
  password : String

/-- An attempt is evaluated when its password is compared; it succeeds when it returns. -/
structure Outcome where
  time : Time
  evaluated : Bool
  succeeded : Bool
  deriving DecidableEq

structure State where
  db : AuthDb
  log : List Outcome

section Runs

variable (settings : AuthSettings) (username : String)

def Attempt.payload (attempt : Attempt) : LoginRequest := ⟨username, attempt.password⟩

def Attempt.outcome (attempt : Attempt) (db : AuthDb) : Outcome where
  time := attempt.env.now
  evaluated := (loginChecks attempt.env (attempt.payload username) db).isOk
  succeeded := (reply (login settings attempt.env (attempt.payload username)) db).isOk

def step (state : State) (attempt : Attempt) : State where
  db := after (login settings attempt.env (attempt.payload username)) state.db
  log := state.log ++ [attempt.outcome settings username state.db]

def run (state : State) (attempts : List Attempt) : State :=
  Runs.run (step settings username) state attempts

def evaluations (state : State) : List Outcome := state.log.filter (·.evaluated)

def Outcome.failed (outcome : Outcome) : Bool := !outcome.succeeded

/-- The tokens an attempt draws are not those of any session. -/
def Fresh (state : State) (attempt : Attempt) : Prop :=
  settings.hashToken attempt.env.accessToken ∉ tokenHashes state.db ∧
    settings.hashToken attempt.env.refreshToken ∉ refreshTokenHashes state.db

def lockWidth : Time := timedeltaMinutes lockMinutes

def WindowsBounded (state : State) : Prop :=
  ∀ start, (∀ outcome ∈ Window.within Outcome.time lockWidth start state.log,
      outcome.succeeded = false) →
    (Window.within Outcome.time lockWidth start (evaluations state)).length ≤
      maxFailedLoginAttempts

/-- After five or more evaluated attempts that all failed, nothing succeeds for 15 minutes. -/
def LockedOut (state : State) : Prop :=
  ∀ early recent latest, evaluations state = early ++ recent →
    maxFailedLoginAttempts ≤ recent.length → (∀ outcome ∈ recent, outcome.succeeded = false) →
    recent.getLast? = some latest → ∀ attempt : Attempt,
      attempt.env.now < latest.time + lockWidth →
      (attempt.outcome settings username state.db).succeeded = false

/-- The failures in a row that the counter and the lock stand for. -/
structure Tracks (userId : Nat) (state : State) (row : UserRow) : Prop where
  named : loadUserForAuth state.db username = some (userId, row)
  counter : row.failedLoginAttempts = Window.trailing Outcome.failed (evaluations state)
  lock : row.lockedUntil =
    if maxFailedLoginAttempts ≤ row.failedLoginAttempts then
      (evaluations state).getLast?.map (fun latest => latest.time + lockWidth)
    else none
  spaced : Window.Spaced Outcome.time Outcome.failed maxFailedLoginAttempts lockWidth
    (evaluations state)

theorem login_refused (env : AuthEnv) (payload : LoginRequest) (db : AuthDb) (raised : Raised)
    (refused : loginChecks env payload db = .error raised) :
    login settings env payload db = .error raised db :=
  (checked_error (loginChecks env payload) (loginCommit settings env payload) db db raised).mpr
    (.inl ⟨refused, rfl⟩)

theorem login_wrong (env : AuthEnv) (payload : LoginRequest) (db : AuthDb) (user : Nat × UserRow)
    (checked : loginChecks env payload db = .ok user)
    (wrong : settings.verifyPassword payload.password user.2.passwordHash = false) :
    login settings env payload db =
      .error (.authentication "Invalid credentials") (guessed env user db) := by
  refine (checked_error (loginChecks env payload) (loginCommit settings env payload) db _ _).mpr
    (.inr ⟨user, checked, ?_⟩)
  rw [loginCommit, if_pos wrong, bind_error]
  exact .inr ⟨(), _, loginFailedCommit_eq env user db, rfl⟩

theorem login_right (env : AuthEnv) (payload : LoginRequest) (db : AuthDb) (user : Nat × UserRow)
    (checked : loginChecks env payload db = .ok user)
    (right : settings.verifyPassword payload.password user.2.passwordHash ≠ false)
    (free : settings.hashToken env.accessToken ∉ tokenHashes db ∧
      settings.hashToken env.refreshToken ∉ refreshTokenHashes db) :
    login settings env payload db =
      .ok (tokenResponse settings env) (issued settings env user db) := by
  refine (checked_ok (loginChecks env payload) (loginCommit settings env payload) db _ _).mpr
    ⟨user, checked, ?_⟩
  rw [loginCommit, if_neg right]
  exact (loginSucceededCommit_ok settings env user db _ _).mpr ⟨free, rfl, rfl⟩

inductive Attempted (userId : Nat) (row : UserRow) (state : State) (attempt : Attempt) :
    State → Prop
  | refused (raised : Raised)
      (refused : loginChecks attempt.env (attempt.payload username) state.db = .error raised) :
      Attempted userId row state attempt
        ⟨state.db, state.log ++ [⟨attempt.env.now, false, false⟩]⟩
  | wrong (unlocked : row.lockedUntil.any (fun lockedUntil => attempt.env.now < lockedUntil) = false) :
      Attempted userId row state attempt
        ⟨guessed attempt.env (userId, row) state.db,
          state.log ++ [⟨attempt.env.now, true, false⟩]⟩
  | right (unlocked : row.lockedUntil.any (fun lockedUntil => attempt.env.now < lockedUntil) = false) :
      Attempted userId row state attempt
        ⟨issued settings attempt.env (userId, row) state.db,
          state.log ++ [⟨attempt.env.now, true, true⟩]⟩

theorem step_attempted (userId : Nat) (row : UserRow) (state : State) (attempt : Attempt)
    (named : loadUserForAuth state.db username = some (userId, row))
    (fresh : Fresh settings state attempt) :
    Attempted settings username userId row state attempt (step settings username state attempt) := by
  cases checks : loginChecks attempt.env (attempt.payload username) state.db with
  | error raised =>
      have refused := login_refused settings attempt.env (attempt.payload username) state.db raised
        checks
      have same : step settings username state attempt =
          ⟨state.db, state.log ++ [⟨attempt.env.now, false, false⟩]⟩ := by
        simp [step, Attempt.outcome, after, reply, refused, checks, Except.isOk, Except.toBool]
      rw [same]
      exact .refused raised checks
  | ok user =>
      obtain ⟨found, _, unlocked⟩ := (loginChecks_ok _ _ state.db user).mp checks
      obtain rfl := Option.some.inj (named.symm.trans found)
      rw [Bool.not_eq_true] at unlocked
      by_cases wrong : settings.verifyPassword attempt.password row.passwordHash = false
      · have failed := login_wrong settings attempt.env (attempt.payload username) state.db _ checks
          wrong
        have same : step settings username state attempt =
            ⟨guessed attempt.env (userId, row) state.db,
              state.log ++ [⟨attempt.env.now, true, false⟩]⟩ := by
          simp [step, Attempt.outcome, after, reply, failed, checks, Except.isOk, Except.toBool]
        rw [same]
        exact .wrong unlocked
      · have returned := login_right settings attempt.env (attempt.payload username) state.db _ checks
          wrong fresh
        have same : step settings username state attempt =
            ⟨issued settings attempt.env (userId, row) state.db,
              state.log ++ [⟨attempt.env.now, true, true⟩]⟩ := by
          simp [step, Attempt.outcome, after, reply, returned, checks, Except.isOk, Except.toBool]
        rw [same]
        exact .right unlocked

variable {settings username}

theorem evaluations_snoc (db : AuthDb) (log : List Outcome) (outcome : Outcome)
    (evaluated : outcome.evaluated = true) :
    evaluations ⟨db, log ++ [outcome]⟩ = log.filter (·.evaluated) ++ [outcome] := by
  rw [evaluations, List.filter_append, List.filter_cons_of_pos evaluated, List.filter_nil]

theorem Tracks.spaced_next (userId : Nat) (state : State) (row : UserRow)
    (tracks : Tracks username userId state row) (next : Outcome)
    (unlocked : row.lockedUntil.any (fun lockedUntil => next.time < lockedUntil) = false) :
    Window.Spaced Outcome.time Outcome.failed maxFailedLoginAttempts lockWidth
      (evaluations state ++ [next]) := by
  refine Window.spaced_snoc Outcome.time Outcome.failed _ _ _ next tracks.spaced ?_
  intro last latest many
  rw [← tracks.counter] at many
  rw [tracks.lock, if_pos many, latest] at unlocked
  simpa using unlocked

theorem tracks_wrong (userId : Nat) (state : State) (row : UserRow)
    (tracks : Tracks username userId state row) (env : AuthEnv)
    (unlocked : row.lockedUntil.any (fun lockedUntil => env.now < lockedUntil) = false) :
    Tracks username userId
      ⟨guessed env (userId, row) state.db, state.log ++ [⟨env.now, true, false⟩]⟩
      (failedLogin env.now row) := by
  have snoc := evaluations_snoc (guessed env (userId, row) state.db) state.log
    ⟨env.now, true, false⟩ rfl
  have counts : (failedLogin env.now row).failedLoginAttempts = row.failedLoginAttempts + 1 := by
    have flushed := flush_failedLogin env.now row row
    rwa [UserRow.flush_loaded] at flushed
  refine ⟨?_, ?_, ?_, ?_⟩
  · have named := loadUserForAuth_modify state.db (guessed env (userId, row) state.db) username
      (userId, row) (failedLogin env.now row) row rfl (failedLogin_identity env.now row).1
      tracks.named
    rwa [UserRow.flush_loaded] at named
  · rw [snoc, counts, tracks.counter]
    exact (Window.trailing_failed Outcome.failed _ _ rfl).symm
  · rw [snoc]
    split
    · rename_i many
      rw [failedLogin_locks env.now row many]
      simp [lockWidth]
    · rename_i few
      have before := tracks.lock
      rw [if_neg (by omega)] at before
      rw [failedLogin, lockUserIfNeeded, if_neg (by rwa [← counts])]
      exact before
  · rw [snoc]
    exact tracks.spaced_next userId state row ⟨env.now, true, false⟩ unlocked

theorem tracks_right (userId : Nat) (state : State) (row : UserRow)
    (tracks : Tracks username userId state row) (env : AuthEnv)
    (unlocked : row.lockedUntil.any (fun lockedUntil => env.now < lockedUntil) = false) :
    Tracks username userId
      ⟨issued settings env (userId, row) state.db, state.log ++ [⟨env.now, true, true⟩]⟩
      (loggedIn env.now row) := by
  have snoc := evaluations_snoc (issued settings env (userId, row) state.db) state.log
    ⟨env.now, true, true⟩ rfl
  refine ⟨?_, ?_, rfl, ?_⟩
  · have named := loadUserForAuth_modify state.db (issued settings env (userId, row) state.db)
      username (userId, row) (loggedIn env.now row) row rfl rfl tracks.named
    rwa [UserRow.flush_loaded] at named
  · rw [snoc]
    exact (Window.trailing_succeeded Outcome.failed _ _ rfl).symm
  · rw [snoc]
    exact tracks.spaced_next userId state row ⟨env.now, true, true⟩ unlocked

theorem tracks_step (userId : Nat) (state : State) (attempt : Attempt)
    (tracks : ∃ row, Tracks username userId state row) (fresh : Fresh settings state attempt) :
    ∃ row, Tracks username userId (step settings username state attempt) row := by
  obtain ⟨row, tracks⟩ := tracks
  have attempted := step_attempted settings username userId row state attempt tracks.named fresh
  generalize step settings username state attempt = state' at attempted ⊢
  cases attempted with
  | refused raised refused =>
      have same : evaluations ⟨state.db, state.log ++ [⟨attempt.env.now, false, false⟩]⟩ =
          evaluations state := by
        simp [evaluations]
      exact ⟨row, tracks.named, by rw [same, tracks.counter], by rw [same, tracks.lock],
        by rw [same]; exact tracks.spaced⟩
  | wrong unlocked => exact ⟨_, tracks_wrong userId state row tracks attempt.env unlocked⟩
  | right unlocked => exact ⟨_, tracks_right userId state row tracks attempt.env unlocked⟩

theorem log_times (state : State) (attempts : List Attempt) :
    (run settings username state attempts).log.map Outcome.time =
      state.log.map Outcome.time ++ attempts.map (fun attempt => attempt.env.now) := by
  induction attempts generalizing state with
  | nil => rw [List.map_nil, List.append_nil]; rfl
  | cons attempt attempts ih =>
      have tail := ih (step settings username state attempt)
      refine tail.trans ?_
      simp [step, Attempt.outcome]

theorem lockedOut (userId : Nat) (state : State) (row : UserRow)
    (tracks : Tracks username userId state row) : LockedOut settings username state := by
  intro early recent latest split long allFailed isLatest attempt soon
  have many : maxFailedLoginAttempts ≤ row.failedLoginAttempts := by
    rw [tracks.counter, split]
    refine long.trans (Window.le_trailing Outcome.failed early recent ?_)
    intro outcome member
    rw [Outcome.failed, allFailed outcome member, Bool.not_false]
  have last : (evaluations state).getLast? = some latest := by
    rw [split, List.getLast?_append, isLatest, Option.some_or]
  have locked := tracks.lock
  rw [if_pos many, last, Option.map_some] at locked
  cases checks : loginChecks attempt.env (attempt.payload username) state.db with
  | error raised =>
      have refused := login_refused settings attempt.env (attempt.payload username) state.db raised
        checks
      simp [Attempt.outcome, reply, refused, Except.isOk, Except.toBool]
  | ok user =>
      obtain ⟨found, _, unlocked⟩ := (loginChecks_ok _ _ state.db user).mp checks
      obtain rfl := Option.some.inj (tracks.named.symm.trans found)
      rw [locked] at unlocked
      exact (unlocked (by simpa using soon)).elim

/-- Along any attempts at times in order on a fresh account, no window of 15 minutes without a
success holds more than five evaluated attempts, and five failures in a row close the account
for 15 minutes. -/
theorem lockout_bounds_guessing (db : AuthDb) (userId : Nat) (start : UserRow)
    (account : loadUserForAuth db username = some (userId, start))
    (counter : start.failedLoginAttempts = 0) (lock : start.lockedUntil = none)
    (attempts : List Attempt)
    (inOrder : attempts.Pairwise (fun early late => early.env.now ≤ late.env.now))
    (fresh : Runs.Along (step settings username) (Fresh settings) ⟨db, []⟩ attempts) :
    WindowsBounded (run settings username ⟨db, []⟩ attempts) ∧
      LockedOut settings username (run settings username ⟨db, []⟩ attempts) := by
  have initial : Tracks username userId ⟨db, []⟩ start :=
    ⟨account, counter, by rw [lock, counter]; rfl, Window.spaced_nil _ _ _ _⟩
  obtain ⟨row, tracks⟩ := Runs.run_preserves_along (step settings username)
    (fun state => ∃ row, Tracks username userId state row) (Fresh settings)
    (fun state attempt => tracks_step userId state attempt) ⟨db, []⟩ attempts fresh
    ⟨start, initial⟩
  refine ⟨?_, lockedOut userId _ row tracks⟩
  intro windowStart none
  have dated : Window.Dated Outcome.time (run settings username ⟨db, []⟩ attempts).log := by
    have times : ((run settings username ⟨db, []⟩ attempts).log.map Outcome.time).Pairwise
        (· ≤ ·) := by
      rw [log_times]
      exact List.pairwise_map.mpr inOrder
    exact List.pairwise_map.mp times
  refine Window.within_length Outcome.time Outcome.failed maxFailedLoginAttempts lockWidth
    windowStart _ (List.Pairwise.filter _ dated) tracks.spaced (by decide) ?_
  intro outcome member
  obtain ⟨evaluated, inside⟩ := List.mem_filter.mp member
  rw [Outcome.failed, none outcome (List.mem_filter.mpr
    ⟨(List.mem_filter.mp evaluated).1, inside⟩), Bool.not_false]

end Runs

def ownerAttempts : List Attempt :=
  List.replicate 5 ⟨⟨0, "4yTgNq0", "Zk81rWb"⟩, "hunter2"⟩ ++
    [⟨⟨timedeltaMinutes 1, "b1f0", "c7aa"⟩, "owner-pass-1"⟩]

theorem owner_locked_out :
    (run sampleSettings "owner" ⟨AuthDb.start ⟨[ownerRow]⟩, []⟩ ownerAttempts).log =
        List.replicate 5 ⟨0, true, false⟩ ++ [⟨timedeltaMinutes 1, false, false⟩] ∧
      LockedOut sampleSettings "owner"
        (run sampleSettings "owner" ⟨AuthDb.start ⟨[ownerRow]⟩, []⟩ ownerAttempts) := by
  refine ⟨by decide, (lockout_bounds_guessing (AuthDb.start ⟨[ownerRow]⟩) 1 ownerRow rfl rfl rfl
    ownerAttempts (by simp [ownerAttempts, timedeltaMinutes]) ?_).2⟩
  refine ⟨?_, ?_, ?_, ?_, ?_, ?_, trivial⟩ <;> unfold Fresh <;> decide

end RetailApp.Auth.Lockout
