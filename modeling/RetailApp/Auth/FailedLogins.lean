import RetailApp.Auth.Acceptance
import RetailApp.Auth.Requests

/-! Guesses that race on one account. Each counts up from the row its read step loaded, so the
counter keeps up with the guesses exactly as long as nobody else has counted in between. -/

namespace RetailApp.Auth

open Protocol Transaction

section Guesses

variable (settings : AuthSettings) (username : String) (userId : Nat) (start : UserRow)

/-- A login with that username and a password the stored hash does not verify. -/
def Guess (passwordHash : String) : Request → Prop
  | .login _ _ payload =>
      payload.username = username ∧ settings.verifyPassword payload.password passwordHash = false
  | .refreshToken _ _ _ => False
  | .logout _ _ => False

abbrev GuessRequest := {request : Request // Guess settings username start.passwordHash request}

def guesses : Protocol (GuessRequest settings username start) AuthDb Raised Reply Plan :=
  (backend settings).restrict (Guess settings username start.passwordHash)

abbrev GuessWorld := World (GuessRequest settings username start) AuthDb Reply Plan

def Request.committedAt : Request → Option Time
  | .login _ committedAt _ => some committedAt
  | .refreshToken _ committedAt _ => some committedAt
  | .logout _ _ => none

variable {settings username}

def Counted (world : GuessWorld settings username start) (row : UserRow) : Prop :=
  row.failedLoginAttempts = start.failedLoginAttempts + world.answered.length

/-- From the fifth failure on, the account is locked for 15 minutes from the latest. -/
def Locked (world : GuessWorld settings username start) (row : UserRow) : Prop :=
  maxFailedLoginAttempts ≤ row.failedLoginAttempts →
    ∀ last, world.answered.getLast? = some last →
      row.lockedUntil = last.1.1.committedAt.map (· + timedeltaMinutes lockMinutes)

def AllCounted (world : GuessWorld settings username start) : Prop :=
  ∃ row, world.tables.users.get? userId = some row ∧ Counted start world row ∧
    Locked start world row

def Undisturbed (world : GuessWorld settings username start) :
    Protocol.Event (GuessRequest settings username start) → Prop
  | .start _ => True
  | .finish position => ∀ request env payload user,
      world.inFlight[position]? = some (request, .login env payload user) →
      ∀ row, world.tables.users.get? user.1 = some row →
        row.failedLoginAttempts = user.2.failedLoginAttempts

/-- A guess under way holds the row as it is, or one with too few failures to count for all. -/
inductive Evaluated (row : UserRow) (counted : Nat) : Request → Plan → Prop
  | login (env : AuthEnv) (committedAt : Time) (payload : LoginRequest) (loaded : UserRow)
      (hash : loaded.passwordHash = start.passwordHash)
      (fresh : loaded = row ∨ loaded.failedLoginAttempts < counted) :
      Evaluated row counted (.login env committedAt payload)
        (.login { env with now := committedAt } payload (userId, loaded))

/-- What every interleaving keeps of the account. -/
structure Stands (world : GuessWorld settings username start) (row : UserRow) : Prop where
  named : loadUserForAuth world.tables username = some (userId, row)
  hash : row.passwordHash = start.passwordHash
  bounded : row.failedLoginAttempts ≤ start.failedLoginAttempts + world.answered.length
  locked : Counted start world row → Locked start world row
  plans : ∀ entry ∈ world.inFlight, Evaluated userId start row
    (start.failedLoginAttempts + world.answered.length) entry.1.1 entry.2

variable {userId start}

theorem Stands.present (world : GuessWorld settings username start) (row : UserRow)
    (stands : Stands userId start world row) : world.tables.users.get? userId = some row :=
  (Table.find?_some _ _ _ stands.named).1

theorem flush_failedLogin (now : Time) (loaded current : UserRow) :
    (UserRow.flush loaded (failedLogin now loaded) current).failedLoginAttempts =
      loaded.failedLoginAttempts + 1 := by
  have counted : (failedLogin now loaded).failedLoginAttempts =
      loaded.failedLoginAttempts + 1 := by
    unfold failedLogin lockUserIfNeeded
    split <;> rfl
  have moved : loaded.failedLoginAttempts + 1 ≠ loaded.failedLoginAttempts := Nat.succ_ne_self _
  simp only [UserRow.flush, counted, changed, if_neg moved]

theorem failedLogin_identity (now : Time) (user : UserRow) :
    (failedLogin now user).username = user.username ∧
      (failedLogin now user).passwordHash = user.passwordHash := by
  unfold failedLogin lockUserIfNeeded
  split <;> exact ⟨rfl, rfl⟩

theorem failedLogin_locks (now : Time) (user : UserRow)
    (many : maxFailedLoginAttempts ≤ (failedLogin now user).failedLoginAttempts) :
    (failedLogin now user).lockedUntil = some (now + timedeltaMinutes lockMinutes) := by
  unfold failedLogin lockUserIfNeeded at many ⊢
  split
  · rfl
  · rename_i few
    rw [if_neg few] at many
    exact (few many).elim

theorem stands_guessed (world : GuessWorld settings username start) (row : UserRow)
    (stands : Stands userId start world row) (position : Nat) (env : AuthEnv) (committedAt : Time)
    (payload : LoginRequest)
    (admits : Guess settings username start.passwordHash (.login env committedAt payload))
    (loaded : UserRow) (fresh : loaded = row ∨
      loaded.failedLoginAttempts < start.failedLoginAttempts + world.answered.length) :
    Stands userId start
      ⟨guessed { env with now := committedAt } (userId, loaded) world.tables,
        world.inFlight.eraseIdx position,
        world.answered ++ [(⟨.login env committedAt payload, admits⟩, .invalidCredentials)]⟩
      (UserRow.flush loaded (failedLogin committedAt loaded) row) := by
  have counter := flush_failedLogin committedAt loaded row
  have limit : loaded.failedLoginAttempts ≤
      start.failedLoginAttempts + world.answered.length := by
    rcases fresh with rfl | behind
    · exact stands.bounded
    · exact behind.le
  have identity := failedLogin_identity committedAt loaded
  refine ⟨loadUserForAuth_modify world.tables _ username (userId, loaded)
    (failedLogin committedAt loaded) row rfl identity.1 stands.named, ?_, ?_, ?_, ?_⟩
  · refine Eq.trans ?_ stands.hash
    simp only [UserRow.flush, identity.2, changed_same]
  · rw [counter, List.length_append, List.length_singleton]
    omega
  · intro counted many last latest
    rw [Counted, counter, List.length_append, List.length_singleton] at counted
    obtain rfl : loaded = row := fresh.resolve_right (fun behind => by omega)
    rw [UserRow.flush_loaded] at many ⊢
    rw [List.getLast?_append_of_ne_nil _ (List.cons_ne_nil _ _), List.getLast?_singleton] at latest
    obtain rfl := Option.some.inj latest
    exact failedLogin_locks committedAt loaded many
  · intro entry member
    have evaluated := stands.plans entry (List.mem_of_mem_eraseIdx member)
    generalize entry.1.1 = request, entry.2 = plan at evaluated ⊢
    cases evaluated with
    | login env' committedAt' payload' loaded' hash fresh' =>
        refine .login env' committedAt' payload' loaded' hash (.inr ?_)
        rw [List.length_append, List.length_singleton]
        rcases fresh' with rfl | behind
        · have := stands.bounded
          omega
        · omega

variable (userId) in
inductive Guessing (world : GuessWorld settings username start) (row : UserRow) :
    Protocol.Event (GuessRequest settings username start) →
      GuessWorld settings username start → Prop
  | refused (request : GuessRequest settings username start) :
      Guessing world row (.start request) world
  | read (env : AuthEnv) (committedAt : Time) (payload : LoginRequest)
      (admits : Guess settings username start.passwordHash (.login env committedAt payload)) :
      Guessing world row (.start ⟨.login env committedAt payload, admits⟩)
        { world with
          inFlight := world.inFlight ++ [(⟨.login env committedAt payload, admits⟩,
            .login { env with now := committedAt } payload (userId, row))] }
  | missing (position : Nat) (entry : world.inFlight[position]? = none) :
      Guessing world row (.finish position) world
  | commit (position : Nat) (env : AuthEnv) (committedAt : Time) (payload : LoginRequest)
      (admits : Guess settings username start.passwordHash (.login env committedAt payload))
      (loaded : UserRow)
      (entry : world.inFlight[position]? = some (⟨.login env committedAt payload, admits⟩,
        .login { env with now := committedAt } payload (userId, loaded)))
      (fresh : loaded = row ∨
        loaded.failedLoginAttempts < start.failedLoginAttempts + world.answered.length) :
      Guessing world row (.finish position)
        ⟨guessed { env with now := committedAt } (userId, loaded) world.tables,
          world.inFlight.eraseIdx position,
          world.answered ++ [(⟨.login env committedAt payload, admits⟩, .invalidCredentials)]⟩

theorem Stands.read (world : GuessWorld settings username start) (row : UserRow)
    (stands : Stands userId start world row) (request : GuessRequest settings username start)
    (answer : Reply ⊕ Plan) (seen : read settings request.1 world.tables = .ok answer) :
    ∃ env committedAt payload admits, request = ⟨.login env committedAt payload, admits⟩ ∧
      answer = .inr (.login { env with now := committedAt } payload (userId, row)) := by
  obtain ⟨request, admits⟩ := request
  cases request with
  | login env committedAt payload =>
      obtain ⟨user, checked, rfl⟩ := (read_login settings env committedAt payload _ answer).mp seen
      have found := ((loginChecks_ok env payload world.tables user).mp checked).1
      rw [admits.1, stands.named] at found
      obtain rfl := Option.some.inj found
      exact ⟨env, committedAt, payload, admits, rfl, rfl⟩
  | refreshToken env committedAt value => exact admits.elim
  | logout user value => exact admits.elim

theorem Stands.commit (world : GuessWorld settings username start) (row : UserRow)
    (stands : Stands userId start world row) (position : Nat)
    (request : GuessRequest settings username start) (plan : Plan)
    (entry : world.inFlight[position]? = some (request, plan)) :
    ∃ env committedAt payload admits loaded, request = ⟨.login env committedAt payload, admits⟩ ∧
      plan = .login { env with now := committedAt } payload (userId, loaded) ∧
      (loaded = row ∨
        loaded.failedLoginAttempts < start.failedLoginAttempts + world.answered.length) ∧
      commit settings plan world.tables = .ok .invalidCredentials
        (guessed { env with now := committedAt } (userId, loaded) world.tables) := by
  have evaluated := stands.plans _ (List.mem_of_getElem? entry)
  obtain ⟨request, admits⟩ := request
  cases evaluated with
  | login env committedAt payload loaded hash fresh =>
      refine ⟨env, committedAt, payload, admits, loaded, rfl, rfl, fresh, commit_wrong _ _ _ _ ?_⟩
      rw [hash]
      exact admits.2

theorem step_guessing (world : GuessWorld settings username start) (row : UserRow)
    (stands : Stands userId start world row)
    (event : Protocol.Event (GuessRequest settings username start)) :
    Guessing userId world row event ((guesses settings username start).step world event) := by
  have stepped := (guesses settings username start).step_stepped world event
  generalize (guesses settings username start).committing world event = commits,
    (guesses settings username start).step world event = world' at stepped ⊢
  cases stepped with
  | refused request raised outcome => exact .refused request
  | answered request answer outcome =>
      obtain ⟨_, _, _, _, _, same⟩ := stands.read _ _ request _ outcome
      cases same
  | planned request plan outcome =>
      obtain ⟨env, committedAt, payload, admits, rfl, same⟩ := stands.read _ _ request _ outcome
      obtain rfl := Sum.inr.inj same
      exact .read env committedAt payload admits
  | missing position entry => exact .missing position entry
  | raised position request plan raised tables entry outcome =>
      obtain ⟨_, _, _, _, _, _, _, _, committed⟩ := stands.commit _ _ position request plan entry
      cases outcome.symm.trans committed
  | committed position request plan answer tables entry outcome =>
      obtain ⟨env, committedAt, payload, admits, loaded, rfl, rfl, fresh, committed⟩ :=
        stands.commit _ _ position request plan entry
      obtain ⟨rfl, rfl⟩ := EStateM.Result.ok.inj (outcome.symm.trans committed)
      exact .commit position env committedAt payload admits loaded entry fresh

theorem allCounted_iff (world : GuessWorld settings username start) (row : UserRow)
    (stands : Stands userId start world row) :
    AllCounted userId start world ↔ Counted start world row := by
  constructor
  · rintro ⟨row', present, counted, _⟩
    obtain rfl := Option.some.inj (stands.present.symm.trans present)
    exact counted
  · exact fun counted => ⟨row, stands.present, counted, stands.locked counted⟩

theorem Stands.planned (world : GuessWorld settings username start) (row : UserRow)
    (stands : Stands userId start world row) (env : AuthEnv) (committedAt : Time)
    (payload : LoginRequest)
    (admits : Guess settings username start.passwordHash (.login env committedAt payload)) :
    Stands userId start
      { world with
        inFlight := world.inFlight ++ [(⟨.login env committedAt payload, admits⟩,
          .login { env with now := committedAt } payload (userId, row))] } row := by
  refine ⟨stands.named, stands.hash, stands.bounded, stands.locked, ?_⟩
  intro entry member
  rcases List.mem_append.mp member with old | new
  · exact stands.plans entry old
  · obtain rfl := List.mem_singleton.mp new
    exact .login env committedAt payload row stands.hash (.inl rfl)

theorem stands_step (world : GuessWorld settings username start) (row : UserRow)
    (stands : Stands userId start world row)
    (event : Protocol.Event (GuessRequest settings username start)) :
    ∃ row', Stands userId start ((guesses settings username start).step world event) row' ∧
      (Counted start ((guesses settings username start).step world event) row' ↔
        Counted start world row ∧ Undisturbed start world event) := by
  have guessing := step_guessing world row stands event
  generalize (guesses settings username start).step world event = world' at guessing ⊢
  cases guessing with
  | refused request => exact ⟨row, stands, (and_iff_left trivial).symm⟩
  | read env committedAt payload admits =>
      exact ⟨row, stands.planned world row env committedAt payload admits,
        (and_iff_left trivial).symm⟩
  | missing position entry =>
      refine ⟨row, stands, (and_iff_left ?_).symm⟩
      intro request env payload user there
      cases entry.symm.trans there
  | commit position env committedAt payload admits loaded entry fresh =>
      refine ⟨_, stands_guessed world row stands position env committedAt payload admits loaded
        fresh, ?_⟩
      have counter := flush_failedLogin committedAt loaded row
      have bounded := stands.bounded
      rw [Counted, Counted, counter, List.length_append, List.length_singleton]
      constructor
      · intro counted
        obtain rfl : loaded = row := fresh.resolve_right (fun behind => by omega)
        refine ⟨by omega, ?_⟩
        intro request env' payload' user there row' present
        obtain ⟨rfl, same⟩ := Prod.mk.inj (Option.some.inj (entry.symm.trans there))
        obtain ⟨rfl, rfl, rfl⟩ := Plan.login.inj same
        rw [Option.some.inj (stands.present.symm.trans present)]
      · rintro ⟨counted, undisturbed⟩
        have found := undisturbed _ _ _ _ entry row stands.present
        simp only at found
        omega

/-- After any guesses with a wrong password, whatever the order of their steps, all that were
committed are counted, and lock the account from the fifth failure on, exactly when each found
the counter as it had loaded it. -/
theorem failed_logins_counted_iff (db : AuthDb)
    (account : loadUserForAuth db username = some (userId, start))
    (schedule : List (Protocol.Event (GuessRequest settings username start))) :
    AllCounted userId start ((guesses settings username start).run (World.idle db) schedule) ↔
      Runs.Along (guesses settings username start).step (Undisturbed start) (World.idle db)
        schedule := by
  have initial : Stands userId start (World.idle db : GuessWorld settings username start) start :=
    ⟨account, rfl, Nat.le_refl _, fun _ _ _ latest => (nomatch latest),
      fun _ member => (List.not_mem_nil member).elim⟩
  refine Runs.final_iff_along (guesses settings username start).step
    (fun world => ∃ row, Stands userId start world row) (AllCounted userId start)
    (Undisturbed start) ?_ ?_ ?_ (World.idle db) schedule ⟨start, initial⟩
    ((allCounted_iff _ _ initial).mpr rfl)
  · rintro world event ⟨row, stands⟩
    obtain ⟨row', stands', _⟩ := stands_step world row stands event
    exact ⟨row', stands'⟩
  · rintro world event ⟨row, stands⟩ counted
    obtain ⟨row', stands', kept⟩ := stands_step world row stands event
    rw [allCounted_iff _ row' stands', kept]
    exact and_iff_right ((allCounted_iff world row stands).mp counted)
  · rintro world event ⟨row, stands⟩ lost counted
    obtain ⟨row', stands', kept⟩ := stands_step world row stands event
    have counted' := (allCounted_iff _ row' stands').mp counted
    exact lost ((allCounted_iff world row stands).mpr (kept.mp counted').1)

end Guesses

def wrongGuess (committedAt : Time) : GuessRequest sampleSettings "owner" ownerRow :=
  ⟨.login ⟨0, "", ""⟩ committedAt ⟨"owner", "hunter2"⟩, rfl, by decide⟩

/-- Five guesses that all read before the first of them commits. -/
def racingGuesses : List (Protocol.Event (GuessRequest sampleSettings "owner" ownerRow)) :=
  List.replicate 5 (.start (wrongGuess 1)) ++ List.replicate 5 (.finish 0)

theorem racing_guesses_counted_once :
    let world := (guesses sampleSettings "owner" ownerRow).run
      (World.idle (AuthDb.start ⟨[ownerRow]⟩)) racingGuesses
    world.inFlight.length = 0 ∧ world.answered.length = 5 ∧
      world.tables.users.get? 1 = some { ownerRow with failedLoginAttempts := 1 } ∧
      ¬ AllCounted 1 ownerRow world := by
  have few : (((guesses sampleSettings "owner" ownerRow).run
      (World.idle (AuthDb.start ⟨[ownerRow]⟩)) racingGuesses).tables.users.get? 1) =
        some { ownerRow with failedLoginAttempts := 1 } := by decide +kernel
  refine ⟨by decide +kernel, by decide +kernel, few, ?_⟩
  rintro ⟨row, present, counted, _⟩
  obtain rfl := Option.some.inj (few.symm.trans present)
  exact absurd counted (by unfold Counted; decide)

def guessesInTurn : List (Protocol.Event (GuessRequest sampleSettings "owner" ownerRow)) :=
  (List.replicate 5 [.start (wrongGuess 1), .finish 0]).flatten

theorem guesses_in_turn_undisturbed :
    Runs.Along (guesses sampleSettings "owner" ownerRow).step (Undisturbed ownerRow)
      (World.idle (AuthDb.start ⟨[ownerRow]⟩)) guessesInTurn := by
  refine (failed_logins_counted_iff (AuthDb.start ⟨[ownerRow]⟩) rfl guessesInTurn).mp ?_
  have latest : ((guesses sampleSettings "owner" ownerRow).run
      (World.idle (AuthDb.start ⟨[ownerRow]⟩)) guessesInTurn).answered.getLast?.map
        (·.1.1.committedAt) = some (some 1) := by decide +kernel
  refine ⟨{ ownerRow with
    failedLoginAttempts := 5
    lockedUntil := some (1 + timedeltaMinutes lockMinutes) }, by decide +kernel, ?_, ?_⟩
  · unfold Counted
    decide
  · intro _ last isLast
    rw [isLast, Option.map_some, Option.some.injEq] at latest
    rw [latest]
    rfl

end RetailApp.Auth
