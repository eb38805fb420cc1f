import RetailApp.Auth.Acceptance
import RetailApp.Auth.Requests

/-! Refresh tokens exchanged while other exchanges of them are under way. The session a refresh
opens descends from the one it ends; a chain of exchanges has one live end for as long as no
session is exchanged twice. -/

namespace RetailApp.Auth.Exchanges

open Protocol Relation Transaction

section Runs

variable (settings : AuthSettings)

structure State where
  world : World Request AuthDb Reply Plan
  history : List Plan

def step (state : State) (event : Protocol.Event Request) : State where
  world := (backend settings).step state.world event
  history := state.history ++ ((backend settings).committing state.world event).toList

def State.start (users : Table UserRow) : State := ⟨World.idle (AuthDb.start users), []⟩

def run (state : State) (schedule : List (Protocol.Event Request)) : State :=
  Runs.run (step settings) state schedule

/-- The session a plan opens, if any, and the one exchanged for it. -/
def opens : Plan → Option (Option Nat)
  | .login _ payload user =>
      if settings.verifyPassword payload.password user.2.passwordHash = false then none
      else some none
  | .refreshToken _ _ record => some (some record.1)
  | .logout _ _ => none

def exchange : Plan → Option (String × Nat)
  | .login _ _ _ => none
  | .refreshToken _ value record => some (value, record.1)
  | .logout _ _ => none

def parents (state : State) : Table (Option Nat) := ⟨state.history.filterMap (opens settings)⟩

/-- The refresh tokens exchanged so far, with their sessions. -/
def exchanged (state : State) : List (String × Nat) := state.history.filterMap exchange

def Succeeds (state : State) (earlier later : Nat) : Prop :=
  (parents settings state).get? later = some (some earlier)

/-- An unrevoked session that descends from the one a login opened. -/
def LiveUnder (state : State) (login key : Nat) : Prop :=
  ReflTransGen (Succeeds settings state) login key ∧
    ∃ row, state.world.tables.sessionTokens.get? key = some row ∧ row.isRevoked = false

structure SingleUse (state : State) : Prop where
  values : ((exchanged state).map Prod.fst).Nodup
  sessions : ((exchanged state).map Prod.snd).Nodup
  oneLive : ∀ login first second, (parents settings state).get? login = some none →
    LiveUnder settings state login first → LiveUnder settings state login second → first = second

def Recorded (db : AuthDb) (key : Nat) : Prop :=
  ∃ entry ∈ db.auditLogs.rows, entry.action = "auth.token.refresh" ∧ entry.entityId = key

/-- A refresh whose new hashes are free finds its session still unrevoked, or revoked by
logouts alone. -/
def Unspent (state : State) : Protocol.Event Request → Prop
  | .start _ => True
  | .finish position => ∀ request env value record,
      state.world.inFlight[position]? = some (request, .refreshToken env value record) →
      tokenHashTaken state.world.tables (settings.hashToken env.accessToken) = false →
      refreshTokenHashTaken state.world.tables (settings.hashToken env.refreshToken) = false →
      ∀ row, state.world.tables.sessionTokens.get? record.1 = some row → row.isRevoked = true →
        ¬ Recorded state.world.tables record.1

def Held (db : AuthDb) : Plan → Prop
  | .login _ _ _ => True
  | .refreshToken _ value record => record.2.isRevoked = false ∧
      ∃ row, db.sessionTokens.get? record.1 = some row ∧
        row.refreshTokenHash = settings.hashToken value
  | .logout _ _ => True

structure Ground (state : State) : Prop where
  aligned : (parents settings state).nextKey = state.world.tables.sessionTokens.nextKey
  distinct : (refreshTokenHashes state.world.tables).Nodup
  spent : ∀ value key, (value, key) ∈ exchanged state →
    ∃ row, state.world.tables.sessionTokens.get? key = some row ∧ row.isRevoked = true ∧
      row.refreshTokenHash = settings.hashToken value
  recorded : ∀ key, key ∈ (exchanged state).map Prod.snd ↔ Recorded state.world.tables key
  plans : ∀ entry ∈ state.world.inFlight, Held settings state.world.tables entry.2

theorem parents_exchanged (state : State) :
    (parents settings state).rows.filterMap id = (exchanged state).map Prod.snd := by
  rw [parents, exchanged, List.filterMap_filterMap, List.map_filterMap]
  congr 1
  funext plan
  cases plan with
  | login env payload user =>
      simp only [opens, exchange]
      split <;> rfl
  | refreshToken env value record => rfl
  | logout user value => rfl

theorem Held.foundLive (db : AuthDb) (plan : Plan) (held : Held settings db plan) :
    plan.FoundLive := by
  cases plan with
  | login env payload user => trivial
  | refreshToken env value record => exact held.1
  | logout user value => trivial

theorem singleUse_iff (state : State) (ground : Ground settings state) :
    SingleUse settings state ↔ ((exchanged state).map Prod.snd).Nodup := by
  refine ⟨SingleUse.sessions, fun sessions => ⟨?_, sessions, ?_⟩⟩
  · refine (List.nodup_map_iff_inj_on sessions.of_map).mpr ?_
    rintro ⟨value, key⟩ first ⟨value', key'⟩ second same
    obtain ⟨row, present, _, hash⟩ := ground.spent value key first
    obtain ⟨row', present', _, hash'⟩ := ground.spent value' key' second
    obtain rfl : value = value' := same
    rw [Table.key_unique state.world.tables.sessionTokens (·.refreshTokenHash) ground.distinct key
      key' row row' present present' (hash.trans hash'.symm)]
  · intro login first second opened one other
    have distinct : ((parents settings state).rows.filterMap id).Nodup := by
      rw [parents_exchanged]
      exact sessions
    have linear : Relator.RightUnique (Succeeds settings state) :=
      fun key child child' one other =>
        Table.key_unique_some _ distinct child child' key one other
    -- an exchanged session is revoked, so a live one has no successor
    have last (key : Nat) (live : LiveUnder settings state login key) (later : Nat)
        (path : ReflTransGen (Succeeds settings state) key later) : key = later := by
      rcases path.cases_head with same | ⟨child, succeeds, _⟩
      · exact same
      · obtain ⟨_, row, present, unrevoked⟩ := live
        have member : key ∈ (exchanged state).map Prod.snd := by
          rw [← parents_exchanged settings]
          exact List.mem_filterMap.mpr
            ⟨some key, (Table.mem_rows _ _).mpr ⟨child, succeeds⟩, rfl⟩
        obtain ⟨⟨value, _⟩, entry, rfl⟩ := List.mem_map.mp member
        obtain ⟨row', present', revoked, _⟩ := ground.spent value _ entry
        obtain rfl := Option.some.inj (present.symm.trans present')
        exact (Bool.false_ne_true (unrevoked.symm.trans revoked)).elim
    rcases ReflTransGen.total_of_right_unique linear one.1 other.1 with onward | back
    · exact last first one second onward
    · exact (last second other first back).symm

def Keeps (sessions sessions' : Table SessionToken) : Prop :=
  ∀ key row, sessions.get? key = some row → ∃ row', sessions'.get? key = some row' ∧
    row'.refreshTokenHash = row.refreshTokenHash ∧ (row.isRevoked = true → row'.isRevoked = true)

theorem keeps_modify (sessions : Table SessionToken) (target : Nat) :
    Keeps sessions (sessions.modify target revoke) := by
  intro key row present
  rw [Table.get?_modify, present]
  split
  · exact ⟨revoke row, rfl, rfl, fun _ => rfl⟩
  · exact ⟨row, rfl, rfl, id⟩

theorem keeps_insert (sessions sessions' : Table SessionToken) (row : SessionToken)
    (kept : Keeps sessions sessions') : Keeps sessions (sessions'.insert row) := by
  intro key old present
  obtain ⟨old', present', same⟩ := kept key old present
  exact ⟨old', Table.get?_insert_of_some sessions' row old' key present', same⟩

variable {settings} in
theorem writes_keeps (plan : Plan) (db db' : AuthDb) (writes : Writes settings db plan db') :
    Keeps db.sessionTokens db'.sessionTokens := by
  cases writes with
  | guessed env payload user wrong => exact fun key row present => ⟨row, present, rfl, id⟩
  | loggedIn env payload user right fresh =>
      exact keeps_insert _ _ _ (fun key row present => ⟨row, present, rfl, id⟩)
  | refreshed env value record fresh =>
      exact keeps_insert _ _ _ (keeps_modify db.sessionTokens record.1)
  | loggedOut user value =>
      intro key row present
      rw [revokeAll, Table.get?_foldl_modify _ _ _ revoke_revoke, present]
      split
      · exact ⟨revoke row, rfl, rfl, fun _ => rfl⟩
      · exact ⟨row, rfl, rfl, id⟩

theorem writes_hashes (plan : Plan) (db db' : AuthDb) (writes : Writes settings db plan db') :
    ∃ hashes, refreshTokenHashes db' = refreshTokenHashes db ++ hashes ∧
      hashes.length = (opens settings plan).toList.length ∧ hashes.Nodup ∧
        ∀ hash ∈ hashes, hash ∉ refreshTokenHashes db := by
  cases writes with
  | guessed env payload user wrong => exact ⟨[], by simp [refreshTokenHashes, guessed, opens, wrong]⟩
  | loggedIn env payload user right fresh =>
      refine ⟨[settings.hashToken env.refreshToken], ?_, ?_, List.nodup_singleton _,
        by simpa using fresh⟩
      · simp [refreshTokenHashes, issued, Table.insert, newSession]
      · simp [opens, right]
  | refreshed env value record fresh =>
      refine ⟨[settings.hashToken env.refreshToken], ?_, rfl, List.nodup_singleton _,
        by simpa using fresh⟩
      have kept := Table.map_modify db.sessionTokens record.1 revoke (·.refreshTokenHash)
        (fun _ => rfl)
      rw [refreshTokenHashes, Table.insert, List.map_append, kept]
      rfl
  | loggedOut user value =>
      refine ⟨[], ?_, rfl, List.nodup_nil, by simp⟩
      rw [List.append_nil]
      exact Table.map_foldl_modify db.sessionTokens _ revoke (·.refreshTokenHash) (fun _ => rfl)

theorem recorded_insert (db db' : AuthDb) (entry : ImmutableAuditLog) (key : Nat)
    (audit : db'.auditLogs = db.auditLogs.insert entry) :
    Recorded db' key ↔ Recorded db key ∨
      (entry.action = "auth.token.refresh" ∧ entry.entityId = key) := by
  simp only [Recorded, audit, Table.insert, List.mem_append, List.mem_singleton, or_and_right,
    exists_or, exists_eq_left]

theorem writes_recorded (plan : Plan) (db db' : AuthDb) (writes : Writes settings db plan db')
    (key : Nat) : Recorded db' key ↔ Recorded db key ∨ key ∈ (exchange plan).map Prod.snd := by
  cases writes with
  | guessed env payload user wrong =>
      exact (recorded_insert db _ _ key rfl).trans (by simp [exchange])
  | loggedIn env payload user right fresh =>
      exact (recorded_insert db _ _ key rfl).trans (by simp [exchange])
  | refreshed env value record fresh =>
      exact (recorded_insert db _ _ key rfl).trans (by simp [exchange])
  | loggedOut user value =>
      exact (recorded_insert db _ _ key rfl).trans (by simp [exchange])

theorem writes_spent (plan : Plan) (db db' : AuthDb) (writes : Writes settings db plan db')
    (held : Held settings db plan) (value : String) (key : Nat)
    (exchanges : exchange plan = some (value, key)) :
    ∃ row, db'.sessionTokens.get? key = some row ∧ row.isRevoked = true ∧
      row.refreshTokenHash = settings.hashToken value := by
  cases writes with
  | guessed env payload user wrong => cases exchanges
  | loggedIn env payload user right fresh => cases exchanges
  | refreshed env value record fresh =>
      obtain ⟨rfl, rfl⟩ := Prod.mk.inj (Option.some.inj exchanges)
      obtain ⟨_, row, present, hash⟩ := held
      refine ⟨revoke row, ?_, rfl, hash⟩
      apply Table.get?_insert_of_some
      rw [Table.get?_modify_self, present, Option.map_some]
  | loggedOut user value => cases exchanges

theorem Held.kept (plan : Plan) (db db' : AuthDb) (held : Held settings db plan)
    (kept : Keeps db.sessionTokens db'.sessionTokens) : Held settings db' plan := by
  cases plan with
  | login env payload user => trivial
  | refreshToken env value record =>
      obtain ⟨live, row, present, hash⟩ := held
      obtain ⟨row', present', same, _⟩ := kept record.1 row present
      exact ⟨live, row', present', same.trans hash⟩
  | logout user value => trivial

theorem ground_committed (state : State) (ground : Ground settings state)
    (inFlight : List (Request × Plan)) (answered : List (Request × Reply)) (plan : Plan)
    (db' : AuthDb) (held : Held settings state.world.tables plan)
    (rest : ∀ entry ∈ inFlight, entry ∈ state.world.inFlight)
    (writes : Writes settings state.world.tables plan db') :
    Ground settings ⟨⟨db', inFlight, answered⟩, state.history ++ [plan]⟩ := by
  have kept := writes_keeps plan _ db' writes
  obtain ⟨hashes, column, one, apart, fresh⟩ := writes_hashes settings plan _ db' writes
  have history : exchanged ⟨⟨db', inFlight, answered⟩, state.history ++ [plan]⟩ =
      exchanged state ++ (exchange plan).toList := by
    simp only [exchanged, List.filterMap_append, List.filterMap_cons, List.filterMap_nil]
    cases exchange plan <;> rfl
  refine ⟨?_, ?_, ?_, ?_, ?_⟩
  · have long := congrArg List.length column
    have aligned := ground.aligned
    have opened : ([plan].filterMap (opens settings)).length =
        (opens settings plan).toList.length := by
      simp only [List.filterMap_cons, List.filterMap_nil]
      cases opens settings plan <;> rfl
    simp only [Table.nextKey, parents, refreshTokenHashes, List.length_map, List.length_append,
      List.filterMap_append] at long aligned ⊢
    omega
  · rw [column]
    refine List.nodup_append.mpr ⟨ground.distinct, apart, ?_⟩
    intro old member new added same
    exact fresh new added (same ▸ member)
  · intro value key member
    rw [history, List.mem_append, Option.mem_toList] at member
    rcases member with old | new
    · obtain ⟨row, present, revoked, hash⟩ := ground.spent value key old
      obtain ⟨row', present', same, stays⟩ := kept key row present
      exact ⟨row', present', stays revoked, same.trans hash⟩
    · exact writes_spent settings plan _ db' writes held value key new
  · intro key
    rw [history, List.map_append, List.mem_append, ground.recorded,
      writes_recorded settings plan _ db' writes key]
    cases exchange plan <;> simp [eq_comm]
  · intro entry member
    exact (ground.plans entry (rest entry member)).kept settings entry.2 _ db' kept

theorem read_held (request : Request) (db : AuthDb) (answer : Reply ⊕ Plan)
    (seen : read settings request db = .ok answer) :
    ∃ plan, answer = .inr plan ∧ Held settings db plan := by
  cases request with
  | login env committedAt payload =>
      obtain ⟨user, _, rfl⟩ := (read_login settings env committedAt payload db answer).mp seen
      exact ⟨_, rfl, trivial⟩
  | refreshToken env committedAt value =>
      obtain ⟨record, checked, rfl⟩ :=
        (read_refreshToken settings env committedAt value db answer).mp seen
      obtain ⟨found, usable⟩ := (refreshChecks_ok settings env value db record).mp checked
      obtain ⟨present, hash⟩ := Table.find?_some _ _ _ found
      exact ⟨_, rfl, Bool.eq_false_iff.mpr (fun revoked => usable (.inl revoked)), record.2, present,
        beq_iff_eq.mp hash⟩
  | logout user value =>
      obtain rfl := Except.ok.inj seen
      exact ⟨_, rfl, trivial⟩

theorem refresh_free (env : AuthEnv) (value : String) (record : Nat × SessionToken) (db : AuthDb)
    (live : record.2.isRevoked = false) :
    (tokenHashTaken db (settings.hashToken env.accessToken) = false ∧
        refreshTokenHashTaken db (settings.hashToken env.refreshToken) = false) ↔
      ∃ reply db', commit settings (.refreshToken env value record) db = .ok reply db' := by
  rw [tokenHashTaken, hash_free, refreshTokenHashTaken, hash_free]
  constructor
  · intro free
    exact ⟨_, _, (map_ok _ _ _ _ _).mpr ⟨_, (refreshCommit_ok settings env record db _ live _).mpr
      ⟨free, rfl, rfl⟩, rfl⟩⟩
  · rintro ⟨reply, db', committed⟩
    obtain ⟨response, committed, _⟩ := (map_ok _ _ _ _ _).mp committed
    exact ((refreshCommit_ok settings env record db db' live response).mp committed).1

theorem committed_unspent (state : State) (ground : Ground settings state) (position : Nat)
    (request : Request) (plan : Plan) (reply : Reply) (db' : AuthDb)
    (entry : state.world.inFlight[position]? = some (request, plan))
    (committed : commit settings plan state.world.tables = .ok reply db') :
    (((exchanged state).map Prod.snd ++ (exchange plan).toList.map Prod.snd).Nodup ↔
      ((exchanged state).map Prod.snd).Nodup ∧ Unspent settings state (.finish position)) := by
  cases plan with
  | login env payload user =>
      rw [exchange, Option.toList_none, List.map_nil, List.append_nil]
      refine (and_iff_left ?_).symm
      intro request' env' value' record' there
      cases entry.symm.trans there
  | refreshToken env value record =>
      obtain ⟨live, row, present, _⟩ := ground.plans _ (List.mem_of_getElem? entry)
      have free := (refresh_free settings env value record _ live).mpr ⟨reply, db', committed⟩
      have singleton : (exchange (.refreshToken env value record)).toList.map Prod.snd =
        [record.1] := rfl
      rw [singleton, List.nodup_append_comm, List.singleton_append, List.nodup_cons,
        ground.recorded, and_comm]
      refine and_congr_right (fun _ => ⟨?_, ?_⟩)
      · rintro unrecorded request' env' value' record' there _ _ _ _ _
        obtain ⟨_, same⟩ := Prod.mk.inj (Option.some.inj (entry.symm.trans there))
        obtain ⟨rfl, rfl, rfl⟩ := Plan.refreshToken.inj same
        exact unrecorded
      · intro unspent recorded
        obtain ⟨⟨value', _⟩, member, rfl⟩ := List.mem_map.mp ((ground.recorded _).mpr recorded)
        obtain ⟨row', present', revoked, _⟩ := ground.spent value' _ member
        exact unspent request env value record entry free.1 free.2 row' present' revoked recorded
  | logout user value =>
      rw [exchange, Option.toList_none, List.map_nil, List.append_nil]
      refine (and_iff_left ?_).symm
      intro request' env' value' record' there
      cases entry.symm.trans there

theorem ground_raised (state : State) (ground : Ground settings state)
    (inFlight : List (Request × Plan)) (answered : List (Request × Reply))
    (plans : ∀ entry ∈ inFlight, Held settings state.world.tables entry.2) :
    Ground settings ⟨⟨state.world.tables, inFlight, answered⟩, state.history⟩ :=
  ⟨ground.aligned, ground.distinct, ground.spent, ground.recorded, plans⟩

theorem step_ground (state : State) (ground : Ground settings state)
    (event : Protocol.Event Request) :
    Ground settings (step settings state event) ∧
      (((exchanged (step settings state event)).map Prod.snd).Nodup ↔
        ((exchanged state).map Prod.snd).Nodup ∧ Unspent settings state event) := by
  have stepped := (backend settings).step_stepped state.world event
  rw [step]
  generalize (backend settings).committing state.world event = commits,
    (backend settings).step state.world event = world' at stepped ⊢
  cases stepped with
  | refused request raised outcome =>
      rw [Option.toList_none, List.append_nil]
      exact ⟨ground, (and_iff_left trivial).symm⟩
  | answered request answer outcome =>
      obtain ⟨_, same, _⟩ := read_held settings request _ _ outcome
      cases same
  | planned request plan outcome =>
      obtain ⟨_, same, held⟩ := read_held settings request _ _ outcome
      obtain rfl := Sum.inr.inj same
      rw [Option.toList_none, List.append_nil]
      refine ⟨ground_raised settings state ground _ _ ?_, (and_iff_left trivial).symm⟩
      intro entry member
      rcases List.mem_append.mp member with old | new
      · exact ground.plans entry old
      · obtain rfl := List.mem_singleton.mp new
        exact held
  | missing position entry =>
      rw [Option.toList_none, List.append_nil]
      refine ⟨ground, (and_iff_left ?_).symm⟩
      intro request env value record there
      cases entry.symm.trans there
  | raised position request plan raised tables entry outcome =>
      obtain rfl := allOrNothing_commit settings plan _ tables raised outcome
      rw [Option.toList_none, List.append_nil]
      refine ⟨ground_raised settings state ground _ _
        (fun entry member => ground.plans entry (List.mem_of_mem_eraseIdx member)),
        (and_iff_left ?_).symm⟩
      intro request' env value record there tokenFree refreshFree
      obtain ⟨_, rfl⟩ := Prod.mk.inj (Option.some.inj (entry.symm.trans there))
      have held := ground.plans _ (List.mem_of_getElem? there)
      obtain ⟨reply, db', committed⟩ :=
        (refresh_free settings env value record _ held.1).mp ⟨tokenFree, refreshFree⟩
      cases outcome.symm.trans committed
  | committed position request plan answer tables entry outcome =>
      have held := ground.plans _ (List.mem_of_getElem? entry)
      have writes := commit_writes settings plan (held.foundLive settings _ plan) _ tables answer
        outcome
      refine ⟨ground_committed settings state ground _ _ plan tables held
        (fun entry member => List.mem_of_mem_eraseIdx member) writes, ?_⟩
      have unspent := committed_unspent settings state ground position request plan answer tables
        entry outcome
      rw [← unspent, exchanged, List.filterMap_append, List.map_append]
      simp only [Option.toList_some, List.filterMap_cons, List.filterMap_nil, exchanged]
      cases exchange plan <;> rfl

theorem ground_start (users : Table UserRow) : Ground settings (State.start users) where
  aligned := rfl
  distinct := List.nodup_nil
  spent := fun _ _ member => nomatch member
  recorded := fun _ => ⟨fun member => (nomatch member), fun ⟨_, member, _⟩ => nomatch member⟩
  plans := fun _ member => nomatch member

/-- From no sessions at all and through any interleaving, every refresh token is exchanged at
most once and every login has at most one live descendant exactly as long as no refresh commits
on a session that another refresh has ended. -/
theorem tokens_single_use_iff (users : Table UserRow) (schedule : List (Protocol.Event Request)) :
    Runs.Throughout (step settings) (SingleUse settings) (State.start users) schedule ↔
      Runs.Along (step settings) (Unspent settings) (State.start users) schedule := by
  refine Runs.throughout_iff_along (step settings) (Ground settings) (SingleUse settings)
    (Unspent settings) (fun state event ground => (step_ground settings state ground event).1) ?_
    (State.start users) schedule (ground_start settings users)
    ((singleUse_iff settings _ (ground_start settings users)).mpr List.nodup_nil)
  intro state event ground single
  obtain ⟨ground', unspent⟩ := step_ground settings state ground event
  rw [singleUse_iff settings _ ground', unspent]
  exact and_iff_right single.sessions

end Runs

/-- Two exchanges of the refresh token of one login, both looked up before either commits. -/
def racingExchanges : List (Protocol.Event Request) :=
  [.start (.login ⟨0, "4yTgNq0", "Zk81rWb"⟩ 0 ⟨"owner", "owner-pass-1"⟩), .finish 0,
    .start (.refreshToken ⟨1, "b1f0", "c7aa"⟩ 2 "Zk81rWb"),
    .start (.refreshToken ⟨1, "d93e", "e04b"⟩ 2 "Zk81rWb"), .finish 0, .finish 0]

theorem racing_exchanges_two_sessions :
    let state := run sampleSettings (State.start ⟨[ownerRow]⟩) racingExchanges
    exchanged state = [("Zk81rWb", 1), ("Zk81rWb", 1)] ∧
      LiveUnder sampleSettings state 1 2 ∧ LiveUnder sampleSettings state 1 3 ∧
        ¬ SingleUse sampleSettings state := by
  have twice : exchanged (run sampleSettings (State.start ⟨[ownerRow]⟩) racingExchanges) =
    [("Zk81rWb", 1), ("Zk81rWb", 1)] := by decide
  refine ⟨twice, ⟨.single (by unfold Succeeds; decide), ?_⟩,
    ⟨.single (by unfold Succeeds; decide), ?_⟩, ?_⟩
  · exact ⟨newSession sampleSettings ⟨2, "b1f0", "c7aa"⟩ 1, by decide, rfl⟩
  · exact ⟨newSession sampleSettings ⟨2, "d93e", "e04b"⟩ 1, by decide, rfl⟩
  · intro single
    have sessions := single.sessions
    rw [twice] at sessions
    exact absurd sessions (by decide)

end RetailApp.Auth.Exchanges
