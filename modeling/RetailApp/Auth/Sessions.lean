import RetailApp.Auth.Calls

/-! Whose token is good, told from the calls that have returned and nothing else, and the
session table's answer to the same question. -/

namespace RetailApp.Auth

open Transaction

section History

variable (users : Table UserRow)

def Event.issued (holder : String → Option Nat) : Event → Option (Nat × TokenResponse)
  | .loggedIn username response => (userNamed users username).map (·, response)
  | .refreshed exchanged response => (holder exchanged).map (·, response)
  | .loggedOut _ _ => none

def holder : List Event → String → Option Nat
  | [], _ => none
  | event :: earlier, value =>
      match event.issued users (holder earlier) with
      | some (userId, response) =>
          if response.refreshToken = value then some userId else holder earlier value
      | none => holder earlier value

def Issues (earlier : List Event) (event : Event) (userId : Nat) (response : TokenResponse) :
    Prop :=
  event.issued users (holder users earlier) = some (userId, response)

/-- A refresh that exchanges the refresh token of a session ends it, and so does a logout of
its user that names that refresh token or names none; an empty string is none. -/
def Event.Ends (userId : Nat) (refreshToken : String) : Event → Prop
  | .loggedIn _ _ => False
  | .refreshed exchanged _ => exchanged = refreshToken
  | .loggedOut user named =>
      user = userId ∧ (named = none ∨ named = some "" ∨ named = some refreshToken)

def IssuedSince (kept : Event → Prop) (log : List Event) (userId : Nat)
    (response : TokenResponse) : Prop :=
  ∃ later event earlier, log = later ++ event :: earlier ∧
    Issues users earlier event userId response ∧ ∀ since ∈ later, kept since

def Issued : List Event → Nat → TokenResponse → Prop := IssuedSince users (fun _ => True)

/-- Issued, and not ended by any call since. -/
def Live (log : List Event) (userId : Nat) (response : TokenResponse) : Prop :=
  IssuedSince users (fun since => ¬ since.Ends userId response.refreshToken) log userId response

def Accepted (log : List Event) (now : Time) (accessToken : String) (userId : Nat) : Prop :=
  ∃ response, Live users log userId response ∧ response.accessToken = accessToken ∧
    now ≤ response.expiresAt

theorem issuedSince_nil (kept : Event → Prop) (userId : Nat) (response : TokenResponse) :
    ¬ IssuedSince users kept [] userId response := by
  rintro ⟨later, event, earlier, split, _⟩
  simp at split

theorem issuedSince_cons (kept : Event → Prop) (event : Event) (log : List Event) (userId : Nat)
    (response : TokenResponse) :
    IssuedSince users kept (event :: log) userId response ↔
      Issues users log event userId response ∨
        (IssuedSince users kept log userId response ∧ kept event) := by
  constructor
  · rintro ⟨later, issuer, earlier, split, issues, since⟩
    cases later with
    | nil =>
        obtain ⟨rfl, rfl⟩ := List.cons.inj split
        exact Or.inl issues
    | cons last later =>
        obtain ⟨rfl, rfl⟩ := List.cons.inj split
        obtain ⟨first, rest⟩ := List.forall_mem_cons.mp since
        exact Or.inr ⟨⟨later, issuer, earlier, rfl, issues, rest⟩, first⟩
  · rintro (issues | ⟨⟨later, issuer, earlier, rfl, issues, since⟩, first⟩)
    · exact ⟨[], event, log, rfl, issues, fun _ member => absurd member List.not_mem_nil⟩
    · exact ⟨event :: later, issuer, earlier, rfl, issues,
        List.forall_mem_cons.mpr ⟨first, since⟩⟩

theorem holder_of_issues (event : Event) (log : List Event) (userId : Nat)
    (response : TokenResponse) (issues : Issues users log event userId response) :
    holder users (event :: log) response.refreshToken = some userId := by
  have issued : event.issued users (holder users log) = some (userId, response) := issues
  simp only [holder, issued, if_true]

theorem holder_kept (event : Event) (log : List Event) (value : String)
    (other : ∀ userId response, Issues users log event userId response →
      response.refreshToken ≠ value) :
    holder users (event :: log) value = holder users log value := by
  cases issued : event.issued users (holder users log) with
  | none => simp only [holder, issued]
  | some grant => simp only [holder, issued, if_neg (other grant.1 grant.2 issued)]

end History

section Table

variable (settings : AuthSettings) (users : Table UserRow)

/-- The rows of the session table say what the log says. -/
structure Linked (log : List Event) (rows : List SessionToken) : Prop where
  tokens : (rows.map (·.tokenHash)).Nodup
  refreshTokens : (rows.map (·.refreshTokenHash)).Nodup
  owned : ∀ row ∈ rows, (users.get? row.userId).isSome = true
  fits : ∀ row ∈ rows, ∃ response, Fits settings row row.userId response
  held : ∀ row ∈ rows, ∀ value, row.refreshTokenHash = settings.hashToken value →
    holder users log value = some row.userId
  issued : ∀ userId response,
    Issued users log userId response ↔ ∃ row ∈ rows, Fits settings row userId response
  live : ∀ userId response, Live users log userId response ↔
    ∃ row ∈ rows, Fits settings row userId response ∧ row.isRevoked = false

structure Opened (log : List Event) (event : Event) (fresh : Option SessionToken) : Prop where
  issues : ∀ userId response, Issues users log event userId response ↔
    ∃ row, fresh = some row ∧ Fits settings row userId response
  owned : ∀ row, fresh = some row → (users.get? row.userId).isSome = true
  fits : ∀ row, fresh = some row → ∃ response, Fits settings row row.userId response
  live : ∀ row, fresh = some row → row.isRevoked = false

theorem fits_revokes (event : Event) (row : SessionToken) (userId : Nat)
    (response : TokenResponse) :
    Fits settings (event.revokes settings row) userId response ↔
      Fits settings row userId response := by
  constructor
  · rintro ⟨owner, access, refresh, expires⟩
    exact ⟨by simpa using owner, by simpa using access, by simpa using refresh,
      by simpa using expires⟩
  · rintro ⟨owner, access, refresh, expires⟩
    exact ⟨by simpa using owner, by simpa using access, by simpa using refresh,
      by simpa using expires⟩

variable (injective : Function.Injective settings.hashToken)

include injective in
theorem fits_unique (row : SessionToken) (userId userId' : Nat)
    (response response' : TokenResponse) (one : Fits settings row userId response)
    (other : Fits settings row userId' response') : userId = userId' ∧ response = response' := by
  refine ⟨one.owner.symm.trans other.owner, ?_⟩
  have access := injective (one.access.symm.trans other.access)
  have refresh := injective (one.refresh.symm.trans other.refresh)
  have expires := one.expires.symm.trans other.expires
  cases response
  cases response'
  cases access
  cases refresh
  cases expires
  rfl

include injective in
theorem hits_iff_ends (event : Event) (row : SessionToken) (userId : Nat)
    (response : TokenResponse) (fits : Fits settings row userId response) :
    event.hits settings row = true ↔ event.Ends userId response.refreshToken := by
  cases event with
  | loggedIn username given => simp [Event.hits, Event.Ends]
  | refreshed exchanged given =>
      simp only [Event.hits, Event.Ends, fits.refresh, beq_iff_eq]
      exact injective.eq_iff.trans eq_comm
  | loggedOut user named =>
      simp only [Event.hits, Event.Ends, fits.owner, Bool.and_eq_true, beq_iff_eq]
      refine and_congr eq_comm ?_
      cases named with
      | none => exact iff_of_true rfl (Or.inl rfl)
      | some value =>
          by_cases blank : value = ""
          · have none : truthy (some value) = none := by simp [truthy, blank]
            rw [none]
            exact iff_of_true rfl (Or.inr (Or.inl (congrArg some blank)))
          · have kept : truthy (some value) = some value := by simp [truthy, blank]
            rw [kept]
            simp only [fits.refresh, beq_iff_eq, injective.eq_iff, Option.some.injEq, reduceCtorEq,
              blank, false_or]
            exact eq_comm

include injective in
theorem opened_of_fits (log : List Event) (event : Event) (row : SessionToken) (userId : Nat)
    (response : TokenResponse)
    (issued : event.issued users (holder users log) = some (userId, response))
    (fits : Fits settings row userId response) (live : row.isRevoked = false)
    (owned : (users.get? userId).isSome = true) :
    Opened settings users log event (some row) where
  issues userId' response' := by
    rw [Issues, issued]
    constructor
    · intro same
      cases same
      exact ⟨row, rfl, fits⟩
    · rintro ⟨other, same, fits'⟩
      cases same
      obtain ⟨rfl, rfl⟩ := fits_unique settings injective row userId userId' response response'
        fits fits'
      rfl
  owned other same := by
    cases same
    rwa [fits.owner]
  fits other same := by
    cases same
    exact ⟨response, rfl, fits.access, fits.refresh, fits.expires⟩
  live other same := by
    cases same
    exact live

theorem userNamed_present (username : String) (userId : Nat)
    (named : userNamed users username = some userId) : (users.get? userId).isSome = true := by
  obtain ⟨entry, found, rfl⟩ := Option.map_eq_some_iff.mp named
  rw [(Table.find?_some users _ entry found).1]
  rfl

include injective in
theorem opened_of_opens (db : AuthDb) (log : List Event) (event : Event)
    (fresh : Option SessionToken) (accounts : SameAccounts users db.users)
    (linked : Linked settings users log db.sessionTokens.rows)
    (opens : Opens settings db event fresh) : Opened settings users log event fresh := by
  cases opens with
  | login username response row userId named fits live =>
      rw [accounts.named] at named
      have issued : (Event.loggedIn username response).issued users (holder users log) =
          some (userId, response) := by
        rw [Event.issued, named, Option.map_some]
      exact opened_of_fits settings users injective log _ row userId response issued fits live
        (userNamed_present users username userId named)
  | refresh exchanged response row record member hash fits live =>
      have issued : (Event.refreshed exchanged response).issued users (holder users log) =
          some (record.userId, response) := by
        rw [Event.issued, linked.held record member exchanged hash, Option.map_some]
      exact opened_of_fits settings users injective log _ row record.userId response issued fits
        live (linked.owned record member)
  | logout userId named =>
      refine ⟨fun userId' response => ?_, ?_, ?_, ?_⟩
      · simp [Issues, Event.issued]
      · exact fun row impossible => nomatch impossible
      · exact fun row impossible => nomatch impossible
      · exact fun row impossible => nomatch impossible

theorem exists_row (event : Event) (rows : List SessionToken) (fresh : Option SessionToken)
    (holds : SessionToken → Prop) :
    (∃ row ∈ rows.map (event.revokes settings) ++ fresh.toList, holds row) ↔
      (∃ row ∈ rows, holds (event.revokes settings row)) ∨ ∃ row, fresh = some row ∧ holds row := by
  simp only [List.mem_append, List.mem_map, Option.mem_toList]
  constructor
  · rintro ⟨row, ⟨before, member, rfl⟩ | new, held⟩
    · exact Or.inl ⟨before, member, held⟩
    · exact Or.inr ⟨row, new, held⟩
  · rintro (⟨row, member, held⟩ | ⟨row, new, held⟩)
    · exact ⟨event.revokes settings row, Or.inl ⟨row, member, rfl⟩, held⟩
    · exact ⟨row, Or.inr new, held⟩

theorem forall_row (event : Event) (rows : List SessionToken) (fresh : Option SessionToken)
    (holds : SessionToken → Prop) (old : ∀ row ∈ rows, holds (event.revokes settings row))
    (new : ∀ row, fresh = some row → holds row) :
    ∀ row ∈ rows.map (event.revokes settings) ++ fresh.toList, holds row := by
  intro row member
  rcases List.mem_append.mp member with member | member
  · obtain ⟨before, inside, rfl⟩ := List.mem_map.mp member
    exact old before inside
  · exact new row (Option.mem_toList.mp member)

theorem nodup_column (event : Event) (rows : List SessionToken) (fresh : Option SessionToken)
    (column : SessionToken → String)
    (kept : ∀ row, column (event.revokes settings row) = column row)
    (distinct : (rows.map column).Nodup)
    (free : ∀ row, fresh = some row → column row ∉ rows.map column) :
    ((rows.map (event.revokes settings) ++ fresh.toList).map column).Nodup := by
  rw [List.map_append, map_revokes settings column event rows kept, List.nodup_append]
  refine ⟨distinct, ?_, ?_⟩
  · cases fresh <;> simp
  · intro hash member hash' member' same
    obtain ⟨row, new, rfl⟩ := List.mem_map.mp member'
    exact free row (Option.mem_toList.mp new) (same ▸ member)

include injective in
theorem holder_event (log : List Event) (event : Event) (rows : List SessionToken)
    (fresh : Option SessionToken) (linked : Linked settings users log rows)
    (opened : Opened settings users log event fresh)
    (free : ∀ row, fresh = some row →
      row.refreshTokenHash ∉ rows.map (·.refreshTokenHash)) :
    ∀ row ∈ rows.map (event.revokes settings) ++ fresh.toList, ∀ value,
      row.refreshTokenHash = settings.hashToken value →
        holder users (event :: log) value = some row.userId := by
  apply forall_row
  · intro row member value hash
    rw [revokes_refreshTokenHash] at hash
    rw [revokes_userId, holder_kept, linked.held row member value hash]
    rintro userId response issues rfl
    obtain ⟨new, same, fits⟩ := (opened.issues userId response).mp issues
    exact free new same (List.mem_map.mpr ⟨row, member, hash.trans fits.refresh.symm⟩)
  · intro row new value hash
    obtain ⟨response, fits⟩ := opened.fits row new
    have named : value = response.refreshToken := injective (hash.symm.trans fits.refresh)
    rw [named]
    exact holder_of_issues users event log row.userId response
      ((opened.issues row.userId response).mpr ⟨row, new, fits⟩)

include injective in
theorem linked_event (log : List Event) (event : Event) (rows : List SessionToken)
    (fresh : Option SessionToken) (linked : Linked settings users log rows)
    (opened : Opened settings users log event fresh)
    (tokenFree : ∀ row, fresh = some row → row.tokenHash ∉ rows.map (·.tokenHash))
    (refreshTokenFree : ∀ row, fresh = some row →
      row.refreshTokenHash ∉ rows.map (·.refreshTokenHash)) :
    Linked settings users (event :: log)
      (rows.map (event.revokes settings) ++ fresh.toList) where
  tokens := nodup_column settings event rows fresh (·.tokenHash)
    (revokes_tokenHash settings event) linked.tokens tokenFree
  refreshTokens := nodup_column settings event rows fresh (·.refreshTokenHash)
    (revokes_refreshTokenHash settings event) linked.refreshTokens refreshTokenFree
  owned := by
    apply forall_row
    · intro row member
      rw [revokes_userId]
      exact linked.owned row member
    · exact opened.owned
  fits := by
    apply forall_row
    · intro row member
      obtain ⟨response, fits⟩ := linked.fits row member
      rw [revokes_userId]
      exact ⟨response, (fits_revokes settings event row row.userId response).mpr fits⟩
    · exact opened.fits
  held := holder_event settings users injective log event rows fresh linked opened
    refreshTokenFree
  issued userId response := by
    rw [exists_row, Issued, issuedSince_cons, and_true, opened.issues, or_comm]
    refine or_congr ?_ Iff.rfl
    simp only [fits_revokes]
    exact linked.issued userId response
  live userId response := by
    rw [exists_row, Live, issuedSince_cons, opened.issues, or_comm]
    refine or_congr ?_ ?_
    · simp only [fits_revokes, revokes_isRevoked, Bool.or_eq_false_iff]
      constructor
      · rintro ⟨live, kept⟩
        obtain ⟨row, member, fits, unrevoked⟩ := (linked.live userId response).mp live
        refine ⟨row, member, fits, unrevoked, Bool.eq_false_iff.mpr (fun hit => kept ?_)⟩
        exact (hits_iff_ends settings injective event row userId response fits).mp hit
      · rintro ⟨row, member, fits, unrevoked, missed⟩
        refine ⟨(linked.live userId response).mpr ⟨row, member, fits, unrevoked⟩, ?_⟩
        intro ends
        have hit := (hits_iff_ends settings injective event row userId response fits).mpr ends
        exact Bool.false_ne_true (missed.symm.trans hit)
    · constructor
      · rintro ⟨row, new, fits⟩
        exact ⟨row, new, fits, opened.live row new⟩
      · rintro ⟨row, new, fits, _⟩
        exact ⟨row, new, fits⟩

structure Tracks (state : State) : Prop where
  accounts : SameAccounts users state.db.users
  linked : Linked settings users state.log state.db.sessionTokens.rows

theorem tracks_start : Tracks settings users (State.start users) := by
  refine ⟨SameAccounts.refl users, List.nodup_nil, List.nodup_nil, ?_, ?_, ?_, ?_, ?_⟩
  · exact fun row member => absurd member List.not_mem_nil
  · exact fun row member => absurd member List.not_mem_nil
  · exact fun row member => absurd member List.not_mem_nil
  · intro userId response
    refine iff_of_false (issuedSince_nil users _ userId response) ?_
    rintro ⟨row, member, _⟩
    cases member
  · intro userId response
    refine iff_of_false (issuedSince_nil users _ userId response) ?_
    rintro ⟨row, member, _⟩
    cases member

include injective in
theorem tracks_step (state : State) (call : Call) (tracks : Tracks settings users state) :
    Tracks settings users (step settings state call) := by
  rcases step_cases settings state call tracks.linked.refreshTokens with
    ⟨refused, log⟩ | ⟨event, fresh, wrote, log⟩
  · refine ⟨SameAccounts.trans _ _ _ tracks.accounts refused.accounts, ?_⟩
    rw [log, refused.sessions]
    exact tracks.linked
  · refine ⟨SameAccounts.trans _ _ _ tracks.accounts wrote.accounts, ?_⟩
    have opened := opened_of_opens settings users injective state.db state.log event fresh
      tracks.accounts tracks.linked wrote.opens
    rw [log, wrote.sessions]
    exact linked_event settings users injective state.log event _ fresh tracks.linked opened
      wrote.tokenFree wrote.refreshTokenFree

include injective in
theorem tracks_run (state : State) (calls : List Call) (tracks : Tracks settings users state) :
    Tracks settings users (run settings state calls) :=
  Runs.run_preserves (step settings) (Tracks settings users)
    (fun state call => tracks_step settings users injective state call) state calls tracks

end Table

end RetailApp.Auth
