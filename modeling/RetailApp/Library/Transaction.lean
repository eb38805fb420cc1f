import Mathlib

/-! Database sessions as state-and-exception programs. A write acts on the session's
tables at once and stays there when a later statement raises; only `transactional`
puts the tables back. -/

namespace Transaction

variable {σ ε α β γ : Type}

abbrev Session (σ ε α : Type) := EStateM ε σ α

/-- Commits on normal exit; on an exception, restores the tables and raises it again. -/
def transactional (body : Session σ ε α) : Session σ ε α := fun tables =>
  match body tables with
  | .ok value written => .ok value written
  | .error raised _ => .error raised tables

/-- A computation that only reads: it may raise, and it writes nothing. -/
def attempt (result : Except ε α) : Session σ ε α := fun tables =>
  match result with
  | .ok value => .ok value tables
  | .error raised => .error raised tables

def raiseIf (bad : Prop) [Decidable bad] (raised : ε) : Except ε Unit :=
  if bad then .error raised else .ok ()

def orRaise (found : Option α) (raised : ε) : Except ε α :=
  match found with
  | some value => .ok value
  | none => .error raised

/-- The tables a session leaves behind, whether it returned or raised. -/
def after (session : Session σ ε α) (tables : σ) : σ :=
  match session tables with
  | .ok _ written => written
  | .error _ written => written

def reply (session : Session σ ε α) (tables : σ) : Except ε α :=
  match session tables with
  | .ok value _ => .ok value
  | .error raised _ => .error raised

def verdict (session : Session σ ε α) (tables : σ) : Except ε Unit :=
  (reply session tables).map (fun _ => ())

section Run

/-! What a session does when it runs, one construct at a time. -/

variable (tables : σ)

@[simp] theorem run_pure (value : α) :
    (pure value : Session σ ε α) tables = .ok value tables := rfl

@[simp] theorem run_get : (get : Session σ ε σ) tables = .ok tables tables := rfl

@[simp] theorem run_set (replacement : σ) :
    (set replacement : Session σ ε PUnit) tables = .ok ⟨⟩ replacement := rfl

@[simp] theorem run_modify (update : σ → σ) :
    (modify update : Session σ ε PUnit) tables = .ok ⟨⟩ (update tables) := rfl

@[simp] theorem run_attempt_ok (value : α) :
    (attempt (.ok value) : Session σ ε α) tables = .ok value tables := rfl

@[simp] theorem run_attempt_error (raised : ε) :
    (attempt (.error raised) : Session σ ε α) tables = .error raised tables := rfl

theorem run_bind (first : Session σ ε α) (next : α → Session σ ε β) :
    (first >>= next) tables =
      match first tables with
      | .ok value written => next value written
      | .error raised written => .error raised written := by
  cases outcome : first tables <;> simp [bind, EStateM.bind, outcome]

theorem run_map (transform : α → β) (session : Session σ ε α) :
    (transform <$> session) tables =
      match session tables with
      | .ok value written => .ok (transform value) written
      | .error raised written => .error raised written := by
  cases outcome : session tables <;> simp [Functor.map, EStateM.map, outcome]

end Run

@[simp] theorem raiseIf_pos (bad : Prop) [Decidable bad] (raised : ε) (holds : bad) :
    raiseIf bad raised = .error raised := if_pos holds

@[simp] theorem raiseIf_neg (bad : Prop) [Decidable bad] (raised : ε) (fails : ¬ bad) :
    raiseIf bad raised = .ok () := if_neg fails

@[simp] theorem orRaise_some (value : α) (raised : ε) : orRaise (some value) raised = .ok value :=
  rfl

@[simp] theorem orRaise_none (raised : ε) :
    orRaise (none : Option α) raised = .error raised := rfl

theorem after_ok (session : Session σ ε α) (tables written : σ) (value : α)
    (returned : session tables = .ok value written) : after session tables = written := by
  rw [after, returned]

theorem after_error (session : Session σ ε α) (tables written : σ) (raised : ε)
    (failed : session tables = .error raised written) : after session tables = written := by
  rw [after, failed]

theorem outcome_cases (session : Session σ ε α) (tables : σ) :
    (∃ value, session tables = .ok value (after session tables) ∧
        reply session tables = .ok value) ∨
      ∃ raised, session tables = .error raised (after session tables) ∧
        reply session tables = .error raised := by
  unfold after reply
  cases outcome : session tables with
  | ok value written => exact Or.inl ⟨value, rfl, rfl⟩
  | error raised written => exact Or.inr ⟨raised, rfl, rfl⟩

theorem returns_of_isOk (session : Session σ ε α) (tables : σ)
    (returned : (reply session tables).isOk = true) :
    ∃ value, session tables = .ok value (after session tables) := by
  rcases outcome_cases session tables with ⟨value, outcome, _⟩ | ⟨raised, _, answer⟩
  · exact ⟨value, outcome⟩
  · rw [answer] at returned
    cases returned

theorem reply_attempt (checks : σ → Except ε α) (tables : σ) :
    reply (do attempt (checks (← get))) tables = checks tables := by
  cases outcome : checks tables <;> simp [reply, run_bind, outcome]

theorem raiseIf_ok (bad : Prop) [Decidable bad] (raised : ε) (value : Unit) :
    raiseIf bad raised = .ok value ↔ ¬ bad := by
  unfold raiseIf
  split <;> simp_all

theorem bind_except_ok (first : Except ε α) (next : α → Except ε β) (value : β) :
    (first >>= next) = .ok value ↔ ∃ middle, first = .ok middle ∧ next middle = .ok value := by
  cases first with
  | error raised => simp [bind, Except.bind]
  | ok middle => simp [bind, Except.bind]

theorem orRaise_ok (found : Option α) (raised : ε) (value : α) :
    orRaise found raised = .ok value ↔ found = some value := by
  cases found <;> simp [orRaise]

theorem pure_except_ok (given value : α) :
    (pure given : Except ε α) = .ok value ↔ given = value := by
  simp [pure, Except.pure]

theorem map_except_ok (transform : α → β) (result : Except ε α) (value : β) :
    result.map transform = .ok value ↔ ∃ given, result = .ok given ∧ transform given = value := by
  cases result <;> simp [Except.map]

theorem bind_except_done (first : Except ε α) (next : α → Except ε Unit)
    (done : ∀ value, first = .ok value → next value = .ok ()) :
    first >>= next = first.map (fun _ => ()) := by
  cases first with
  | error raised => rfl
  | ok value => exact done value rfl

theorem bind_except_congr (first : Except ε α) (next next' : α → Except ε β)
    (same : ∀ value, first = .ok value → next value = next' value) :
    first >>= next = first >>= next' := by
  cases first with
  | error raised => rfl
  | ok value => exact same value rfl

theorem mapM_except_ok (each : α → Except ε β) (inputs : List α) (outputs : List β) :
    inputs.mapM each = .ok outputs ↔
      List.Forall₂ (fun input output => each input = .ok output) inputs outputs := by
  induction inputs generalizing outputs with
  | nil => rw [List.mapM_nil, pure_except_ok, List.forall₂_nil_left_iff, eq_comm]
  | cons input inputs ih =>
      simp only [List.mapM_cons, bind_except_ok, pure_except_ok, ih]
      constructor
      · rintro ⟨output, first, rest, others, rfl⟩
        exact List.Forall₂.cons first others
      · intro related
        cases related with
        | cons first others => exact ⟨_, first, _, others, rfl⟩

theorem mapM_except_origin (each : α → Except ε β) (inputs : List α) (outputs : List β)
    (returned : inputs.mapM each = .ok outputs) (output : β) (member : output ∈ outputs) :
    ∃ input ∈ inputs, each input = .ok output := by
  have related := (mapM_except_ok each inputs outputs).mp returned
  induction related with
  | nil => cases member
  | cons first others ih =>
      rcases List.mem_cons.mp member with rfl | member
      · exact ⟨_, List.mem_cons_self, first⟩
      · obtain ⟨input, inside, gave⟩ := ih ((mapM_except_ok each _ _).mpr others) member
        exact ⟨input, List.mem_cons_of_mem _ inside, gave⟩

theorem mapM_bind_except_ok (first : α → Except ε β) (second : β → Except ε γ) (inputs : List α)
    (outputs : List γ) :
    inputs.mapM (fun input => first input >>= second) = .ok outputs ↔
      ∃ middle, inputs.mapM first = .ok middle ∧ middle.mapM second = .ok outputs := by
  induction inputs generalizing outputs with
  | nil => simp [pure_except_ok]
  | cons input inputs ih =>
      simp only [List.mapM_cons, bind_except_ok, pure_except_ok, ih]
      constructor
      · rintro ⟨output, ⟨value, one, two⟩, rest, ⟨values, ones, twos⟩, rfl⟩
        exact ⟨value :: values, ⟨value, one, values, ones, rfl⟩, by
          simp only [List.mapM_cons, bind_except_ok, pure_except_ok]
          exact ⟨output, two, rest, twos, rfl⟩⟩
      · rintro ⟨_, ⟨value, one, values, ones, rfl⟩, both⟩
        simp only [List.mapM_cons, bind_except_ok, pure_except_ok] at both
        obtain ⟨output, two, rest, twos, rfl⟩ := both
        exact ⟨output, ⟨value, one, two⟩, rest, ⟨values, ones, twos⟩, rfl⟩

theorem mapM_option_origin (each : α → Except ε β) (given : Option α) (stored : Option β)
    (returned : given.mapM each = .ok stored) (output : β) (member : output ∈ stored) :
    ∃ input ∈ given, each input = .ok output := by
  cases given with
  | none =>
      cases returned
      cases member
  | some input =>
      obtain ⟨value, gave, rfl⟩ := (map_except_ok some (each input) stored).mp returned
      obtain rfl := Option.some.inj (Option.mem_def.mp member)
      exact ⟨input, rfl, gave⟩

theorem mapM_option_isSome (each : α → Except ε β) (given : Option α) (stored : Option β)
    (returned : given.mapM each = .ok stored) : stored.isSome = given.isSome := by
  cases given with
  | none =>
      cases returned
      rfl
  | some input =>
      obtain ⟨value, _, rfl⟩ := (map_except_ok some (each input) stored).mp returned
      rfl

theorem bind_ok (first : Session σ ε α) (next : α → Session σ ε β) (tables written : σ)
    (value : β) :
    (first >>= next) tables = .ok value written ↔
      ∃ middle between, first tables = .ok middle between ∧
        next middle between = .ok value written := by
  cases outcome : first tables with
  | ok middle between => simp [run_bind, outcome]
  | error raised between => simp [run_bind, outcome]

theorem bind_error (first : Session σ ε α) (next : α → Session σ ε β) (tables written : σ)
    (raised : ε) :
    (first >>= next) tables = .error raised written ↔
      first tables = .error raised written ∨
        ∃ middle between, first tables = .ok middle between ∧
          next middle between = .error raised written := by
  cases outcome : first tables with
  | ok middle between => simp [run_bind, outcome]
  | error early between => simp [run_bind, outcome]

theorem pure_ok (given value : α) (tables written : σ) :
    (pure given : Session σ ε α) tables = .ok value written ↔ given = value ∧ tables = written := by
  simp

theorem map_ok (transform : α → β) (session : Session σ ε α) (tables written : σ) (value : β) :
    (transform <$> session) tables = .ok value written ↔
      ∃ given, session tables = .ok given written ∧ transform given = value := by
  cases outcome : session tables <;> simp [run_map, outcome, and_comm]

theorem map_error (transform : α → β) (session : Session σ ε α) (tables written : σ) (raised : ε) :
    (transform <$> session) tables = .error raised written ↔
      session tables = .error raised written := by
  cases outcome : session tables <;> simp [run_map, outcome]

theorem get_ok (seen tables written : σ) :
    (get : Session σ ε σ) tables = .ok seen written ↔ tables = seen ∧ tables = written := by
  simp

theorem set_ok (replacement tables written : σ) (value : PUnit) :
    (set replacement : Session σ ε PUnit) tables = .ok value written ↔ replacement = written := by
  simp

theorem modify_ok (update : σ → σ) (tables written : σ) (value : PUnit) :
    (modify update : Session σ ε PUnit) tables = .ok value written ↔ update tables = written := by
  simp

theorem attempt_ok (result : Except ε α) (tables written : σ) (value : α) :
    (attempt result : Session σ ε α) tables = .ok value written ↔
      result = .ok value ∧ tables = written := by
  cases result <;> simp

/-- An INSERT under a constraint: it raises where a row is in the way, and writes otherwise. -/
theorem guarded_ok (bad : σ → Prop) [∀ tables, Decidable (bad tables)] (raised : ε)
    (write : σ → σ) (answer : σ → α) (tables written : σ) (value : α) :
    (do
      let seen ← get
      attempt (raiseIf (bad seen) raised)
      set (write seen)
      return answer seen : Session σ ε α) tables = .ok value written ↔
      ¬ bad tables ∧ answer tables = value ∧ write tables = written := by
  simp only [bind_ok, get_ok, attempt_ok, set_ok, pure_ok, raiseIf_ok]
  constructor
  · rintro ⟨_, _, ⟨rfl, rfl⟩, _, _, ⟨good, rfl⟩, _, _, rfl, rfl, rfl⟩
    exact ⟨good, rfl, rfl⟩
  · rintro ⟨good, rfl, rfl⟩
    exact ⟨tables, tables, ⟨rfl, rfl⟩, (), tables, ⟨good, rfl⟩, ⟨⟩, _, rfl, rfl, rfl⟩

/-- A session that reads, checks what it read, and commits what the checks made of it. -/
theorem checked_ok (checks : σ → Except ε β) (commit : β → Session σ ε α) (tables written : σ)
    (value : α) :
    (do commit (← attempt (checks (← get)))) tables = .ok value written ↔
      ∃ plan, checks tables = .ok plan ∧ commit plan tables = .ok value written := by
  simp only [bind_ok, get_ok, attempt_ok]
  constructor
  · rintro ⟨_, _, ⟨rfl, rfl⟩, plan, _, ⟨passed, rfl⟩, committed⟩
    exact ⟨plan, passed, committed⟩
  · rintro ⟨plan, passed, committed⟩
    exact ⟨_, _, ⟨rfl, rfl⟩, plan, _, ⟨passed, rfl⟩, committed⟩

theorem checked_error (checks : σ → Except ε β) (commit : β → Session σ ε α)
    (tables written : σ) (raised : ε) :
    (do commit (← attempt (checks (← get)))) tables = .error raised written ↔
      (checks tables = .error raised ∧ tables = written) ∨
        ∃ plan, checks tables = .ok plan ∧ commit plan tables = .error raised written := by
  cases outcome : checks tables with
  | error early => simp [run_bind, outcome]
  | ok plan => simp [run_bind, outcome]

theorem after_map (transform : α → β) (session : Session σ ε α) (tables : σ) :
    after (transform <$> session) tables = after session tables := by
  unfold after
  cases outcome : session tables <;> simp [run_map, outcome]

theorem after_checked (checks : σ → Except ε β) (commit : β → Session σ ε α)
    (tables : σ) :
    after (do commit (← attempt (checks (← get)))) tables =
      match checks tables with
      | .ok plan => after (commit plan) tables
      | .error _ => tables := by
  cases outcome : checks tables <;> simp [after, run_bind, outcome]

theorem verdict_ok (session : Session σ ε α) (tables written : σ) (value : α)
    (returned : session tables = .ok value written) : verdict session tables = .ok () := by
  rw [verdict, reply, returned]
  rfl

theorem verdict_attempt (result : Except ε α) (next : α → Session σ ε β) (tables : σ) :
    verdict (attempt result >>= next) tables =
      result >>= fun value => verdict (next value) tables := by
  cases result <;> rfl

theorem verdict_checked (checks : σ → Except ε β) (commit : β → Session σ ε α) (tables : σ) :
    verdict (do commit (← attempt (checks (← get)))) tables =
      checks tables >>= fun plan => verdict (commit plan) tables :=
  verdict_attempt (checks tables) commit tables

theorem verdict_transactional (body : Session σ ε α) (tables : σ) :
    verdict (transactional body) tables = verdict body tables := by
  unfold verdict reply transactional
  cases body tables <;> rfl

theorem verdict_answer (session : Session σ ε α) (answer : α → β) (tables : σ) :
    verdict (do return answer (← session)) tables = verdict session tables := by
  unfold verdict reply
  cases outcome : session tables <;> simp [run_bind, outcome, Except.map]

theorem transactional_ok (body : Session σ ε α) (tables written : σ) (value : α) :
    transactional body tables = .ok value written ↔ body tables = .ok value written := by
  unfold transactional
  cases outcome : body tables <;> simp

theorem transactional_error (body : Session σ ε α) (tables written : σ) (raised : ε)
    (failed : transactional body tables = .error raised written) : written = tables := by
  unfold transactional at failed
  cases outcome : body tables <;> simp_all

/-- A loop of transactions, each of its own, stops at the first input that one refuses: what the
inputs before it committed stays. -/
theorem run_counted_loop (each : α → Session σ ε Unit) (passes : α → Bool) (raised : ε)
    (write : σ → α → σ) (ground : σ → Prop)
    (one : ∀ tables input, ground tables → each input tables =
      if passes input then .ok () (write tables input) else .error raised tables)
    (stays : ∀ tables input, ground tables → ground (write tables input))
    (inputs : List α) (count : Nat) (tables : σ) (grounded : ground tables) :
    (inputs.foldlM (fun count input => do each input; return count + 1) count) tables =
      if inputs.all passes then .ok (count + inputs.length) (inputs.foldl write tables)
      else .error raised ((inputs.takeWhile passes).foldl write tables) := by
  induction inputs generalizing count tables with
  | nil => rfl
  | cons input inputs ih =>
      rw [List.foldlM_cons, run_bind, run_bind, one tables input grounded]
      cases refused : passes input with
      | false => simp [refused]
      | true =>
          have rest := ih (count + 1) (write tables input) (stays tables input grounded)
          simp only [if_true, run_pure, rest, List.all_cons, refused, Bool.true_and,
            List.length_cons, List.foldl_cons, List.takeWhile_cons, Nat.add_assoc, Nat.add_comm 1]

def AllOrNothing (session : Session σ ε α) : Prop :=
  ∀ tables written raised, session tables = .error raised written → written = tables

theorem allOrNothing_transactional (body : Session σ ε α) : AllOrNothing (transactional body) :=
  fun tables written raised failed => transactional_error body tables written raised failed

theorem allOrNothing_attempt (result : Except ε α) :
    AllOrNothing (attempt result : Session σ ε α) := by
  intro tables written raised failed
  cases result <;> simp_all [attempt]

theorem allOrNothing_pure (value : α) : AllOrNothing (pure value : Session σ ε α) := by
  intro tables written raised failed
  cases failed

theorem allOrNothing_answer (session : Session σ ε α) (answer : α → β)
    (whole : AllOrNothing session) :
    AllOrNothing (do let value ← session; return answer value) := by
  intro tables written raised failed
  rcases (bind_error _ _ _ _ _).mp failed with failed | ⟨_, _, _, impossible⟩
  · exact whole tables written raised failed
  · cases impossible

theorem allOrNothing_map (session : Session σ ε α) (transform : α → β)
    (whole : AllOrNothing session) : AllOrNothing (transform <$> session) := by
  intro tables written raised failed
  exact whole tables written raised ((map_error _ _ _ _ _).mp failed)

theorem allOrNothing_checked (checks : σ → Except ε β) (commit : β → Session σ ε α)
    (whole : ∀ tables plan, checks tables = .ok plan →
      ∀ written raised, commit plan tables = .error raised written → written = tables) :
    AllOrNothing (do commit (← attempt (checks (← get)))) := by
  intro tables written raised failed
  rcases (checked_error checks commit tables written raised).mp failed with
    ⟨_, same⟩ | ⟨plan, passed, rejected⟩
  · exact same.symm
  · exact whole tables plan passed written raised rejected

/-- What a session leaves behind when it is all-or-nothing: the result of a return, or no change. -/
theorem after_cases (session : Session σ ε α) (whole : AllOrNothing session) (tables : σ) :
    (∃ value, session tables = .ok value (after session tables)) ∨
      after session tables = tables := by
  cases outcome : session tables with
  | ok value written =>
      left
      exact ⟨value, by rw [after_ok session tables written value outcome]⟩
  | error raised written =>
      right
      rw [after_error session tables written raised outcome]
      exact whole tables written raised outcome

def RaisesOnly (kind : ε → Prop) (session : Session σ ε α) (tables : σ) : Prop :=
  ∀ raised written, session tables = .error raised written → kind raised

section RaisesOnly

variable (kind : ε → Prop) (tables : σ)

theorem raisesOnly_pure (value : α) : RaisesOnly kind (pure value : Session σ ε α) tables := by
  intro raised written failed
  cases failed

theorem raisesOnly_attempt (result : Except ε α) (only : ∀ raised, result = .error raised → kind raised) :
    RaisesOnly kind (attempt result : Session σ ε α) tables := by
  intro raised written failed
  cases result with
  | ok value => cases failed
  | error early =>
      cases failed
      exact only raised rfl

theorem raisesOnly_bind (first : Session σ ε α) (next : α → Session σ ε β)
    (starts : RaisesOnly kind first tables)
    (continues : ∀ value written, first tables = .ok value written →
      RaisesOnly kind (next value) written) : RaisesOnly kind (first >>= next) tables := by
  intro raised written failed
  rcases (bind_error _ _ _ _ _).mp failed with early | ⟨value, between, returned, late⟩
  · exact starts raised written early
  · exact continues value between returned raised written late

theorem raisesOnly_after (first : Session σ ε α) (next : α → Session σ ε β) (value : α)
    (written : σ) (returned : first tables = .ok value written)
    (continues : RaisesOnly kind (next value) written) :
    RaisesOnly kind (first >>= next) tables := by
  apply raisesOnly_bind
  · intro raised failing failed
    rw [returned] at failed
    cases failed
  · intro other between again
    obtain ⟨rfl, rfl⟩ := EStateM.Result.ok.inj (returned.symm.trans again)
    exact continues

theorem raisesOnly_bind_attempt (result : Except ε α) (next : α → Session σ ε β)
    (only : ∀ raised, result = .error raised → kind raised)
    (continues : ∀ value, result = .ok value → RaisesOnly kind (next value) tables) :
    RaisesOnly kind (attempt result >>= next) tables := by
  apply raisesOnly_bind kind tables _ _ (raisesOnly_attempt kind tables result only)
  intro value written returned
  obtain ⟨passed, rfl⟩ := (attempt_ok _ _ _ _).mp returned
  exact continues value passed

theorem raisesOnly_transactional (body : Session σ ε α) (only : RaisesOnly kind body tables) :
    RaisesOnly kind (transactional body) tables := by
  intro raised written failed
  cases outcome : body tables with
  | ok value done => simp [transactional, outcome] at failed
  | error early done =>
      simp only [transactional, outcome, EStateM.Result.error.injEq] at failed
      exact failed.1 ▸ only early done outcome

end RaisesOnly

def FailsOnly (kind : ε → Prop) (result : Except ε α) : Prop :=
  ∀ raised, result = .error raised → kind raised

section FailsOnly

variable (kind : ε → Prop)

theorem failsOnly_ok (value : α) : FailsOnly kind (.ok value : Except ε α) := by
  intro raised failed
  cases failed

theorem failsOnly_imp (other : ε → Prop) (result : Except ε α) (only : FailsOnly kind result)
    (implies : ∀ raised, kind raised → other raised) : FailsOnly other result :=
  fun raised failed => implies raised (only raised failed)

theorem failsOnly_bind (first : Except ε α) (next : α → Except ε β)
    (starts : FailsOnly kind first) (continues : ∀ value, FailsOnly kind (next value)) :
    FailsOnly kind (first >>= next) := by
  intro raised failed
  cases outcome : first with
  | error early =>
      rw [outcome] at failed
      cases failed
      exact starts _ outcome
  | ok value =>
      rw [outcome] at failed
      exact continues value raised failed

theorem failsOnly_raiseIf (bad : Prop) [Decidable bad] (raised : ε) (ofKind : kind raised) :
    FailsOnly kind (raiseIf bad raised) := by
  intro other failed
  unfold raiseIf at failed
  split at failed
  · cases failed
    exact ofKind
  · cases failed

theorem failsOnly_orRaise (found : Option α) (raised : ε) (ofKind : kind raised) :
    FailsOnly kind (orRaise found raised) := by
  intro other failed
  cases found with
  | none =>
      cases failed
      exact ofKind
  | some value => cases failed

theorem failsOnly_mapM (each : α → Except ε β) (inputs : List α)
    (one : ∀ input, FailsOnly kind (each input)) : FailsOnly kind (inputs.mapM each) := by
  induction inputs with
  | nil => exact failsOnly_ok kind []
  | cons input inputs ih =>
      rw [List.mapM_cons]
      exact failsOnly_bind kind _ _ (one input) (fun _ =>
        failsOnly_bind kind _ _ ih (fun _ => failsOnly_ok kind _))

end FailsOnly

/-- A session that leaves one view of the tables as it was whenever it returns. -/
def Keeps {κ : Type} (view : σ → κ) (session : Session σ ε α) : Prop :=
  ∀ tables value written, session tables = .ok value written → view written = view tables

section Keeps

variable {κ : Type} (view : σ → κ)

theorem keeps_pure (value : α) : Keeps view (pure value : Session σ ε α) := by
  intro tables given written returned
  obtain ⟨_, rfl⟩ := (pure_ok value given tables written).mp returned
  rfl

theorem keeps_bind (first : Session σ ε α) (next : α → Session σ ε β) (kept : Keeps view first)
    (then_kept : ∀ value, Keeps view (next value)) : Keeps view (first >>= next) := by
  intro tables value written returned
  obtain ⟨middle, between, started, finished⟩ := (bind_ok _ _ _ _ _).mp returned
  exact (then_kept middle between value written finished).trans (kept tables middle between started)

theorem keeps_foldlM (step : β → α → Session σ ε β)
    (kept : ∀ acc input, Keeps view (step acc input))
    (inputs : List α) (acc : β) : Keeps view (inputs.foldlM step acc) := by
  induction inputs generalizing acc with
  | nil => exact keeps_pure view acc
  | cons input inputs ih => exact keeps_bind view _ _ (kept acc input) (fun middle => ih middle)

theorem keeps_forM (each : α → Session σ ε PUnit) (kept : ∀ input, Keeps view (each input))
    (inputs : List α) : Keeps view (inputs.forM each) := by
  induction inputs with
  | nil => exact keeps_pure view _
  | cons input inputs ih => exact keeps_bind view _ _ (kept input) (fun _ => ih)

end Keeps

end Transaction
