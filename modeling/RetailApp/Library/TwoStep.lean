import RetailApp.Library.Runs
import RetailApp.Library.Transaction

/-! Requests that take two steps, each atomic: one reads the tables and plans, one commits the
plan. Between its two steps a request holds a plan made from tables that others go on
changing. Under which laws, and along which schedules, does the outcome equal that of
serving the requests that returned one after another? -/

open Transaction

structure Protocol (ρ σ ε α π : Type) where
  read : ρ → σ → Except ε (α ⊕ π)
  commit : π → Session σ ε α

namespace Protocol

variable {ρ σ ε α π : Type}

inductive Event (ρ : Type) where
  | start (request : ρ)
  | finish (position : Nat)

/-- The shared tables, the plans under way in the order of their reads, and the requests
that have returned in the order of their returns. -/
structure World (ρ σ α π : Type) where
  tables : σ
  inFlight : List (ρ × π)
  answered : List (ρ × α)

def World.idle (tables : σ) : World ρ σ α π := ⟨tables, [], []⟩

variable (protocol : Protocol ρ σ ε α π)

def serve (request : ρ) : Session σ ε α := do
  match ← attempt (protocol.read request (← get)) with
  | .inl answer => return answer
  | .inr plan => protocol.commit plan

def begin (world : World ρ σ α π) (request : ρ) : World ρ σ α π :=
  match protocol.read request world.tables with
  | .error _ => world
  | .ok (.inl answer) => { world with answered := world.answered ++ [(request, answer)] }
  | .ok (.inr plan) => { world with inFlight := world.inFlight ++ [(request, plan)] }

def conclude (world : World ρ σ α π) (position : Nat) : World ρ σ α π :=
  match world.inFlight[position]? with
  | none => world
  | some (request, plan) =>
      match protocol.commit plan world.tables with
      | .error _ tables =>
          { world with tables := tables, inFlight := world.inFlight.eraseIdx position }
      | .ok answer tables =>
          { tables := tables
            inFlight := world.inFlight.eraseIdx position
            answered := world.answered ++ [(request, answer)] }

def step (world : World ρ σ α π) : Event ρ → World ρ σ α π
  | .start request => protocol.begin world request
  | .finish position => protocol.conclude world position

def run (world : World ρ σ α π) (schedule : List (Event ρ)) : World ρ σ α π :=
  Runs.run protocol.step world schedule

/-- The plan an event commits, when there is one and its commit goes through. -/
def committing (world : World ρ σ α π) : Event ρ → Option π
  | .start _ => none
  | .finish position =>
      match world.inFlight[position]? with
      | none => none
      | some (_, plan) =>
          match protocol.commit plan world.tables with
          | .error _ _ => none
          | .ok _ _ => some plan

def committed : World ρ σ α π → List (Event ρ) → List π
  | _, [] => []
  | world, event :: schedule =>
      (protocol.committing world event).toList ++ committed (protocol.step world event) schedule

def restrict (admits : ρ → Prop) : Protocol {request : ρ // admits request} σ ε α π where
  read := fun request => protocol.read request.1
  commit := protocol.commit

inductive Served : σ → List ρ → σ → Prop
  | nil (tables : σ) : Served tables [] tables
  | cons (tables between final : σ) (request : ρ) (requests : List ρ) (answer : α)
      (returned : protocol.serve request tables = .ok answer between)
      (rest : Served between requests final) : Served tables (request :: requests) final

theorem serve_ok (request : ρ) (tables written : σ) (answer : α) :
    protocol.serve request tables = .ok answer written ↔
      (protocol.read request tables = .ok (.inl answer) ∧ written = tables) ∨
        ∃ plan, protocol.read request tables = .ok (.inr plan) ∧
          protocol.commit plan tables = .ok answer written := by
  cases outcome : protocol.read request tables with
  | error raised =>
      simp [serve, run_bind, outcome]
  | ok seen =>
      cases seen with
      | inl early =>
          simp [serve, run_bind, outcome, eq_comm]
      | inr plan =>
          simp [serve, run_bind, outcome]

theorem served_append (tables between final : σ) (first second : List ρ)
    (early : protocol.Served tables first between) (late : protocol.Served between second final) :
    protocol.Served tables (first ++ second) final := by
  induction early with
  | nil => exact late
  | cons _ _ _ request requests answer returned _ ih =>
      exact .cons _ _ _ request _ answer returned (ih late)

theorem served_snoc (tables between final : σ) (requests : List ρ) (request : ρ) (answer : α)
    (early : protocol.Served tables requests between)
    (returned : protocol.serve request between = .ok answer final) :
    protocol.Served tables (requests ++ [request]) final :=
  protocol.served_append tables between final requests [request] early
    (.cons _ _ _ request [] answer returned (.nil final))

/-- Everything an event can do: the plan it commits, if any, and the world it leads to. -/
inductive Stepped (world : World ρ σ α π) : Event ρ → Option π → World ρ σ α π → Prop
  | refused (request : ρ) (raised : ε)
      (outcome : protocol.read request world.tables = .error raised) :
      Stepped world (.start request) none world
  | answered (request : ρ) (answer : α)
      (outcome : protocol.read request world.tables = .ok (.inl answer)) :
      Stepped world (.start request) none
        { world with answered := world.answered ++ [(request, answer)] }
  | planned (request : ρ) (plan : π)
      (outcome : protocol.read request world.tables = .ok (.inr plan)) :
      Stepped world (.start request) none
        { world with inFlight := world.inFlight ++ [(request, plan)] }
  | missing (position : Nat) (entry : world.inFlight[position]? = none) :
      Stepped world (.finish position) none world
  | raised (position : Nat) (request : ρ) (plan : π) (raised : ε) (tables : σ)
      (entry : world.inFlight[position]? = some (request, plan))
      (outcome : protocol.commit plan world.tables = .error raised tables) :
      Stepped world (.finish position) none
        ⟨tables, world.inFlight.eraseIdx position, world.answered⟩
  | committed (position : Nat) (request : ρ) (plan : π) (answer : α) (tables : σ)
      (entry : world.inFlight[position]? = some (request, plan))
      (outcome : protocol.commit plan world.tables = .ok answer tables) :
      Stepped world (.finish position) (some plan)
        ⟨tables, world.inFlight.eraseIdx position, world.answered ++ [(request, answer)]⟩

theorem step_stepped (world : World ρ σ α π) (event : Event ρ) :
    protocol.Stepped world event (protocol.committing world event) (protocol.step world event) := by
  cases event with
  | start request =>
      simp only [step, begin, committing]
      split
      · exact .refused request _ ‹_›
      · exact .answered request _ ‹_›
      · exact .planned request _ ‹_›
  | finish position =>
      simp only [step, conclude, committing]
      split
      · exact .missing position ‹_›
      · rename_i request plan entry
        split
        · exact .raised position request plan _ _ entry ‹_›
        · exact .committed position request plan _ _ entry ‹_›

section Serialization

/-! `agree` compares the shared tables with those of the requests served so far one after
another; `later` is what time does to the shared tables; a quiet plan changes nothing that
`agree` sees; `calm` is the condition under which any other plan may still be committed. -/

variable (start : σ) (agree later : σ → σ → Prop) (quiet : π → Bool) (calm : π → σ → Prop)

/-- Where a plan comes from: a read of earlier tables, which agreed with served requests. -/
def Origin (request : ρ) (plan : π) (tables : σ) : Prop :=
  ∃ seen served final, protocol.Served start served final ∧ agree seen final ∧
    later seen tables ∧ protocol.read request seen = .ok (.inr plan)

structure Laws : Prop where
  refl : ∀ tables, later tables tables
  trans : ∀ first second third, later first second → later second third → later first third
  atOnce : ∀ request tables final answer, agree tables final →
    protocol.read request tables = .ok (.inl answer) →
    ∃ answer' final', protocol.serve request final = .ok answer' final' ∧ agree tables final'
  quietRead : ∀ request tables final plan, agree tables final →
    protocol.read request tables = .ok (.inr plan) → quiet plan = true →
    ∃ answer' final', protocol.serve request final = .ok answer' final' ∧ agree tables final'
  quietCommit : ∀ request plan tables final,
    protocol.Origin start agree later request plan tables → agree tables final →
    quiet plan = true →
    ∃ answer tables', protocol.commit plan tables = .ok answer tables' ∧
      later tables tables' ∧ agree tables' final
  commit : ∀ request plan tables served final answer tables',
    protocol.Origin start agree later request plan tables → agree tables final →
    protocol.Served start served final → quiet plan = false → calm plan tables →
    protocol.commit plan tables = .ok answer tables' →
    later tables tables' ∧ ∃ served' final', served'.Perm (request :: served) ∧
      protocol.Served start served' final' ∧ agree tables' final'
  raises : ∀ request plan tables raised tables',
    protocol.Origin start agree later request plan tables →
    protocol.commit plan tables = .error raised tables' → tables' = tables
  exact : ∀ request plan tables final answer tables' final',
    protocol.Origin start agree later request plan tables → agree tables final →
    protocol.commit plan tables = .ok answer tables' → agree tables' final' → calm plan tables

/-- The commit of a plan that goes through finds the tables calm. -/
def Calm (world : World ρ σ α π) : Event ρ → Prop
  | .start _ => True
  | .finish position => ∀ request plan answer tables,
      world.inFlight[position]? = some (request, plan) →
      protocol.commit plan world.tables = .ok answer tables → calm plan world.tables

/-- The requests that returned and the quiet ones still under way, served one after another
in some order, lead to tables that agree with the shared ones. -/
def Serial (world : World ρ σ α π) : Prop :=
  ∃ served final, served.Perm (world.answered.map (·.1) ++
      (world.inFlight.filter (fun entry => quiet entry.2)).map (·.1)) ∧
    protocol.Served start served final ∧ agree world.tables final

/-- A world that some serial order explains, with plans from worlds of this kind. -/
structure Explained (world : World ρ σ α π) : Prop where
  serial : protocol.Serial start agree quiet world
  origins : ∀ entry ∈ world.inFlight,
    protocol.Origin start agree later entry.1 entry.2 world.tables

variable {start agree later quiet calm}

theorem Origin.later_tables (laws : protocol.Laws start agree later quiet calm) (request : ρ)
    (plan : π) (tables tables' : σ) (origin : protocol.Origin start agree later request plan tables)
    (later' : later tables tables') : protocol.Origin start agree later request plan tables' := by
  obtain ⟨seen, served, final, runs, agrees, since, planned⟩ := origin
  exact ⟨seen, served, final, runs, agrees, laws.trans _ _ _ since later', planned⟩

theorem erase_quiet (quiet : π → Bool) (inFlight : List (ρ × π)) (position : Nat) (request : ρ)
    (plan : π) (entry : inFlight[position]? = some (request, plan)) :
    ((inFlight.filter (fun entry => quiet entry.2)).map (·.1)).Perm
      ((if quiet plan = true then [request] else []) ++
        ((inFlight.eraseIdx position).filter (fun entry => quiet entry.2)).map (·.1)) := by
  have inside := (List.getElem?_eq_some_iff.mp entry)
  obtain ⟨bound, at_position⟩ := inside
  have perm : inFlight.Perm ((request, plan) :: inFlight.eraseIdx position) := by
    have split := List.getElem_cons_eraseIdx_perm bound
    rw [at_position] at split
    exact split.symm
  refine ((perm.filter _).map _).trans ?_
  by_cases silent : quiet plan = true
  · simp [silent]
  · simp [silent]

theorem step_explained (laws : protocol.Laws start agree later quiet calm)
    (world : World ρ σ α π) (event : Event ρ) (calmly : protocol.Calm calm world event)
    (explained : protocol.Explained start agree later quiet world) :
    protocol.Explained start agree later quiet (protocol.step world event) := by
  obtain ⟨⟨served, final, perm, runs, agrees⟩, origins⟩ := explained
  have remaining (position : Nat) (tables : σ) (since : later world.tables tables) :
      ∀ entry ∈ world.inFlight.eraseIdx position,
        protocol.Origin start agree later entry.1 entry.2 tables := by
    intro entry member
    exact (origins entry (List.mem_of_mem_eraseIdx member)).later_tables protocol laws _ _ _ _ since
  have stepped := protocol.step_stepped world event
  generalize protocol.committing world event = commits, protocol.step world event = world'
    at stepped ⊢
  cases stepped with
  | refused request raised outcome => exact ⟨⟨served, final, perm, runs, agrees⟩, origins⟩
  | answered request answer outcome =>
      obtain ⟨answer', final', returned, agrees'⟩ :=
        laws.atOnce request world.tables final answer agrees outcome
      refine ⟨⟨served ++ [request], final', ?_, protocol.served_snoc _ _ _ _ _ _ runs returned,
        agrees'⟩, origins⟩
      simp only [List.map_append, List.map_cons, List.map_nil, List.append_assoc]
      exact (List.perm_append_comm.trans (perm.cons request)).trans List.perm_middle.symm
  | planned request plan outcome =>
      have origin : protocol.Origin start agree later request plan world.tables :=
        ⟨world.tables, served, final, runs, agrees, laws.refl _, outcome⟩
      have allOrigins : ∀ entry ∈ world.inFlight ++ [(request, plan)],
          protocol.Origin start agree later entry.1 entry.2 world.tables := by
        intro entry member
        rcases List.mem_append.mp member with old | new
        · exact origins entry old
        · obtain rfl := List.mem_singleton.mp new
          exact origin
      cases silent : quiet plan with
      | false =>
          refine ⟨⟨served, final, ?_, runs, agrees⟩, allOrigins⟩
          simpa [List.filter_append, silent] using perm
      | true =>
          obtain ⟨answer', final', returned, agrees'⟩ :=
            laws.quietRead request world.tables final plan agrees outcome silent
          refine ⟨⟨served ++ [request], final', ?_, protocol.served_snoc _ _ _ _ _ _ runs returned,
            agrees'⟩, allOrigins⟩
          simp only [List.filter_append, List.filter_cons, silent, if_true, List.filter_nil,
            List.map_append, List.map_cons, List.map_nil, ← List.append_assoc]
          exact perm.append_right [request]
  | missing position entry => exact ⟨⟨served, final, perm, runs, agrees⟩, origins⟩
  | raised position request plan raised tables entry outcome =>
      have origin := origins (request, plan) (List.mem_of_getElem? entry)
      have erased := erase_quiet quiet world.inFlight position request plan entry
      cases silent : quiet plan with
      | true =>
          obtain ⟨answer, tables', returned, _⟩ :=
            laws.quietCommit request plan world.tables final origin agrees silent
          cases outcome.symm.trans returned
      | false =>
          obtain rfl := laws.raises request plan world.tables raised tables origin outcome
          rw [silent, if_neg Bool.false_ne_true, List.nil_append] at erased
          exact ⟨⟨served, final, perm.trans (erased.append_left _), runs, agrees⟩,
            remaining position world.tables (laws.refl _)⟩
  | committed position request plan answer tables entry outcome =>
      have origin := origins (request, plan) (List.mem_of_getElem? entry)
      have erased := erase_quiet quiet world.inFlight position request plan entry
      cases silent : quiet plan with
      | true =>
          obtain ⟨answer', tables', returned, since, agrees'⟩ :=
            laws.quietCommit request plan world.tables final origin agrees silent
          obtain ⟨rfl, rfl⟩ := EStateM.Result.ok.inj (outcome.symm.trans returned)
          refine ⟨⟨served, final, ?_, runs, agrees'⟩, remaining position tables since⟩
          rw [if_pos silent] at erased
          simp only [List.map_append, List.map_cons, List.map_nil, List.append_assoc]
          exact perm.trans (erased.append_left _)
      | false =>
          rw [silent, if_neg Bool.false_ne_true, List.nil_append] at erased
          obtain ⟨since, served', final', placed, runs', agrees'⟩ :=
            laws.commit request plan world.tables served final answer tables origin agrees runs
              silent (calmly request plan answer tables entry outcome) outcome
          refine ⟨⟨served', final', ?_, runs', agrees'⟩, remaining position tables since⟩
          simp only [List.map_append, List.map_cons, List.map_nil, List.append_assoc]
          refine placed.trans ?_
          refine ((perm.trans (erased.append_left _)).cons request).trans ?_
          exact List.perm_middle.symm

theorem idle_explained (agrees : agree start start) :
    protocol.Explained start agree later quiet (World.idle start) :=
  ⟨⟨[], start, List.Perm.refl _, .nil start, agrees⟩, fun _ member => by cases member⟩

theorem step_calm (laws : protocol.Laws start agree later quiet calm) (world : World ρ σ α π)
    (event : Event ρ) (explained : protocol.Explained start agree later quiet world)
    (serial : protocol.Serial start agree quiet (protocol.step world event)) :
    protocol.Calm calm world event := by
  cases event with
  | start request => trivial
  | finish position =>
      intro request plan answer tables entry outcome
      have origin := explained.origins (request, plan) (List.mem_of_getElem? entry)
      obtain ⟨_, final, _, _, agrees⟩ := explained.serial
      obtain ⟨_, final', _, _, agrees'⟩ := serial
      have stepped : (protocol.step world (.finish position)).tables = tables := by
        simp only [step, conclude, entry, outcome]
      exact laws.exact request plan world.tables final answer tables final' origin agrees outcome
        (stepped ▸ agrees')

/-- A schedule has a serial order throughout exactly when it is calm. -/
theorem throughout_serial_iff (laws : protocol.Laws start agree later quiet calm)
    (world : World ρ σ α π) (schedule : List (Event ρ))
    (explained : protocol.Explained start agree later quiet world) :
    Runs.Throughout protocol.step (protocol.Serial start agree quiet) world schedule ↔
      Runs.Along protocol.step (protocol.Calm calm) world schedule := by
  induction schedule generalizing world with
  | nil => exact iff_of_true explained.serial trivial
  | cons event schedule ih =>
      constructor
      · rintro ⟨_, later⟩
        have calmly := step_calm protocol laws world event explained
          (Runs.throughout_first _ _ _ _ later)
        have next := step_explained protocol laws world event calmly explained
        exact ⟨calmly, (ih (protocol.step world event) next).mp later⟩
      · rintro ⟨calmly, rest⟩
        have next := step_explained protocol laws world event calmly explained
        exact ⟨explained.serial, (ih (protocol.step world event) next).mpr rest⟩

end Serialization

end Protocol
