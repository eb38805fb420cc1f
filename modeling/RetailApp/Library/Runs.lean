import Mathlib

/-! Runs of a deterministic system: what every step preserves, and what a run keeps exactly
as long as each of its steps meets a condition. -/

namespace Runs

variable {σ κ : Type} (step : σ → κ → σ)

def run (state : σ) (calls : List κ) : σ := calls.foldl step state

def Along (condition : σ → κ → Prop) : σ → List κ → Prop
  | _, [] => True
  | state, call :: calls => condition state call ∧ Along condition (step state call) calls

/-- A property of every state a run goes through, its first and its last included. -/
def Throughout (holds : σ → Prop) : σ → List κ → Prop
  | state, [] => holds state
  | state, call :: calls => holds state ∧ Throughout holds (step state call) calls

theorem run_append (state : σ) (first second : List κ) :
    run step state (first ++ second) = run step (run step state first) second :=
  List.foldl_append

theorem run_preserves (holds : σ → Prop)
    (each : ∀ state call, holds state → holds (step state call)) (state : σ) (calls : List κ)
    (initial : holds state) : holds (run step state calls) := by
  induction calls generalizing state with
  | nil => exact initial
  | cons call calls ih => exact ih (step state call) (each state call initial)

theorem run_preserves_along (holds : σ → Prop) (condition : σ → κ → Prop)
    (each : ∀ state call, holds state → condition state call → holds (step state call))
    (state : σ) (calls : List κ) (along : Along step condition state calls)
    (initial : holds state) : holds (run step state calls) := by
  induction calls generalizing state with
  | nil => exact initial
  | cons call calls ih =>
      exact ih (step state call) along.2 (each state call initial along.1)

theorem throughout_first (holds : σ → Prop) (state : σ) (calls : List κ)
    (throughout : Throughout step holds state calls) : holds state := by
  cases calls with
  | nil => exact throughout
  | cons call calls => exact throughout.1

def Stays (holds : σ → Prop) (state : σ) (calls : List κ) : Prop :=
  ∀ early middle late, calls = early ++ middle ++ late → holds (run step state early) →
    holds (run step state (early ++ middle))

theorem stays_iff_along (holds : σ → Prop) (state : σ) (calls : List κ) :
    Stays step holds state calls ↔
      Along step (fun state call => holds state → holds (step state call)) state calls := by
  induction calls generalizing state with
  | nil =>
      refine iff_of_true ?_ trivial
      intro early middle late split initial
      obtain ⟨nil, _⟩ := List.append_eq_nil_iff.mp split.symm
      obtain ⟨rfl, rfl⟩ := List.append_eq_nil_iff.mp nil
      exact initial
  | cons call calls ih =>
      constructor
      · intro stays
        refine ⟨fun initial => stays [] [call] calls rfl initial, (ih (step state call)).mp ?_⟩
        rintro early middle late rfl
        exact stays (call :: early) middle late rfl
      · rintro ⟨first, rest⟩
        have later := (ih (step state call)).mpr rest
        intro early middle late split initial
        cases early with
        | cons head early =>
            obtain ⟨rfl, rfl⟩ := List.cons.inj split
            exact later early middle late rfl initial
        | nil =>
            cases middle with
            | nil => exact initial
            | cons head middle =>
                obtain ⟨rfl, rfl⟩ := List.cons.inj split
                exact later [] middle late rfl (first initial)

theorem along_forall {ι : Type} (condition : ι → σ → κ → Prop) (state : σ) (calls : List κ) :
    (∀ index, Along step (condition index) state calls) ↔
      Along step (fun state call => ∀ index, condition index state call) state calls := by
  induction calls generalizing state with
  | nil => exact iff_of_true (fun _ => trivial) trivial
  | cons call calls ih =>
      constructor
      · exact fun each => ⟨fun index => (each index).1, (ih (step state call)).mp
          (fun index => (each index).2)⟩
      · exact fun all index => ⟨all.1 index, (ih (step state call)).mpr all.2 index⟩

theorem guarded_iff_along (background holds : σ → Prop) (right condition : σ → κ → Prop)
    (stays : ∀ state call, background state → background (step state call))
    (each : ∀ state call, background state → holds state →
      ((right state call ∧ holds (step state call)) ↔ condition state call))
    (state : σ) (calls : List κ) (ground : background state) (initial : holds state) :
    Along step right state calls ∧ Throughout step holds state calls ↔
      Along step condition state calls := by
  induction calls generalizing state with
  | nil => exact iff_of_true ⟨trivial, initial⟩ trivial
  | cons call calls ih =>
      have one := each state call ground initial
      constructor
      · rintro ⟨⟨first, rest⟩, _, later⟩
        have next := throughout_first step holds (step state call) calls later
        exact ⟨one.mp ⟨first, next⟩,
          (ih (step state call) (stays state call ground) next).mp ⟨rest, later⟩⟩
      · rintro ⟨meets, rest⟩
        obtain ⟨first, next⟩ := one.mpr meets
        obtain ⟨rights, later⟩ :=
          (ih (step state call) (stays state call ground) next).mpr rest
        exact ⟨⟨first, rights⟩, initial, later⟩

theorem along_append (condition : σ → κ → Prop) (state : σ) (first second : List κ) :
    Along step condition state (first ++ second) ↔
      Along step condition state first ∧ Along step condition (run step state first) second := by
  induction first generalizing state with
  | nil => exact (and_iff_right trivial).symm
  | cons call first ih => exact (and_congr_right' (ih (step state call))).trans and_assoc.symm

theorem along_true (state : σ) (calls : List κ) : Along step (fun _ _ => True) state calls := by
  induction calls generalizing state with
  | nil => trivial
  | cons call calls ih => exact ⟨trivial, ih (step state call)⟩

theorem along_calls (condition : κ → Prop) (state : σ) (calls : List κ) :
    Along step (fun _ call => condition call) state calls ↔ ∀ call ∈ calls, condition call := by
  induction calls generalizing state with
  | nil => exact iff_of_true trivial (by nofun)
  | cons call calls ih =>
      rw [List.forall_mem_cons]
      exact and_congr_right' (ih (step state call))

/-- Where a step keeps a property exactly when it meets a condition, a run keeps it in
every state exactly when all its steps do. -/
theorem throughout_iff_along (background holds : σ → Prop) (condition : σ → κ → Prop)
    (stays : ∀ state call, background state → background (step state call))
    (each : ∀ state call, background state → holds state →
      (holds (step state call) ↔ condition state call))
    (state : σ) (calls : List κ) (ground : background state) (initial : holds state) :
    Throughout step holds state calls ↔ Along step condition state calls := by
  refine (and_iff_right (along_true step state calls)).symm.trans ?_
  refine guarded_iff_along step background holds (fun _ _ => True) condition stays ?_ state calls
    ground initial
  intro state call ground now
  rw [true_and]
  exact each state call ground now

theorem final_iff_along (background holds : σ → Prop) (condition : σ → κ → Prop)
    (stays : ∀ state call, background state → background (step state call))
    (each : ∀ state call, background state → holds state →
      (holds (step state call) ↔ condition state call))
    (lost : ∀ state call, background state → ¬ holds state → ¬ holds (step state call))
    (state : σ) (calls : List κ) (ground : background state) (initial : holds state) :
    holds (run step state calls) ↔ Along step condition state calls := by
  induction calls generalizing state with
  | nil => exact iff_of_true initial trivial
  | cons call calls ih =>
      have next := stays state call ground
      by_cases kept : holds (step state call)
      · exact (ih (step state call) next kept).trans
          (and_iff_right ((each state call ground initial).mp kept)).symm
      · refine iff_of_false ?_ (fun along => kept ((each state call ground initial).mpr along.1))
        have gone := run_preserves step (fun state => background state ∧ ¬ holds state)
          (fun state call both => ⟨stays state call both.1, lost state call both.1 both.2⟩)
          (step state call) calls ⟨next, kept⟩
        exact gone.2

theorem final_iff (background holds : σ → Prop) (condition : σ → κ → Prop)
    (stays : ∀ state call, background state → background (step state call))
    (each : ∀ state call, background state →
      (holds (step state call) ↔ holds state ∧ condition state call))
    (state : σ) (calls : List κ) (ground : background state) :
    holds (run step state calls) ↔ holds state ∧ Along step condition state calls := by
  induction calls generalizing state with
  | nil => exact (and_iff_left trivial).symm
  | cons call calls ih =>
      refine (ih (step state call) (stays state call ground)).trans ?_
      rw [each state call ground, and_assoc]
      rfl

theorem final_iff_brought (holds : σ → Prop) (brings : σ → κ → Prop)
    (each : ∀ state call, holds (step state call) ↔ holds state ∨ brings state call)
    (state : σ) (calls : List κ) :
    holds (run step state calls) ↔ holds state ∨
      ∃ early call late, calls = early ++ call :: late ∧ brings (run step state early) call := by
  induction calls generalizing state with
  | nil =>
      refine (or_iff_left ?_).symm
      rintro ⟨early, call, late, split, _⟩
      exact absurd split.symm (List.append_ne_nil_of_right_ne_nil _ (List.cons_ne_nil _ _))
  | cons first calls ih =>
      refine (ih (step state first)).trans ?_
      rw [each, or_assoc]
      refine or_congr_right ⟨?_, ?_⟩
      · rintro (now | ⟨early, call, late, rfl, later⟩)
        · exact ⟨[], first, calls, rfl, now⟩
        · exact ⟨first :: early, call, late, rfl, later⟩
      · rintro ⟨early, call, late, split, brought⟩
        cases early with
        | nil =>
            obtain ⟨rfl, rfl⟩ := List.cons.inj split
            exact .inl brought
        | cons head early =>
            obtain ⟨rfl, rfl⟩ := List.cons.inj split
            exact .inr ⟨early, call, late, rfl, brought⟩

theorem run_simulates {τ : Type} (other : τ → κ → τ) (relates : σ → τ → Prop)
    (condition : κ → Prop)
    (each : ∀ state abstract call, condition call → relates state abstract →
      relates (step state call) (other abstract call))
    (state : σ) (abstract : τ) (calls : List κ) (meets : ∀ call ∈ calls, condition call)
    (initial : relates state abstract) :
    relates (run step state calls) (run other abstract calls) := by
  induction calls generalizing state abstract with
  | nil => exact initial
  | cons call calls ih =>
      obtain ⟨now, later⟩ := List.forall_mem_cons.mp meets
      exact ih (step state call) (other abstract call) later
        (each state abstract call now initial)

def outputs {ω : Type} (out : σ → κ → List ω) : σ → List κ → List ω
  | _, [] => []
  | state, call :: calls => out state call ++ outputs out (step state call) calls

theorem run_appends {ω : Type} (out : σ → κ → List ω) (log : σ → List ω)
    (each : ∀ state call, log (step state call) = log state ++ out state call)
    (state : σ) (calls : List κ) :
    log (run step state calls) = log state ++ outputs step out state calls := by
  induction calls generalizing state with
  | nil => exact (List.append_nil _).symm
  | cons call calls ih =>
      rw [outputs, ← List.append_assoc, ← each]
      exact ih (step state call)

end Runs
