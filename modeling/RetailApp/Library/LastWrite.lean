import RetailApp.Library.Runs

/-! A value that some calls of a run overwrite: after the run it is what the last of them
wrote. -/

namespace LastWrite

variable {σ κ ν : Type} (step : σ → κ → σ)

/-- What the last call of a run that writes leaves, and the given value if none does. -/
def last (writes : σ → κ → Option ν) : σ → ν → List κ → ν
  | _, value, [] => value
  | state, value, call :: calls =>
      last writes (step state call) ((writes state call).getD value) calls

theorem shows_last (writes : σ → κ → Option ν) (shows : σ → ν → Prop)
    (each : ∀ state call value, shows state value →
      shows (step state call) ((writes state call).getD value))
    (state : σ) (value : ν) (calls : List κ) (initial : shows state value) :
    shows (Runs.run step state calls) (last step writes state value calls) := by
  induction calls generalizing state value with
  | nil => exact initial
  | cons call calls ih => exact ih (step state call) _ (each state call value initial)

theorem last_of_calls (writes : κ → Option ν) (state : σ) (value : ν) (calls : List κ) :
    last step (fun _ => writes) state value calls =
      (calls.filterMap writes).getLast?.getD value := by
  induction calls generalizing state value with
  | nil => rfl
  | cons call calls ih =>
      have rest := ih (step state call) ((writes call).getD value)
      rw [List.filterMap_cons]
      cases wrote : writes call with
      | none =>
          rw [wrote, Option.getD_none] at rest
          simpa only [last, wrote, Option.getD_none] using rest
      | some written =>
          rw [wrote] at rest
          simpa only [last, wrote, List.getLast?_cons, Option.getD_some] using rest

end LastWrite
