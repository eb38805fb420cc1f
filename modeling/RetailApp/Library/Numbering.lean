import Mathlib

/-! Lists of version numbers: what makes the numbers of a list exactly 1 to n. -/

namespace Numbering

theorem le_foldr_max (numbers : List Nat) (number : Nat) (member : number ∈ numbers) :
    number ≤ numbers.foldr max 0 := by
  induction numbers with
  | nil => cases member
  | cons head tail ih =>
      rw [List.foldr_cons]
      rcases List.mem_cons.mp member with here | later
      · omega
      · have bound := ih later
        omega

theorem foldr_max_mem (numbers : List Nat) (nonempty : numbers ≠ []) :
    numbers.foldr max 0 ∈ numbers := by
  induction numbers with
  | nil => exact (nonempty rfl).elim
  | cons head tail ih =>
      rw [List.foldr_cons]
      cases tail with
      | nil => simp
      | cons second rest =>
          have highest := ih (List.cons_ne_nil second rest)
          rcases max_choice head ((second :: rest).foldr max 0) with first | other
          · rw [first]
            exact List.mem_cons_self
          · rw [other]
            exact List.mem_cons_of_mem head highest

theorem mem_of_closed (numbers : List Nat)
    (closed : ∀ number, number + 2 ∈ numbers → number + 1 ∈ numbers) (highest below : Nat)
    (member : highest ∈ numbers) (positive : 1 ≤ below) (bound : below ≤ highest) :
    below ∈ numbers := by
  induction highest with
  | zero => omega
  | succ previous ih =>
      by_cases here : below = previous + 1
      · rwa [here]
      · cases previous with
        | zero => omega
        | succ number => exact ih (closed number member) (by omega)

/-- Distinct positive numbers, with every number the one below it, are exactly 1 to n. -/
theorem perm_range_of_closed (numbers : List Nat) (distinct : numbers.Nodup)
    (positive : ∀ number ∈ numbers, 1 ≤ number)
    (closed : ∀ number, number + 2 ∈ numbers → number + 1 ∈ numbers) :
    numbers.Perm (List.range' 1 numbers.length) := by
  have upTo : numbers.Perm (List.range' 1 (numbers.foldr max 0)) := by
    rw [List.perm_ext_iff_of_nodup distinct List.nodup_range']
    intro number
    rw [List.mem_range'_1]
    constructor
    · intro member
      have low := positive number member
      have high := le_foldr_max numbers number member
      omega
    · rintro ⟨low, high⟩
      have nonempty : numbers ≠ [] := by
        rintro rfl
        simp only [List.foldr_nil] at high
        omega
      exact mem_of_closed numbers closed _ number (foldr_max_mem numbers nonempty) low (by omega)
  have count := upTo.length_eq
  rw [List.length_range'] at count
  rwa [← count] at upTo

end Numbering
