import Mathlib.Algebra.Order.Floor.Ring
import Mathlib.Data.Rat.Floor
import Mathlib.Tactic.Linarith
import Mathlib.Tactic.Ring
import Mathlib.Tactic.FieldSimp
import Mathlib.Tactic.Push

/-! Fixed-point decimals: the rationals that are whole multiples of `1 / scale`,
and rounding onto them with ties away from zero. -/

namespace FixedPoint

def roundHalfUp (x : ℚ) : ℤ :=
  if 0 ≤ x then ⌊x + 1 / 2⌋ else -⌊-x + 1 / 2⌋

def quantize (scale : ℕ) (x : ℚ) : ℚ := roundHalfUp (x * scale) / scale

def OnGrid (scale : ℕ) (x : ℚ) : Prop := ∃ units : ℤ, x = units / scale

theorem roundHalfUp_int (n : ℤ) : roundHalfUp n = n := by
  have half (m : ℤ) : ⌊(m : ℚ) + 1 / 2⌋ = m := by
    rw [Int.floor_eq_iff]
    constructor <;> linarith
  unfold roundHalfUp
  split
  · exact half n
  · have negated : -(n : ℚ) = ((-n : ℤ) : ℚ) := by push_cast; ring
    rw [negated, half, neg_neg]

theorem roundHalfUp_nonneg (x : ℚ) (nonneg : 0 ≤ x) : 0 ≤ roundHalfUp x := by
  rw [roundHalfUp, if_pos nonneg]
  exact Int.floor_nonneg.mpr (by linarith)

theorem quantize_onGrid (scale : ℕ) (x : ℚ) : OnGrid scale (quantize scale x) :=
  ⟨roundHalfUp (x * scale), rfl⟩

theorem quantize_eq_self (scale : ℕ) (x : ℚ) (positive : 0 < scale) (grid : OnGrid scale x) :
    quantize scale x = x := by
  obtain ⟨units, rfl⟩ := grid
  have nonzero : (scale : ℚ) ≠ 0 := by exact_mod_cast positive.ne'
  rw [quantize, div_mul_cancel₀ _ nonzero, roundHalfUp_int]

theorem quantize_nonneg (scale : ℕ) (x : ℚ) (nonneg : 0 ≤ x) : 0 ≤ quantize scale x := by
  have scaled : 0 ≤ x * scale := mul_nonneg nonneg (Nat.cast_nonneg scale)
  have rounded : (0 : ℚ) ≤ roundHalfUp (x * scale) := by
    exact_mod_cast roundHalfUp_nonneg _ scaled
  exact div_nonneg rounded (Nat.cast_nonneg scale)

theorem onGrid_zero (scale : ℕ) : OnGrid scale 0 := ⟨0, by simp⟩

theorem OnGrid.add {scale : ℕ} {x y : ℚ} (left : OnGrid scale x) (right : OnGrid scale y) :
    OnGrid scale (x + y) := by
  obtain ⟨m, rfl⟩ := left
  obtain ⟨n, rfl⟩ := right
  exact ⟨m + n, by push_cast; ring⟩

theorem OnGrid.neg {scale : ℕ} {x : ℚ} (grid : OnGrid scale x) : OnGrid scale (-x) := by
  obtain ⟨n, rfl⟩ := grid
  exact ⟨-n, by push_cast; ring⟩

theorem OnGrid.sub {scale : ℕ} {x y : ℚ} (left : OnGrid scale x) (right : OnGrid scale y) :
    OnGrid scale (x - y) := by
  rw [sub_eq_add_neg]
  exact left.add right.neg

theorem OnGrid.sum {scale : ℕ} (xs : List ℚ) (grid : ∀ x ∈ xs, OnGrid scale x) :
    OnGrid scale xs.sum := by
  induction xs with
  | nil => exact onGrid_zero scale
  | cons x xs ih =>
      rw [List.sum_cons]
      exact (grid x List.mem_cons_self).add
        (ih (fun y member => grid y (List.mem_cons_of_mem x member)))

end FixedPoint
