import Mathlib

/-! A similarity score of two numbers: 1 less their distance, measured against the larger of their
absolute values, or against a floor where both are smaller. -/

namespace Similarity

variable {K : Type} [Field K] [LinearOrder K] (floor left right : K)

def scale : K := max (max |left| |right|) floor

def score : K := 1 - |left - right| / scale floor left right

def Opposed : Prop := (left < 0 ∧ 0 < right) ∨ (right < 0 ∧ 0 < left)

theorem scale_comm : scale floor left right = scale floor right left := by
  rw [scale, scale, max_comm |left|]

theorem score_comm : score floor left right = score floor right left := by
  rw [score, score, scale_comm, abs_sub_comm]

theorem scale_pos (positive : 0 < floor) : 0 < scale floor left right :=
  positive.trans_le (le_max_right _ _)

theorem abs_left_le_scale : |left| ≤ scale floor left right :=
  (le_max_left _ _).trans (le_max_left _ _)

theorem abs_right_le_scale : |right| ≤ scale floor left right :=
  (le_max_right _ _).trans (le_max_left _ _)

variable [IsStrictOrderedRing K]

theorem distance_le_twice : |left - right| ≤ 2 * scale floor left right := by
  calc
    |left - right| ≤ |left| + |right| := abs_sub left right
    _ ≤ scale floor left right + scale floor left right :=
      add_le_add (abs_left_le_scale floor left right) (abs_right_le_scale floor left right)
    _ = 2 * scale floor left right := (two_mul _).symm

theorem distance_le_scale (together : ¬ Opposed left right) :
    |left - right| ≤ scale floor left right := by
  have onLeft := abs_left_le_scale floor left right
  have onRight := abs_right_le_scale floor left right
  rw [Opposed, not_or, not_and, not_and, not_lt, not_lt] at together
  obtain ⟨leftBelow, rightBelow⟩ := together
  rw [abs_sub_le_iff]
  rw [abs_le] at onLeft onRight
  rcases lt_trichotomy left 0 with below | zero | above
  · have rightToo := leftBelow below
    constructor <;> linarith
  · constructor <;> linarith
  · have rightToo : 0 ≤ right := not_lt.mp (fun below => absurd (rightBelow below) above.not_ge)
    constructor <;> linarith

theorem score_le_one (positive : 0 < floor) : score floor left right ≤ 1 :=
  sub_le_self 1 (div_nonneg (abs_nonneg _) (scale_pos floor left right positive).le)

theorem neg_one_le_score (positive : 0 < floor) : -1 ≤ score floor left right := by
  have ratio : |left - right| / scale floor left right ≤ 2 :=
    (div_le_iff₀ (scale_pos floor left right positive)).mpr (distance_le_twice floor left right)
  rw [score]
  linarith

theorem score_nonneg (positive : 0 < floor) (together : ¬ Opposed left right) :
    0 ≤ score floor left right := by
  have ratio : |left - right| / scale floor left right ≤ 1 :=
    (div_le_one₀ (scale_pos floor left right positive)).mpr
      (distance_le_scale floor left right together)
  rw [score]
  linarith

theorem score_eq_one_iff (positive : 0 < floor) : score floor left right = 1 ↔ left = right := by
  rw [score, sub_eq_self, div_eq_zero_iff, abs_eq_zero, sub_eq_zero]
  exact or_iff_left (scale_pos floor left right positive).ne'

end Similarity
