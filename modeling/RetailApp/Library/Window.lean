import Mathlib

/-! Dated attempts that fail or succeed. Where a row of failures makes the next attempt wait,
no window of that length without a success holds more attempts than the row has. -/

namespace Window

variable {α T : Type} [LinearOrder T] (time : α → T) (failed : α → Bool)

/-- How many attempts have failed since the latest that did not. -/
def trailing (attempts : List α) : Nat := (attempts.reverse.takeWhile failed).length

def Dated (attempts : List α) : Prop := attempts.Pairwise (fun early late => time early ≤ time late)

def Spaced [Add T] (limit : Nat) (width : T) (attempts : List α) : Prop :=
  ∀ early last next late, attempts = early ++ last :: next :: late →
    limit ≤ trailing failed (early ++ [last]) → time last + width ≤ time next

theorem trailing_failed (attempts : List α) (attempt : α) (fails : failed attempt = true) :
    trailing failed (attempts ++ [attempt]) = trailing failed attempts + 1 := by
  simp [trailing, fails]

theorem trailing_succeeded (attempts : List α) (attempt : α) (succeeds : failed attempt = false) :
    trailing failed (attempts ++ [attempt]) = 0 := by
  simp [trailing, succeeds]

theorem le_trailing (early recent : List α) (all : ∀ attempt ∈ recent, failed attempt = true) :
    recent.length ≤ trailing failed (early ++ recent) := by
  rw [trailing, List.reverse_append, List.takeWhile_append_of_pos, List.length_append,
    List.length_reverse]
  · exact Nat.le_add_right _ _
  · intro attempt member
    exact all attempt (List.mem_reverse.mp member)

theorem spaced_nil [Add T] (limit : Nat) (width : T) : Spaced time failed limit width [] := by
  intro early last next late split
  cases early <;> cases split

theorem spaced_snoc [Add T] (limit : Nat) (width : T) (attempts : List α) (next : α)
    (spaced : Spaced time failed limit width attempts)
    (waits : ∀ last, attempts.getLast? = some last → limit ≤ trailing failed attempts →
      time last + width ≤ time next) :
    Spaced time failed limit width (attempts ++ [next]) := by
  intro early last next' late split many
  rcases List.eq_nil_or_concat late with rfl | ⟨late, final, rfl⟩
  · have same : attempts ++ [next] = (early ++ [last]) ++ [next'] := by
      rw [split, List.append_assoc, List.singleton_append]
    obtain ⟨rfl, ends⟩ := List.append_inj' same rfl
    obtain rfl := List.singleton_inj.mp ends
    exact waits last (by simp) many
  · have same : attempts ++ [next] = (early ++ last :: next' :: late) ++ [final] := by
      rw [split]
      simp
    obtain ⟨rfl, _⟩ := List.append_inj' same rfl
    exact spaced early last next' late rfl many

theorem dated_split (attempts : List α) (dated : Dated time attempts) (moment : T) :
    attempts = attempts.filter (fun attempt => time attempt < moment) ++
      attempts.filter (fun attempt => moment ≤ time attempt) := by
  induction attempts with
  | nil => rfl
  | cons attempt attempts ih =>
      obtain ⟨first, rest⟩ := List.pairwise_cons.mp dated
      by_cases before : time attempt < moment
      · rw [List.filter_cons_of_pos (by simpa using before),
          List.filter_cons_of_neg (by simpa using before), List.cons_append, ← ih rest]
      · have after : ∀ other ∈ attempt :: attempts, moment ≤ time other := by
          intro other member
          rcases List.mem_cons.mp member with rfl | later
          · exact not_lt.mp before
          · exact (not_lt.mp before).trans (first other later)
        have none : (attempt :: attempts).filter (fun attempt => time attempt < moment) = [] := by
          refine List.filter_eq_nil_iff.mpr ?_
          intro other member
          simpa using after other member
        have whole : (attempt :: attempts).filter (fun attempt => moment ≤ time attempt) =
            attempt :: attempts := by
          refine List.filter_eq_self.mpr ?_
          intro other member
          simpa using after other member
        rw [none, whole, List.nil_append]

def within [Add T] (width start : T) (attempts : List α) : List α :=
  attempts.filter (fun attempt => start ≤ time attempt ∧ time attempt < start + width)

theorem within_split [Add T] (width start : T) (attempts : List α)
    (dated : Dated time attempts) :
    ∃ before later, attempts = before ++ within time width start attempts ++ later := by
  have since := dated_split time attempts dated start
  have until' := dated_split time _ (List.Pairwise.filter
    (fun attempt => decide (start ≤ time attempt)) dated) (start + width)
  have inside : within time width start attempts =
      (attempts.filter (fun attempt => start ≤ time attempt)).filter
        (fun attempt => time attempt < start + width) := by
    rw [List.filter_filter, within]
    apply List.filter_congr
    intro attempt _
    rw [Bool.decide_and, Bool.and_comm]
  refine ⟨attempts.filter (fun attempt => time attempt < start),
    (attempts.filter (fun attempt => start ≤ time attempt)).filter
      (fun attempt => start + width ≤ time attempt), ?_⟩
  rw [List.append_assoc, inside, ← until']
  exact since

/-- A window without a success holds at most `limit` attempts. -/
theorem within_length [AddCommGroup T] [IsOrderedAddMonoid T] (limit : Nat) (width start : T)
    (attempts : List α) (dated : Dated time attempts)
    (spaced : Spaced time failed limit width attempts) (positive : 0 < limit)
    (none : ∀ attempt ∈ within time width start attempts, failed attempt = true) :
    (within time width start attempts).length ≤ limit := by
  by_contra many
  obtain ⟨before, later, split⟩ := within_split time width start attempts dated
  generalize shown : within time width start attempts = inside at many split none
  have inWindow (attempt : α) (member : attempt ∈ inside) :
      start ≤ time attempt ∧ time attempt < start + width := by
    rw [← shown] at member
    simpa using (List.mem_filter.mp member).2
  -- the attempt after the first `limit` ones had to wait until the window was over
  obtain ⟨first, last, next, late, rfl, long⟩ :
      ∃ first last next late, inside = (first ++ [last]) ++ next :: late ∧
        (first ++ [last]).length = limit := by
    have front := List.take_append_drop limit inside
    have length : (inside.take limit).length = limit := List.length_take_of_le (by omega)
    rcases List.eq_nil_or_concat (inside.take limit) with empty | ⟨first, last, taken⟩
    · rw [empty] at length
      exact (positive.ne length).elim
    · cases dropped : inside.drop limit with
      | nil =>
          have := List.drop_eq_nil_iff.mp dropped
          omega
      | cons next late =>
          refine ⟨first, last, next, late, ?_, ?_⟩
          · rw [← List.concat_eq_append, ← taken, ← dropped, front]
          · rw [← List.concat_eq_append, ← taken, length]
  have enough : limit ≤ trailing failed ((before ++ first) ++ [last]) := by
    rw [List.append_assoc, ← long]
    refine le_trailing failed before (first ++ [last]) ?_
    intro attempt member
    exact none attempt (List.mem_append_left _ member)
  have waited := spaced (before ++ first) last next (late ++ later) (by rw [split]; simp) enough
  have opened := (inWindow last (by simp)).1
  have closed := (inWindow next (by simp)).2
  exact absurd (waited.trans_lt closed) (not_lt.mpr (add_le_add_left opened width))

end Window
