import Mathlib

/-! The money of one sale: what is due, what was collected, what was paid back out of it,
and what was written off as returned goods. `Step` says what may happen to it once. -/

structure Till (K : Type) where
  due : K
  collected : K
  refunded : K
  returned : K
  closed : Bool

namespace Till

variable {K : Type} [CommRing K] [LinearOrder K] [IsStrictOrderedRing K]

inductive Phase where
  | unpaid
  | partly
  | paid
  | closed
  deriving DecidableEq, Repr

def opening (due : K) : Till K := ⟨due, 0, 0, 0, false⟩

def balance (till : Till K) : K := till.collected - till.refunded

def givenBack (till : Till K) : K := till.returned + till.refunded

def phase (till : Till K) : Phase :=
  if till.closed then .closed
  else if till.balance = 0 then .unpaid
  else if till.balance < till.due then .partly
  else .paid

inductive Step : Till K → Till K → Prop
  | collect (till : Till K) (amount : K) (opened : till.closed = false) (positive : 0 < amount)
      (covered : till.balance + amount ≤ till.due) :
      Step till { till with collected := till.collected + amount }
  | refund (till : Till K) (amount : K) (opened : till.closed = false) (positive : 0 < amount)
      (held : amount ≤ till.balance) (ceiling : till.refunded + amount ≤ till.due) :
      Step till { till with refunded := till.refunded + amount }
  | giveBack (till : Till K) (amount : K) (opened : till.closed = false) (nonneg : 0 ≤ amount)
      (ceiling : till.refunded + amount ≤ till.due) :
      Step till { till with returned := till.returned + amount }
  | close (till : Till K) (unsettled : till.phase = .unpaid ∨ till.phase = .partly) :
      Step till { till with closed := true }

structure Sound (till : Till K) : Prop where
  held : 0 ≤ till.balance
  covered : till.balance ≤ till.due
  refunded : 0 ≤ till.refunded
  ceiling : till.refunded ≤ till.due
  returned : 0 ≤ till.returned

omit [IsStrictOrderedRing K] in
theorem opening_sound (due : K) (nonneg : 0 ≤ due) : (opening due).Sound := by
  constructor <;> simp [opening, balance, nonneg]

omit [LinearOrder K] [IsStrictOrderedRing K] in
theorem balance_collect (till : Till K) (amount : K) :
    balance { till with collected := till.collected + amount } = till.balance + amount :=
  add_sub_right_comm till.collected amount till.refunded

omit [LinearOrder K] [IsStrictOrderedRing K] in
theorem balance_refund (till : Till K) (amount : K) :
    balance { till with refunded := till.refunded + amount } = till.balance - amount :=
  (sub_sub till.collected till.refunded amount).symm

theorem step_sound (before later : Till K) (sound : before.Sound) (step : Step before later) :
    later.Sound := by
  obtain ⟨held, covered, refunded, ceiling, returned⟩ := sound
  cases step with
  | collect amount opened positive room =>
      refine ⟨?_, ?_, refunded, ceiling, returned⟩
      · rw [balance_collect]
        exact add_nonneg held positive.le
      · rw [balance_collect]
        exact room
  | refund amount opened positive available limit =>
      refine ⟨?_, ?_, add_nonneg refunded positive.le, limit, returned⟩
      · rw [balance_refund]
        exact sub_nonneg.mpr available
      · rw [balance_refund]
        exact (sub_le_self before.balance positive.le).trans covered
  | giveBack amount opened nonneg limit =>
      exact ⟨held, covered, refunded, ceiling, add_nonneg returned nonneg⟩
  | close unsettled => exact ⟨held, covered, refunded, ceiling, returned⟩

omit [IsStrictOrderedRing K] in
theorem step_due (before later : Till K) (step : Step before later) : later.due = before.due := by
  cases step <;> rfl

end Till
