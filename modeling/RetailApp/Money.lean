import RetailApp.Exceptions
import RetailApp.Library.FixedPoint

namespace RetailApp

open FixedPoint

/-- `value.quantize(Decimal("0.01"), rounding=ROUND_HALF_UP)` on exact rationals, also from 10^26
on, where 28 digits are not enough and `quantize` raises. -/
def money (value : ℚ) : ℚ := quantize 100 value

/-- What a NUMERIC(12, 2) column holds. -/
structure Amount where
  value : ℚ
  cents : OnGrid 100 value
  fits : |value| < 10 ^ 10
  deriving DecidableEq

namespace Amount

instance : Coe Amount ℚ := ⟨Amount.value⟩

def zero : Amount := ⟨0, onGrid_zero 100, by norm_num⟩

/-- Writing a Decimal to a NUMERIC(12, 2) column: rounded to cents, refused on overflow. -/
def store (column : String) (given : ℚ) : Except Raised Amount :=
  if fits : |money given| < 10 ^ 10 then .ok ⟨money given, quantize_onGrid 100 given, fits⟩
  else .error (.dataError column)

@[simp] theorem zero_value : zero.value = 0 := rfl

theorem ext_value (first second : Amount) (same : first.value = second.value) :
    first = second := by
  cases first
  cases second
  cases same
  rfl

theorem store_ok (column : String) (given : ℚ) (stored : Amount) :
    store column given = .ok stored ↔ stored.value = money given ∧ |money given| < 10 ^ 10 := by
  unfold store
  split
  · rename_i fits
    constructor
    · intro returned
      cases returned
      exact ⟨rfl, fits⟩
    · rintro ⟨same, _⟩
      cases stored
      simp_all
  · rename_i overflow
    simp [overflow]

end Amount

theorem money_onGrid (value : ℚ) : OnGrid 100 (money value) := quantize_onGrid 100 value

theorem money_of_onGrid (value : ℚ) (grid : OnGrid 100 value) : money value = value :=
  quantize_eq_self 100 value (by decide) grid

theorem money_nonneg (value : ℚ) (nonneg : 0 ≤ value) : 0 ≤ money value :=
  quantize_nonneg 100 value nonneg

@[simp] theorem money_amount (amount : Amount) : money amount.value = amount.value :=
  money_of_onGrid amount.value amount.cents

@[simp] theorem money_money (value : ℚ) : money (money value) = money value :=
  money_of_onGrid _ (money_onGrid value)

/-- `str` of a Decimal with two places, as the messages print it. -/
def moneyText (value : ℚ) : String :=
  let cents := roundHalfUp (value * 100)
  let digits := cents.natAbs
  (if cents < 0 then "-" else "") ++ toString (digits / 100) ++ "." ++
    toString (digits % 100 / 10) ++ toString (digits % 10)

example : moneyText (money (21 / 2)) = "10.50" := by decide +kernel

end RetailApp
