import PatchTrial.Proofs.AcceptanceRule
import PatchTrial.Proofs.MeasuredRange

/-!
# Benchmarks in exact numbers

What is measured, compared and judged in doubles is here measured, compared and judged in rational
numbers, by the same definitions. Then nothing is rounded: the improvement of a comparison is the
headway from the earlier value to the later one as a part of the earlier one's size, also from a
negative value, and from zero it is one whole in the direction of the headway.

Main statements: `Comparison.improvementOf_relativeChange`, `Comparison.relativeChange_mono`,
`Comparison.relativeChange_pos_iff`.
-/
namespace PatchTrial

/-! ### Exact arithmetic -/

/-- The exact value of a numeral. -/
def Decimal.Numeral.value (n : Decimal.Numeral) : ℚ :=
  (if n.negative then -1 else 1) * n.magnitude

/-- The exact value of a number in a JSON text. -/
def Json.Number.value : Json.Number → ℚ
  | .natural n => n.toNat
  | .negative i => i.toInt
  | .double x => Double.exact x
  | .single x => Double.exact x.toFloat

/-- The double nearest to a rational number. -/
def Double.ofExact (x : ℚ) : Float := Decimal.nearest (x < 0) x.num.natAbs x.den

/-- Exact arithmetic. As for doubles, a change counts if it is larger than 2 ^ -52. The texts of a
number are those of the nearest double. -/
instance : Quantity ℚ where
  zero := 0
  neg x := -x
  sub x y := x - y
  div x y := x / y
  abs x := |x|
  signum x := if 0 < x then 1 else -1
  lt x y := x < y
  le x y := x ≤ y
  isZero x := x = 0
  isFinite _ := true
  epsilon := 1 / 2 ^ 52
  hundredfold x := x * 100
  ofNumber := Json.Number.value
  ofNumeral := Decimal.Numeral.value
  ofMillis n := n.toNat
  text x := Quantity.text (Double.ofExact x)
  oneDigit x := Quantity.oneDigit (Double.ofExact x)
  signedOneDigit x := Quantity.signedOneDigit (Double.ofExact x)

namespace Quantity

@[simp] theorem zero_exact : (zero : ℚ) = 0 := rfl

@[simp] theorem neg_exact (x : ℚ) : neg x = -x := rfl

@[simp] theorem sub_exact (x y : ℚ) : sub x y = x - y := rfl

@[simp] theorem div_exact (x y : ℚ) : div x y = x / y := rfl

@[simp] theorem abs_exact (x : ℚ) : abs x = |x| := rfl

@[simp] theorem isZero_exact {x : ℚ} : isZero x = true ↔ x = 0 := decide_eq_true_iff

@[simp] theorem lt_exact {x y : ℚ} : lt x y = true ↔ x < y := decide_eq_true_iff

@[simp] theorem le_exact {x y : ℚ} : le x y = true ↔ x ≤ y := decide_eq_true_iff

@[simp] theorem isFinite_exact (x : ℚ) : isFinite x = true := rfl

theorem epsilon_pos : (0 : ℚ) < epsilon := by
  change (0 : ℚ) < 1 / 2 ^ 52
  positivity

end Quantity

namespace Comparison

open Quantity

/-! ### Relative changes -/

/-- From zero, every change counts as one whole. -/
theorem relativeChange_zero (delta : ℚ) :
    relativeChange 0 delta = if 0 < delta then 1 else if delta < 0 then -1 else 0 := by
  rw [relativeChange, if_pos (isZero_exact.mpr rfl)]
  rcases lt_trichotomy delta 0 with h | rfl | h
  · rw [if_neg (mt isZero_exact.mp h.ne), if_neg h.not_gt, if_pos h]
    exact if_neg h.not_gt
  · rfl
  · rw [if_neg (mt isZero_exact.mp h.ne'), if_pos h]
    exact if_pos h

theorem relativeChange_of_ne {before : ℚ} (h : before ≠ 0) (delta : ℚ) :
    relativeChange before delta = delta / |before| := by
  simp only [relativeChange, isZero_exact, if_neg h, div_exact, abs_exact]

/-- The opposite change is the opposite part of the earlier value. -/
theorem relativeChange_neg (before delta : ℚ) :
    relativeChange before (-delta) = -relativeChange before delta := by
  by_cases hb : before = 0
  · rw [hb, relativeChange_zero, relativeChange_zero]
    simp only [neg_pos, neg_lt_zero]
    split_ifs <;> linarith
  · rw [relativeChange_of_ne hb, relativeChange_of_ne hb, neg_div]

theorem relativeChange_mono (before : ℚ) {x y : ℚ} (h : x ≤ y) :
    relativeChange before x ≤ relativeChange before y := by
  by_cases hb : before = 0
  · rw [hb, relativeChange_zero, relativeChange_zero]
    split_ifs <;> linarith
  · rw [relativeChange_of_ne hb, relativeChange_of_ne hb]
    exact div_le_div_of_nonneg_right h (abs_nonneg before)

/-- A relative change goes up exactly if the change does. -/
theorem relativeChange_pos_iff {before delta : ℚ} :
    0 < relativeChange before delta ↔ 0 < delta := by
  by_cases hb : before = 0
  · rw [hb, relativeChange_zero]
    split_ifs with hpos hneg <;> simp [hpos]
  · rw [relativeChange_of_ne hb, div_pos_iff_of_pos_right (abs_pos.mpr hb)]

theorem relativeChange_neg_iff {before delta : ℚ} :
    relativeChange before delta < 0 ↔ delta < 0 := by
  rw [← neg_pos, ← relativeChange_neg, relativeChange_pos_iff, neg_pos]

/-! ### Improvements -/

/-- How far a later value is ahead of an earlier one, in the direction that is better. -/
def headway (lowerIsBetter : Bool) (before after : ℚ) : ℚ :=
  if lowerIsBetter then before - after else after - before

theorem improvementOf_relativeChange (lowerIsBetter : Bool) (before after : ℚ) :
    improvementOf lowerIsBetter (relativeChange before (sub after before)) =
      relativeChange before (headway lowerIsBetter before after) := by
  cases lowerIsBetter with
  | false => rfl
  | true =>
    change -relativeChange before (after - before) = relativeChange before (before - after)
    rw [← relativeChange_neg, neg_sub]

theorem trendOf_eq_improved_iff {x : ℚ} : trendOf x = .improved ↔ epsilon < x := by
  unfold trendOf
  simp only [lt_exact, neg_exact]
  split_ifs with h <;> simp [h]

theorem trendOf_eq_regressed_iff {x : ℚ} : trendOf x = .regressed ↔ x < -epsilon := by
  have hpos := epsilon_pos
  unfold trendOf
  simp only [lt_exact, neg_exact]
  split_ifs with h h'
  · simp only [false_iff, not_lt]
    linarith
  · simp [h']
  · simp [h']

/-- What a comparison says of two measurements. -/
structure Tells (before after : Measurement ℚ) (c : Comparison ℚ) : Prop where
  before_eq : c.before = before.value
  after_eq : c.after = after.value
  direction_eq : c.lowerIsBetter = before.lowerIsBetter
  improvement_eq : c.improvement =
    relativeChange before.value (headway before.lowerIsBetter before.value after.value)
  trend_eq : c.trend = trendOf c.improvement

/-- Exact measurements compare if they are of one metric and one direction. -/
theorem comparable_iff {before after : Measurement ℚ} :
    comparable before after = true ↔
      before.metric = after.metric ∧ before.lowerIsBetter = after.lowerIsBetter := by
  simp [comparable]

theorem between?_isSome_iff {before after : Measurement ℚ} :
    (between? before after).isSome = true ↔
      before.metric = after.metric ∧ before.lowerIsBetter = after.lowerIsBetter := by
  rw [← comparable_iff, between?]
  split
  next h => simp [h]
  next h => simp [h]

theorem tells_of_between? {before after : Measurement ℚ} {c : Comparison ℚ}
    (h : between? before after = some c) : c.Tells before after := by
  unfold between? at h
  split at h
  next =>
    cases h
    exact ⟨rfl, rfl, rfl, improvementOf_relativeChange _ _ _, rfl⟩
  next => cases h

end Comparison

end PatchTrial
