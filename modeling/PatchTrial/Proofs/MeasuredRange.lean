import PatchTrial.Benchmark.Comparison
import PatchTrial.Proofs.DoubleRange

/-!
# Measurements and comparisons that overflow

Only a number that a program prints can make a measurement infinite, and only on a line of the form
name, separator, number, unit: a JSON object with a number out of range is passed over. A comparison
starts from finite values, but their difference and the relative change can overflow.

Main statements: `Numeral.isFinite_toFloat_iff`, `Measurement.isFinite_ofStepRun_iff`,
`Comparison.isFinite_iff_inRange`.
-/
namespace PatchTrial

namespace Decimal

/-! ### Numerals -/

/-- The exact magnitude of a numeral. -/
def Numeral.magnitude (n : Numeral) : ℚ := n.digits * 10 ^ n.exponent

theorem isFinite_nearest_iff (negative : Bool) (num : Nat) {den : Nat} (hden : 0 < den) :
    (nearest negative num den).isFinite = true ↔ (num : ℚ) / den < overflowBound := by
  have hle := Format.double.nearestBits_le num den
  have hsign : (nearest negative num den).isFinite =
      (Float.ofBits (UInt64.ofNat (Format.double.nearestBits num den))).isFinite := by
    rw [nearest]
    cases negative with
    | false => rfl
    | true => exact Double.isFinite_neg _
  rw [hsign, Double.isFinite_ofBits, ← nearestBits_lt_iff num hden, UInt64.toNat_ofNat']
  rw [Format.infinityBits_double] at hle ⊢
  omega

theorem isFinite_nearest_ten_pow_iff (negative : Bool) (k : Nat) :
    (nearest negative (Nat.pow 10 k) 1).isFinite = true ↔ (10 : ℚ) ^ k < overflowBound := by
  rw [isFinite_nearest_iff _ _ Nat.one_pos, Nat.pow_eq]
  push_cast
  rw [div_one]

/-- Ten to the power of four hundred is far beyond the bound. -/
theorem overflowBound_le_ten_pow : overflowBound ≤ (10 : ℚ) ^ 400 := by
  have hten : (2 : ℚ) ^ 1024 ≤ 10 ^ 400 := by
    calc (2 : ℚ) ^ 1024 ≤ 2 ^ (3 * 400) := pow_le_pow_right₀ one_le_two (by norm_num)
      _ = 8 ^ 400 := by rw [pow_mul]; norm_num
      _ ≤ 10 ^ 400 := pow_le_pow_left₀ (by norm_num) (by norm_num) _
  exact (sub_le_self _ (pow_pos two_pos 970).le).trans hten

theorem one_lt_overflowBound : 1 < overflowBound := by
  have hpow : (1 : ℚ) ≤ 2 ^ (971 : Int) := one_le_zpow₀ one_le_two (by norm_num)
  rw [overflowBound_eq]
  generalize (2 : ℚ) ^ (971 : Int) = unit at hpow ⊢
  linarith only [hpow]

/-- What is read as infinite at once is beyond the bound. -/
theorem overflowBound_le_scaled {digits k e : Nat} (hdigits : digits ≠ 0) (he : k ≤ e)
    (hbound : overflowBound ≤ (10 : ℚ) ^ k) : overflowBound ≤ (digits : ℚ) * 10 ^ e := by
  have hone : (1 : ℚ) ≤ digits := by exact_mod_cast Nat.one_le_iff_ne_zero.2 hdigits
  calc overflowBound ≤ (10 : ℚ) ^ k := hbound
    _ ≤ 10 ^ e := pow_le_pow_right₀ (by norm_num) he
    _ ≤ digits * 10 ^ e := le_mul_of_one_le_left (by positivity) hone

/-- What is read as zero at once is less than one. -/
theorem scaled_lt_one {digits e : Nat} (he : digits.log2 < e) : (digits : ℚ) / 10 ^ e < 1 := by
  have hlog : digits < 10 ^ e :=
    calc digits < 2 ^ (digits.log2 + 1) := Nat.lt_log2_self
      _ ≤ 10 ^ (digits.log2 + 1) := Nat.pow_le_pow_left (by norm_num) _
      _ ≤ 10 ^ e := Nat.pow_le_pow_right (by norm_num) he
  rw [div_lt_one (by positivity)]
  exact_mod_cast hlog

/-- A numeral is read as a finite double exactly if it stays below the bound. -/
theorem Numeral.isFinite_toFloat_iff (n : Numeral) :
    n.toFloat.isFinite = true ↔ n.magnitude < overflowBound := by
  obtain ⟨negative, digits, exponent⟩ := n
  rw [toFloat, magnitude]
  dsimp only
  split
  next h =>
    rw [isFinite_nearest_iff _ _ Nat.one_pos, h, Nat.cast_zero, zero_mul, zero_div]
  next h =>
  cases exponent with
  | ofNat e =>
    rw [Int.ofNat_eq_natCast, zpow_natCast]
    dsimp only
    split
    next he =>
      have hbound := overflowBound_le_ten_pow
      generalize 400 = k at he hbound ⊢
      rw [isFinite_nearest_ten_pow_iff]
      exact iff_of_false (not_lt.2 hbound) (not_lt.2 (overflowBound_le_scaled h he.le hbound))
    next he =>
      rw [isFinite_nearest_iff _ _ Nat.one_pos, Nat.pow_eq]
      push_cast
      rw [div_one]
  | negSucc e =>
    rw [zpow_negSucc, ← div_eq_mul_inv]
    dsimp only
    split
    next he =>
      rw [isFinite_nearest_iff _ _ Nat.one_pos, Nat.cast_zero, zero_div]
      have hsmall : (digits : ℚ) / 10 ^ (e + 1) < 1 := scaled_lt_one (by omega)
      exact iff_of_true overflowBound_pos (hsmall.trans one_lt_overflowBound)
    next he =>
      rw [isFinite_nearest_iff _ _ (by rw [Nat.pow_eq]; positivity), Nat.pow_eq]
      push_cast
      rfl

end Decimal

open Decimal

/-! ### Measurements -/

/-- Whether the measurement of a step is taken from a metric line whose number is out of range. -/
def StepRun.Overflows (r : StepRun) : Prop :=
  ∃ l, (Text.lines r.stdout.toList).reverse.findSome? (@Measurement.ofJsonLine? Float _) = none ∧
    (Text.lines r.stdout.toList).reverse.findSome? MetricLine.read? = some l ∧
    overflowBound ≤ l.number.magnitude

namespace Measurement

/-- A JSON object with a number out of range gives no measurement. -/
theorem isFinite_of_ofJsonLine? {line : List Char} {m : Measurement Float}
    (h : ofJsonLine? line = some m) : m.value.isFinite = true := by
  simp only [ofJsonLine?, Option.bind_eq_bind, Option.bind_eq_some_iff, guard] at h
  obtain ⟨-, -, j, -, value, -, h⟩ := h
  cases value with
  | number n =>
    dsimp only at h
    split at h
    next hfinite =>
      cases h
      exact hfinite
    · cases h
  | _ => cases h

/-- A measurement is finite unless it is taken from a metric line out of range. -/
theorem isFinite_ofStepRun_iff (r : StepRun) :
    (@ofStepRun Float _ r).value.isFinite = true ↔ ¬ r.Overflows := by
  rw [ofStepRun, StepRun.Overflows]
  split
  next m hm =>
    obtain ⟨line, -, hline⟩ := List.exists_of_findSome?_eq_some hm
    refine iff_of_true (isFinite_of_ofJsonLine? hline) ?_
    rintro ⟨l, hnone, -⟩
    rw [hm] at hnone
    cases hnone
  next hjson =>
    split
    next l hl =>
      have hvalue : (@ofMetricLine Float _ l).value = l.number.toFloat := rfl
      rw [hvalue, Numeral.isFinite_toFloat_iff, ← not_le, not_iff_not]
      constructor
      · intro h
        exact ⟨l, hjson, hl, h⟩
      · rintro ⟨l', -, hl', h⟩
        rw [hl] at hl'
        cases hl'
        exact h
    next hl =>
      refine iff_of_true (Double.isFinite_ofNat64 _) ?_
      rintro ⟨l, -, hl', -⟩
      rw [hl] at hl'
      cases hl'

end Measurement

/-! ### Comparisons -/

namespace Comparison

/-- Whether all numbers of a comparison are finite. -/
structure IsFinite (c : Comparison Float) : Prop where
  before : c.before.isFinite = true
  after : c.after.isFinite = true
  absoluteDelta : c.absoluteDelta.isFinite = true
  relativeDelta : c.relativeDelta.isFinite = true

/-- Whether the difference of a comparison and its ratio to the earlier value stay below the
bound. -/
structure InRange (c : Comparison Float) : Prop where
  difference : |Double.exact c.after - Double.exact c.before| < overflowBound
  ratio : Double.exact c.before = 0 ∨
    |Double.exact c.absoluteDelta| < overflowBound * |Double.exact c.before|

/-- The relative change from a value to which a change of it is known. -/
theorem isFinite_relativeChange_iff {before delta : Float} (hb : before.isFinite = true)
    (hd : delta.isFinite = true) :
    (relativeChange before delta).isFinite = true ↔ Double.exact before = 0 ∨
      |Double.exact delta| < overflowBound * |Double.exact before| := by
  rw [relativeChange]
  split
  next h =>
    refine iff_of_true ?_ (.inl ((Double.beq_zero_iff hb).1 h))
    split
    · rfl
    · change (if delta > 0 then (1 : Float) else -1).isFinite = true
      split <;> rfl
  next h =>
    have hne : Double.exact before ≠ 0 := mt (Double.beq_zero_iff hb).2 h
    change (delta / before.abs).isFinite = true ↔ _
    rw [Double.isFinite_div_iff hd (by rwa [Double.isFinite_abs]), Double.exact_abs, abs_abs,
      or_iff_right hne]
    rw [Double.exact_abs]
    exact abs_ne_zero.2 hne

/-- A comparison has finite numbers exactly if neither its difference nor its ratio overflows. -/
theorem isFinite_iff_inRange {before after : Measurement Float} {c : Comparison Float}
    (h : between? before after = some c) : c.IsFinite ↔ c.InRange := by
  rw [between?] at h
  split at h
  next hc =>
    simp only [comparable, Bool.and_eq_true] at hc
    have hb : before.value.isFinite = true := hc.1.2
    have ha : after.value.isFinite = true := hc.2
    cases h
    have hdelta := Double.isFinite_sub_iff ha hb
    constructor
    · rintro ⟨-, -, habs, hrel⟩
      exact ⟨hdelta.1 habs, (isFinite_relativeChange_iff hb habs).1 hrel⟩
    · rintro ⟨habs, hrel⟩
      have habs := hdelta.2 habs
      exact ⟨hb, ha, habs, (isFinite_relativeChange_iff hb habs).2 hrel⟩
  · cases h

end Comparison

end PatchTrial
