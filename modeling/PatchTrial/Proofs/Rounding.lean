import Mathlib.Algebra.Order.Field.Power
import Mathlib.Tactic.FieldSimp
import Mathlib.Tactic.Linarith
import Mathlib.Tactic.NormNum
import Mathlib.Tactic.Positivity
import Mathlib.Tactic.Ring
import PatchTrial.Decimal.Nearest

/-!
# Fractions that round to a finite double

The bits of the nearest double come from a quotient that is rounded to a whole number of units in
the last place. The unit is chosen so that the quotient has 53 bits, or is the least one; so it
overflows exactly from half a unit above the largest double on.

Main statement: `nearestBits_lt_iff`.
-/
namespace PatchTrial.Decimal

/-- The least magnitude that rounds to an infinite double, half a unit above the largest one. -/
def overflowBound : ℚ := 2 ^ 1024 - 2 ^ 970

theorem overflowBound_eq :
    overflowBound = ((2 : ℚ) ^ (53 : Nat) - 1 / 2) * 2 ^ (971 : Int) := by
  have hunit : (2 : ℚ) ^ (971 : Int) = 2 ^ 970 * 2 := by
    rw [show (971 : Int) = (971 : Nat) from rfl, zpow_natCast, pow_succ]
  have htop : (2 : ℚ) ^ 1024 = 2 ^ 970 * 2 ^ 54 := by rw [← pow_add]
  rw [overflowBound, htop, hunit]
  generalize (2 : ℚ) ^ 970 = half
  ring

theorem overflowBound_pos : 0 < overflowBound := by
  rw [overflowBound_eq]
  exact mul_pos (by norm_num) (zpow_pos two_pos _)

/-- A number of 53 bits at an exponent stays below the bound exactly if the exponent is below the
largest one, or is the largest one and the number does not round up to another bit. -/
theorem lt_overflowBound_iff {w : ℚ} {t : Int} {r : Nat} (hw : w < 2 ^ 53)
    (hlow : t = -1074 ∨ 2 ^ 52 ≤ w) (hr : 2 ^ 53 ≤ r ↔ (2 : ℚ) ^ 53 - 1 / 2 ≤ w) :
    w * 2 ^ t < overflowBound ↔ t < 971 ∨ (t = 971 ∧ r < 2 ^ 53) := by
  have hunit : (0 : ℚ) < 2 ^ t := zpow_pos two_pos t
  rw [overflowBound_eq]
  rcases lt_trichotomy t 971 with ht | rfl | ht
  · have hstep : (2 : ℚ) ^ t * 2 ≤ 2 ^ (971 : Int) := by
      rw [← zpow_add_one₀ two_ne_zero]
      exact zpow_le_zpow_right₀ one_le_two (by omega)
    refine iff_of_true ?_ (.inl ht)
    calc w * 2 ^ t < 2 ^ 53 * 2 ^ t := mul_lt_mul_of_pos_right hw hunit
      _ ≤ (2 ^ 53 - 1 / 2) * (2 ^ t * 2) := by linarith only [hunit]
      _ ≤ (2 ^ 53 - 1 / 2) * 2 ^ (971 : Int) := mul_le_mul_of_nonneg_left hstep (by norm_num)
  · rw [mul_lt_mul_iff_left₀ hunit, ← not_le, ← hr]
    omega
  · have hstep : (2 : ℚ) ^ (971 : Int) * 2 ≤ 2 ^ t := by
      rw [← zpow_add_one₀ two_ne_zero]
      exact zpow_le_zpow_right₀ one_le_two (by omega)
    have hpos : (0 : ℚ) < 2 ^ (971 : Int) := zpow_pos two_pos _
    refine iff_of_false (not_lt.2 ?_) (by omega)
    generalize (2 : ℚ) ^ (971 : Int) = step at hstep hpos ⊢
    calc ((2 : ℚ) ^ 53 - 1 / 2) * step ≤ 2 ^ 52 * (step * 2) := by linarith only [hpos]
      _ ≤ 2 ^ 52 * 2 ^ t := mul_le_mul_of_nonneg_left hstep (by norm_num)
      _ ≤ w * 2 ^ t := mul_le_mul_of_nonneg_right (hlow.resolve_left (by omega)) hunit.le

/-! ### Whole numbers of units -/

/-- Rounding to the nearest number reaches an even one from half a unit below it on. -/
theorem le_roundDiv_iff {n num den : Nat} (hn : 0 < n) (heven : n % 2 = 0) (hden : 0 < den) :
    n ≤ roundDiv num den ↔ (n : ℚ) - 1 / 2 ≤ num / den := by
  have hdm : den * (num / den) + num % den = num := Nat.div_add_mod num den
  have hlt : num % den < den := Nat.mod_lt _ hden
  have hhalves : (n : ℚ) - 1 / 2 ≤ num / den ↔ 2 * n * den ≤ 2 * num + den := by
    rw [le_div_iff₀ (by exact_mod_cast hden), ← @Nat.cast_le ℚ]
    push_cast
    constructor <;> intro h <;> linarith
  generalize hq : num / den = q at hdm
  generalize hr : num % den = r at hdm hlt
  have hround : roundDiv num den =
      if 2 * r < den then q else if 2 * r > den then q + 1 else q + q % 2 := by
    simp only [roundDiv, hq, hr]
  rw [hhalves, hround, ← hdm]
  -- only the number just above the quotient depends on what is left over
  rcases Nat.lt_trichotomy n (q + 1) with h | rfl | h
  · have hmul : n * den ≤ q * den := Nat.mul_le_mul_right den (by omega)
    have hn2 : 2 * n * den = 2 * (n * den) := by ring
    have hcomm : den * q = q * den := by ring
    split
    · omega
    · split <;> omega
  · have hexpand : 2 * (q + 1) * den = 2 * (den * q) + 2 * den := by ring
    split
    · omega
    · split <;> omega
  · have hmul : (q + 2) * den ≤ n * den := Nat.mul_le_mul_right den (by omega)
    have hn2 : 2 * n * den = 2 * (n * den) := by ring
    have hexpand : (q + 2) * den = den * q + 2 * den := by ring
    split
    · omega
    · split <;> omega

theorem scaled_den_pos (a : Nat) (e : Int) : 0 < (scaled a e).2 := by
  cases e with
  | ofNat k => simp [scaled]
  | negSucc k => simp [scaled]

theorem scaled_num_pos {a : Nat} (ha : 0 < a) (e : Int) : 0 < (scaled a e).1 := by
  cases e with
  | ofNat k => simpa [scaled] using ha
  | negSucc k => simpa [scaled] using ha

theorem scaled_value (a : Nat) (e : Int) :
    ((scaled a e).1 : ℚ) = a * 2 ^ e * (scaled a e).2 := by
  cases e with
  | ofNat k => simp [scaled]
  | negSucc k => simp [scaled, zpow_negSucc]

/-- A quotient in units of the last place. -/
theorem scaled_quotient (num den : Nat) (q : Int) :
    ((num * (scaled den q).2 : Nat) : ℚ) / (scaled den q).1 = num / den / 2 ^ q := by
  have hs : ((scaled den q).2 : ℚ) ≠ 0 := by exact_mod_cast (scaled_den_pos den q).ne'
  rw [scaled_value]
  push_cast
  field_simp

/-! ### The unit in the last place -/

theorem two_zpow_log2_le {n : Nat} (hn : 0 < n) : (2 : ℚ) ^ (n.log2 : Int) ≤ n := by
  rw [zpow_natCast]
  exact_mod_cast Nat.log2_self_le hn.ne'

theorem lt_two_zpow_log2 (n : Nat) : (n : ℚ) < 2 ^ ((n.log2 : Int) + 1) := by
  have h : n < 2 ^ (n.log2 + 1) := Nat.lt_log2_self
  exact_mod_cast h

/-- A quotient lies between the powers of two that the logarithms suggest. -/
theorem div_log2_bounds {num den : Nat} (hnum : 0 < num) (hden : 0 < den) :
    (2 : ℚ) ^ ((num.log2 : Int) - den.log2 - 1) < num / den ∧
      (num : ℚ) / den < 2 ^ ((num.log2 : Int) - den.log2 + 1) := by
  have hd : (0 : ℚ) < den := by exact_mod_cast hden
  constructor
  · rw [lt_div_iff₀ hd]
    calc (2 : ℚ) ^ ((num.log2 : Int) - den.log2 - 1) * den
        < 2 ^ ((num.log2 : Int) - den.log2 - 1) * 2 ^ ((den.log2 : Int) + 1) :=
          mul_lt_mul_of_pos_left (lt_two_zpow_log2 den) (zpow_pos two_pos _)
      _ = 2 ^ (num.log2 : Int) := by
          rw [← zpow_add₀ two_ne_zero]
          congr 1
          ring
      _ ≤ num := two_zpow_log2_le hnum
  · rw [div_lt_iff₀ hd]
    calc (num : ℚ) < 2 ^ ((num.log2 : Int) + 1) := lt_two_zpow_log2 num
      _ = 2 ^ ((num.log2 : Int) - den.log2 + 1) * 2 ^ (den.log2 : Int) := by
          rw [← zpow_add₀ two_ne_zero]
          congr 1
          ring
      _ ≤ 2 ^ ((num.log2 : Int) - den.log2 + 1) * den :=
          mul_le_mul_of_nonneg_left (two_zpow_log2_le hden) (zpow_pos two_pos _).le

namespace Format

theorem least_le_exponentOf (f : Format) (num den : Nat) : f.least ≤ f.exponentOf num den :=
  le_max_right _ _

/-- In units of the last place a quotient fills the fraction and one bit more, unless the unit is
the least one. -/
theorem exponentOf_bounds (f : Format) {num den : Nat} (hnum : 0 < num) (hden : 0 < den) :
    (num : ℚ) / den < 2 ^ (f.exponentOf num den + f.fraction + 1) ∧
      (f.exponentOf num den = f.least ∨
        (2 : ℚ) ^ (f.exponentOf num den + f.fraction) ≤ num / den) := by
  obtain ⟨hlow, hhigh⟩ := div_log2_bounds hnum hden
  have hd : (0 : ℚ) < den := by exact_mod_cast hden
  unfold exponentOf
  dsimp only
  generalize hq : (num.log2 : Int) - den.log2 - f.fraction = q
  rw [show (num.log2 : Int) - den.log2 = q + f.fraction by omega] at hlow hhigh
  have htest : (scaled den q).1 * Nat.pow 2 f.fraction > num * (scaled den q).2 ↔
      (num : ℚ) / den < 2 ^ (q + f.fraction) := by
    have hs : (0 : ℚ) < (scaled den q).2 := by exact_mod_cast scaled_den_pos den q
    rw [gt_iff_lt, Nat.pow_eq, ← @Nat.cast_lt ℚ, div_lt_iff₀ hd, zpow_add₀ two_ne_zero,
      zpow_natCast]
    push_cast
    rw [scaled_value, show (den : ℚ) * 2 ^ q * (scaled den q).2 * 2 ^ f.fraction =
      2 ^ q * 2 ^ f.fraction * den * (scaled den q).2 by ring]
    exact mul_lt_mul_iff_left₀ hs
  -- either exponent may be lifted to the least one
  split
  next h =>
    rw [htest] at h
    rcases le_total (q - 1) f.least with hm | hm
    · rw [max_eq_right hm]
      exact ⟨h.trans_le (zpow_le_zpow_right₀ one_le_two (by omega)), .inl rfl⟩
    · rw [max_eq_left hm]
      rw [show q + (f.fraction : Int) - 1 = q - 1 + f.fraction by ring] at hlow
      exact ⟨by rwa [show q - 1 + (f.fraction : Int) + 1 = q + f.fraction by ring], .inr hlow.le⟩
  next h =>
    rw [htest, not_lt] at h
    rcases le_total q f.least with hm | hm
    · rw [max_eq_right hm]
      exact ⟨hhigh.trans_le (zpow_le_zpow_right₀ one_le_two (by omega)), .inl rfl⟩
    · rw [max_eq_left hm]
      exact ⟨hhigh, .inr h⟩

theorem nearestBits_of_pos (f : Format) {num : Nat} (den : Nat) (hnum : 0 < num) :
    f.nearestBits num den = min f.infinityBits
      ((f.exponentOf num den - f.least).toNat * 2 ^ f.fraction +
        roundDiv (num * (scaled den (f.exponentOf num den)).2)
          (scaled den (f.exponentOf num den)).1) := by
  rw [nearestBits, if_neg hnum.ne']
  rfl

theorem nearestBits_le (f : Format) (num den : Nat) : f.nearestBits num den ≤ f.infinityBits := by
  rcases Nat.eq_zero_or_pos num with rfl | hnum
  · rw [nearestBits, if_pos rfl]
    exact Nat.zero_le _
  · rw [f.nearestBits_of_pos den hnum]
    exact min_le_left _ _

theorem least_double : double.least = -1074 := by decide

theorem fraction_double : double.fraction = 52 := rfl

theorem infinityBits_double : double.infinityBits = 2047 * 2 ^ 52 := by decide

end Format

/-- A fraction rounds to a finite double exactly if it stays below the bound. -/
theorem nearestBits_lt_iff (num : Nat) {den : Nat} (hden : 0 < den) :
    Format.double.nearestBits num den < Format.double.infinityBits ↔
      (num : ℚ) / den < overflowBound := by
  rcases Nat.eq_zero_or_pos num with rfl | hnum
  · rw [Format.nearestBits, if_pos rfl, Format.infinityBits_double, Nat.cast_zero, zero_div]
    exact iff_of_true (by norm_num) overflowBound_pos
  obtain ⟨hhigh, hlow⟩ := Format.double.exponentOf_bounds hnum hden
  have hmin := Format.double.least_le_exponentOf num den
  rw [Format.double.nearestBits_of_pos den hnum, Format.infinityBits_double, min_lt_iff,
    or_iff_right (lt_irrefl _)]
  simp only [Format.least_double, Format.fraction_double, Nat.cast_ofNat] at *
  generalize Format.double.exponentOf num den = q at *
  have hunit : (0 : ℚ) < 2 ^ q := zpow_pos two_pos q
  have hround {n : Nat} (hn : 0 < n) (heven : n % 2 = 0) :
      n ≤ roundDiv (num * (scaled den q).2) (scaled den q).1 ↔
        (n : ℚ) - 1 / 2 ≤ num / den / 2 ^ q := by
    rw [le_roundDiv_iff hn heven (scaled_num_pos hden q), scaled_quotient]
  have hbits (k : Nat) : (2 : ℚ) ^ (q + k) = 2 ^ k * 2 ^ q := by
    rw [zpow_add₀ two_ne_zero, zpow_natCast, mul_comm]
  rw [add_assoc, show ((52 : Int) + 1) = (53 : Nat) from rfl, hbits, ← div_lt_iff₀ hunit] at hhigh
  rw [show (52 : Int) = (52 : Nat) from rfl, hbits, ← le_div_iff₀ hunit] at hlow
  rw [← div_mul_cancel₀ ((num : ℚ) / den) hunit.ne']
  generalize (num : ℚ) / den / 2 ^ q = w at *
  generalize roundDiv (num * (scaled den q).2) (scaled den q).1 = rounded at *
  have hcarry := @hround (2 ^ 53) (by norm_num) (by norm_num)
  have hle : ¬ 2 ^ 53 + 2 ≤ rounded := by
    rw [hround (by norm_num) (by norm_num)]
    push_cast
    linarith
  have hfull (h : 2 ^ 52 ≤ w) : 2 ^ 52 ≤ rounded := by
    rw [hround (by norm_num) (by norm_num)]
    push_cast
    linarith
  rw [lt_overflowBound_iff hhigh hlow (by exact_mod_cast hcarry)]
  rcases hlow with rfl | hlow
  · omega
  · have := hfull hlow
    omega

end PatchTrial.Decimal
