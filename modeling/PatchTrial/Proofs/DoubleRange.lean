import PatchTrial.Proofs.DoubleFields

/-!
# Overflow of differences and quotients

A difference or a quotient of doubles is the exact one rounded to the nearest double, so it is
finite exactly if the exact one stays below the bound for overflow. Only the size of a result is
followed here, not its digits.

Main statements: `isFinite_sub_iff`, `isFinite_div_iff`.
-/
namespace PatchTrial.Double

open Float.Model Float.Model.UnpackedFloat
open Decimal hiding Format

/-! ### What is cut off -/

/-- What the bits behind a mantissa say of the number that it was cut from. -/
def Describes (em : ExtendedMantissa) (v : ℚ) : Prop :=
  match em.roundBit, em.stickyBit with
  | false, false => v = em.mantissa
  | false, true => em.mantissa < v ∧ v < em.mantissa + 1 / 2
  | true, false => v = em.mantissa + 1 / 2
  | true, true => em.mantissa + 1 / 2 < v ∧ v < em.mantissa + 1

theorem Describes.shiftRightOne {em : ExtendedMantissa} {v : ℚ} (h : Describes em v) :
    Describes em.shiftRightOne (v / 2) := by
  obtain ⟨m, r, s⟩ := em
  obtain ⟨k, rfl | rfl⟩ := Nat.even_or_odd' m <;> cases r <;> cases s <;>
    simp [Describes, ExtendedMantissa.shiftRightOne, Nat.mul_add_div] at h ⊢
  all_goals first | linarith | (constructor <;> linarith)

theorem Describes.shiftRight {em : ExtendedMantissa} {v : ℚ} (h : Describes em v) (k : Nat) :
    Describes (em >>> k) (v / 2 ^ k) := by
  induction k with
  | zero => simpa [HShiftRight.hShiftRight, Nat.repeat] using h
  | succ k ih =>
    rw [pow_succ, ← div_div]
    exact ih.shiftRightOne

theorem Describes.floor {em : ExtendedMantissa} {v : ℚ} (h : Describes em v) :
    em.mantissa ≤ v ∧ v < em.mantissa + 1 := by
  obtain ⟨m, r, s⟩ := em
  cases r <;> cases s <;> simp only [Describes] at h ⊢ <;> constructor <;> linarith

theorem roundedMantissa_bounds (em : ExtendedMantissa) :
    em.mantissa ≤ em.roundedMantissa ∧ em.roundedMantissa ≤ em.mantissa + 1 := by
  obtain ⟨m, r, s⟩ := em
  cases r <;> cases s <;>
    simp [ExtendedMantissa.roundedMantissa, ExtendedMantissa.accuracy, Accuracy.roundToNearestEven]
  omega

/-- An odd mantissa is rounded up exactly if half a unit or more was cut off. -/
theorem roundedMantissa_of_odd {em : ExtendedMantissa} (h : em.mantissa % 2 = 1) :
    em.roundedMantissa = em.mantissa + em.roundBit.toNat := by
  obtain ⟨m, r, s⟩ := em
  cases r <;> cases s <;>
    simp [ExtendedMantissa.roundedMantissa, ExtendedMantissa.accuracy, Accuracy.roundToNearestEven]
  exact h

theorem Describes.roundBit_iff {em : ExtendedMantissa} {v : ℚ} (h : Describes em v) :
    em.roundBit = true ↔ (em.mantissa : ℚ) + 1 / 2 ≤ v := by
  obtain ⟨m, r, s⟩ := em
  cases r <;> cases s <;> simp only [Describes] at h <;> simp <;> linarith

/-- Rounding to nearest reaches an even number from half a unit below it on. -/
theorem Describes.le_rounded_iff {em : ExtendedMantissa} {v : ℚ} (h : Describes em v) {n : Nat}
    (hn : 0 < n) (heven : n % 2 = 0) : n ≤ em.roundedMantissa ↔ (n : ℚ) - 1 / 2 ≤ v := by
  obtain ⟨hlow, hhigh⟩ := roundedMantissa_bounds em
  obtain ⟨hfloor, hceil⟩ := h.floor
  rcases Nat.lt_trichotomy n (em.mantissa + 1) with hlt | rfl | hgt
  · have hcast : (n : ℚ) ≤ em.mantissa := by exact_mod_cast Nat.le_of_lt_succ hlt
    exact iff_of_true (by omega) (by linarith)
  · rw [roundedMantissa_of_odd (by omega)]
    have hbit := h.roundBit_iff
    cases hr : em.roundBit <;> simp [hr] at hbit ⊢ <;> linarith
  · have hcast : (em.mantissa : ℚ) + 2 ≤ n := by exact_mod_cast hgt
    exact iff_of_false (by omega) (by linarith)

theorem describes_exact (m : Nat) :
    Describes (ExtendedMantissa.ofMantissaAndAccuracy m .exact) m := rfl

theorem describes_fraction (m : Nat) {num den : Nat} (h : num < den) :
    Describes (ExtendedMantissa.ofMantissaAndAccuracy m (accuracyOfFraction num den))
      (m + num / den) := by
  have hden : (0 : ℚ) < den := by exact_mod_cast Nat.zero_lt_of_lt h
  have hhalf (c : Nat) : (num : ℚ) / den < c / 2 ↔ 2 * num < c * den := by
    rw [div_lt_div_iff₀ hden two_pos, ← Nat.cast_lt (α := ℚ)]
    push_cast
    rw [mul_comm (num : ℚ)]
  have hhalf' (c : Nat) : (c : ℚ) / 2 < num / den ↔ c * den < 2 * num := by
    rw [div_lt_div_iff₀ two_pos hden, ← Nat.cast_lt (α := ℚ)]
    push_cast
    rw [mul_comm (num : ℚ)]
  have hone : (num : ℚ) / den < 1 := by simpa using (hhalf 2).2 (by omega)
  rw [accuracyOfFraction]
  split
  next h0 => simp [h0, Describes, ExtendedMantissa.ofMantissaAndAccuracy]
  next h0 =>
    rcases Nat.lt_trichotomy (2 * num) den with hc | hc | hc
    · have hpos : 0 < (num : ℚ) / den := by simpa using (hhalf' 0).2 (by omega)
      have hlt := (hhalf 1).2 (by omega)
      rw [Nat.compare_eq_lt.2 hc]
      rw [Nat.cast_one] at hlt
      exact ⟨by simpa [ExtendedMantissa.ofMantissaAndAccuracy] using hpos,
        by simpa [ExtendedMantissa.ofMantissaAndAccuracy] using hlt⟩
    · have heq : (num : ℚ) / den = 1 / 2 := by
        rw [div_eq_div_iff hden.ne' two_ne_zero, mul_comm, one_mul]
        exact_mod_cast hc
      rw [Nat.compare_eq_eq.2 hc, heq]
      rfl
    · have hgt := (hhalf' 1).2 (by omega)
      rw [Nat.compare_eq_gt.2 hc]
      rw [Nat.cast_one] at hgt
      exact ⟨by simpa [ExtendedMantissa.ofMantissaAndAccuracy] using hgt,
        by simpa [ExtendedMantissa.ofMantissaAndAccuracy] using hone⟩

/-! ### Rounding -/

theorem targetExponent_eq (m : Nat) (e : Int) :
    Format.binary64.targetExponent (totalExponent m e) = max (m.log2 + e - 52) (-1074) := by
  have hbits : (Format.binary64.mantissaBits : Int) = 53 := rfl
  have hmin : Format.binary64.minExponent = -1074 := rfl
  rw [Format.targetExponent, totalExponent, hbits, hmin]
  congr 1
  omega

theorem shiftToTargetExponent_eq {m : Nat} {e t : Int} {acc : Accuracy}
    (ht : Format.binary64.targetExponent (totalExponent m e) = t) (he : e ≤ t) :
    shiftToTargetExponent Format.binary64 m e acc =
      (ExtendedMantissa.ofMantissaAndAccuracy m acc >>> (t - e).toNat, t) := by
  rw [shiftToTargetExponent, ht, shiftToExponent, Int.toNat_of_nonneg (by omega)]
  congr 1
  omega

theorem shiftToTargetExponent_of_lt {r : Nat} {t : Int} (hr : r < 2 ^ 53) (ht : -1074 ≤ t) :
    shiftToTargetExponent Format.binary64 r t .exact =
      (ExtendedMantissa.ofMantissaAndAccuracy r .exact, t) := by
  have hlog : r.log2 ≤ 52 := by
    rcases Nat.eq_zero_or_pos r with rfl | hpos
    · simp
    · exact Nat.le_of_lt_succ ((Nat.log2_lt hpos.ne').2 hr)
  have hnone : (Format.binary64.targetExponent (totalExponent r t) - t).toNat = 0 := by
    rw [targetExponent_eq]
    omega
  rw [shiftToTargetExponent, shiftToExponent, hnone]
  simp [HShiftRight.hShiftRight, Nat.repeat]

theorem shiftToTargetExponent_carry {t : Int} (ht : -1074 ≤ t) :
    shiftToTargetExponent Format.binary64 (2 ^ 53) t .exact =
      (ExtendedMantissa.ofMantissaAndAccuracy (2 ^ 52) .exact, t + 1) := by
  have htarget : Format.binary64.targetExponent (totalExponent (2 ^ 53) t) = t + 1 := by
    rw [targetExponent_eq, Nat.log2_two_pow]
    omega
  rw [shiftToTargetExponent_eq htarget (by omega), show (t + 1 - t).toNat = 1 by omega]
  rfl

/-- At the target exponent a number has 53 bits, unless that is the least exponent. -/
theorem shifted_bounds {m k : Nat} {e : Int} {v : ℚ} (hfloor : (m : ℚ) ≤ v ∧ v < m + 1)
    (hk : max (m.log2 + e - 52) (-1074) = e + k) :
    v / 2 ^ k < 2 ^ 53 ∧ (e + k = -1074 ∨ (2 : ℚ) ^ 52 ≤ v / 2 ^ k) := by
  have hunit : (0 : ℚ) < 2 ^ k := by positivity
  constructor
  · rw [div_lt_iff₀ hunit, ← pow_add]
    have hlog : m + 1 ≤ 2 ^ (53 + k) :=
      Nat.succ_le_of_lt (Nat.lt_log2_self.trans_le (Nat.pow_le_pow_right two_pos (by omega)))
    have hlog' : (m : ℚ) + 1 ≤ 2 ^ (53 + k) := by exact_mod_cast hlog
    exact hfloor.2.trans_le hlog'
  · rw [or_iff_not_imp_left]
    intro hne
    rw [le_div_iff₀ hunit, ← pow_add]
    have hpos : m ≠ 0 := by
      rintro rfl
      simp at hk
      omega
    have hlog : 2 ^ (52 + k) ≤ m :=
      (Nat.pow_le_pow_right two_pos (by omega)).trans (Nat.log2_self_le hpos)
    have hlog' : (2 : ℚ) ^ (52 + k) ≤ m := by exact_mod_cast hlog
    exact hlog'.trans hfloor.1

/-- Rounding a number of 53 bits may carry into another bit, but loses none. -/
theorem Describes.rounded_bounds {em : ExtendedMantissa} {w : ℚ} (h : Describes em w)
    (hw : w < 2 ^ 53) :
    em.roundedMantissa ≤ 2 ^ 53 ∧ ((2 : ℚ) ^ 52 ≤ w → 2 ^ 52 ≤ em.roundedMantissa) := by
  constructor
  · have hmantissa : em.mantissa < 2 ^ 53 := by
      have hlt := h.floor.1.trans_lt hw
      exact_mod_cast hlt
    exact (roundedMantissa_bounds em).2.trans hmantissa
  · intro hfull
    rw [h.le_rounded_iff (by norm_num) (by norm_num)]
    push_cast
    linarith only [hfull]

theorem mantissa_ofMantissaAndAccuracy (m : Nat) (acc : Accuracy) :
    (ExtendedMantissa.ofMantissaAndAccuracy m acc).mantissa = m := by
  cases acc with
  | exact => rfl
  | inexact o => cases o <;> rfl

theorem isFinite_pack_round {s : Sign} {m : Nat} {e : Int} {acc : Accuracy} {v : ℚ}
    (hv : Describes (ExtendedMantissa.ofMantissaAndAccuracy m acc) v)
    (he : e ≤ Format.binary64.targetExponent (totalExponent m e)) :
    (Float.Model.pack (roundWithAccuracy Format.binary64 s m e acc)).isFinite = true ↔
      v * 2 ^ e < overflowBound := by
  generalize ht : Format.binary64.targetExponent (totalExponent m e) = t at he
  obtain ⟨k, rfl⟩ : ∃ k : Nat, t = e + k := ⟨(t - e).toNat, by omega⟩
  have hsteps : (e + k - e).toNat = k := by omega
  have hmin : -1074 ≤ e + k := by
    rw [targetExponent_eq] at ht
    omega
  have hshift := hv.shiftRight k
  have hfloor := hv.floor
  rw [mantissa_ofMantissaAndAccuracy] at hfloor
  obtain ⟨hhigh, hlow⟩ := shifted_bounds hfloor ((targetExponent_eq m e).symm.trans ht)
  have hvalue : v / 2 ^ k * 2 ^ (e + k) = v * 2 ^ e := by
    rw [zpow_add₀ two_ne_zero, zpow_natCast]
    field_simp
  rw [roundWithAccuracy, shiftToTargetExponent_eq ht he, hsteps, ← hvalue]
  generalize ExtendedMantissa.ofMantissaAndAccuracy m acc >>> k = em at hshift ⊢
  generalize v / 2 ^ k = w at *
  generalize e + (k : Int) = t at *
  have hcarry := hshift.le_rounded_iff (n := 2 ^ 53) (by norm_num) (by norm_num)
  obtain ⟨hle, hfull⟩ := hshift.rounded_bounds hhigh
  rw [lt_overflowBound_iff hhigh hlow (by exact_mod_cast hcarry)]
  dsimp only
  generalize em.roundedMantissa = r at *
  rcases hle.lt_or_eq with hlt | rfl
  · rw [shiftToTargetExponent_of_lt hlt hmin]
    split
    next h0 =>
      have hr : r = 0 := h0
      refine iff_of_true (by cases s <;> rfl) ?_
      have := hlow.resolve_right (mt hfull (by omega))
      omega
    next h0 =>
      rw [isFinite_pack_finite]
      omega
  · rw [shiftToTargetExponent_carry hmin]
    split
    next h0 => exact absurd h0 (Nat.two_pow_pos 52).ne'
    next h0 =>
      rw [isFinite_pack_finite]
      omega

theorem decreaseExponent_value (m : Nat) (e t : Int) :
    ((decreaseExponent m e t).1 : ℚ) * 2 ^ (decreaseExponent m e t).2 = m * 2 ^ e := by
  rw [decreaseExponent]
  dsimp only
  obtain ⟨k, hk⟩ : ∃ k : Nat, (e - t).toNat = k := ⟨_, rfl⟩
  rw [hk, Nat.shiftLeft_eq, zpow_sub₀ two_ne_zero, zpow_natCast]
  push_cast
  field_simp

theorem log2_shiftLeft {m : Nat} (hm : 0 < m) (k : Nat) : (m <<< k).log2 = m.log2 + k := by
  have hlow := Nat.mul_le_mul_right (2 ^ k) (Nat.log2_self_le hm.ne')
  have hhigh := Nat.mul_lt_mul_of_pos_right (@Nat.lt_log2_self m) (Nat.two_pow_pos k)
  rw [Nat.shiftLeft_eq, Nat.log2_eq_iff (by positivity)]
  rw [← pow_add] at hlow hhigh
  exact ⟨hlow, by rwa [show m.log2 + k + 1 = m.log2 + 1 + k by omega]⟩

theorem isFinite_pack_roundExact {s : Sign} {m : Nat} (e : Int) (hm : 0 < m) :
    (Float.Model.pack (UnpackedFloat.round Format.binary64 s m e)).isFinite = true ↔
      (m : ℚ) * 2 ^ e < overflowBound := by
  rw [UnpackedFloat.round]
  dsimp only
  rw [← decreaseExponent_value m e (Format.binary64.targetExponent (totalExponent m e))]
  refine isFinite_pack_round (describes_exact _) ?_
  rw [decreaseExponent, targetExponent_eq, targetExponent_eq]
  dsimp only
  rw [log2_shiftLeft hm]
  omega

theorem isFinite_pack_zero (s : Sign) : (Float.Model.pack (.zero s)).isFinite = true := by
  cases s <;> rfl

theorem isFinite_pack_normalize (m e : Int) (zero : Sign) :
    (Float.Model.pack (UnpackedFloat.normalize Format.binary64 m e zero)).isFinite = true ↔
      |(m : ℚ) * 2 ^ e| < overflowBound := by
  have habs : |(m : ℚ) * 2 ^ e| = (m.natAbs : Nat) * 2 ^ e := by
    rw [abs_mul, abs_of_pos (zpow_pos two_pos e : (0 : ℚ) < 2 ^ e), Nat.cast_natAbs, Int.cast_abs]
  rw [habs, UnpackedFloat.normalize]
  rcases lt_trichotomy m 0 with hm | rfl | hm
  · rw [Int.compare_eq_lt.2 hm]
    dsimp only
    rw [isFinite_pack_roundExact e (by omega), show (-m).toNat = m.natAbs by omega]
  · rw [show compare (0 : Int) 0 = .eq from rfl]
    dsimp only
    exact iff_of_true (isFinite_pack_zero zero) (by simpa using overflowBound_pos)
  · rw [Int.compare_eq_gt.2 hm]
    dsimp only
    rw [isFinite_pack_roundExact e (by omega), show m.toNat = m.natAbs by omega]

theorem apply_decreaseExponent (s : Sign) (m : Nat) {e t : Int} (h : t ≤ e) :
    ((s.apply (decreaseExponent m e t).1 : Int) : ℚ) * 2 ^ t = (s.apply m : Int) * 2 ^ e := by
  have hvalue := decreaseExponent_value m e t
  rw [show (decreaseExponent m e t).2 = t by rw [decreaseExponent]; dsimp only; omega] at hvalue
  cases s <;> simp [Sign.apply, hvalue]

/-- Bringing two exponents to the smaller one makes a difference a whole number of units. -/
theorem isFinite_pack_sub {u w : UnpackedFloat} (hu : (Float.Model.pack u).isFinite = true)
    (hw : (Float.Model.pack w).isFinite = true) (hub : |unpackedValue u| < overflowBound)
    (hwb : |unpackedValue w| < overflowBound) :
    (Float.Model.pack (UnpackedFloat.sub Format.binary64 u w)).isFinite = true ↔
      |unpackedValue u - unpackedValue w| < overflowBound := by
  cases u with
  | notANumber => exact absurd hu (by decide)
  | infinity s => cases s <;> exact absurd hu (by decide)
  | zero s =>
    cases w with
    | notANumber => exact absurd hw (by decide)
    | infinity s => cases s <;> exact absurd hw (by decide)
    | zero s' =>
      refine iff_of_true (by cases s <;> cases s' <;> rfl) ?_
      simpa [unpackedValue] using overflowBound_pos
    | finite s' m e hm =>
      refine iff_of_true ?_ ?_
      · rw [← isFinite_pack_neg] at hw
        exact hw
      · rwa [show unpackedValue (.zero s) = 0 from rfl, zero_sub, abs_neg]
  | finite s m e hm =>
    cases w with
    | notANumber => exact absurd hw (by decide)
    | infinity s => cases s <;> exact absurd hw (by decide)
    | zero s' =>
      refine iff_of_true hu ?_
      rwa [show unpackedValue (.zero s') = 0 from rfl, sub_zero]
    | finite s' m' e' hm' =>
      rw [UnpackedFloat.sub]
      dsimp only
      rw [isFinite_pack_normalize]
      rw [unpackedValue, unpackedValue, ← apply_decreaseExponent s m (min_le_left e e'),
        ← apply_decreaseExponent s' m' (min_le_right e e'), ← sub_mul]
      push_cast
      rfl

theorem div_log2_le {m n k : Nat} (hn : 0 < n) (h : n.log2 + k + 1 ≤ m.log2) (hm : 0 < m) :
    k ≤ (m / n).log2 := by
  have hlow := Nat.log2_self_le hm.ne'
  have hhigh := @Nat.lt_log2_self n
  have hquot : 2 ^ k ≤ m / n := by
    rw [Nat.le_div_iff_mul_le hn]
    calc 2 ^ k * n ≤ 2 ^ k * 2 ^ (n.log2 + 1) := Nat.mul_le_mul_left _ hhigh.le
      _ = 2 ^ (n.log2 + k + 1) := by rw [← pow_add]; congr 1; omega
      _ ≤ 2 ^ m.log2 := Nat.pow_le_pow_right two_pos h
      _ ≤ m := hlow
  rw [Nat.le_log2 (by have := Nat.two_pow_pos k; omega)]
  exact hquot

/-- Quotient and remainder of a shifted number make up its fraction. -/
theorem quotient_add_remainder (m : Nat) {n : Nat} (hn : 0 < n) (k : Nat) :
    ((m <<< k / n : Nat) : ℚ) + ((m <<< k % n : Nat) : ℚ) / n = (m : ℚ) * 2 ^ k / n := by
  have hdm : n * (m <<< k / n) + m <<< k % n = m * 2 ^ k := by
    rw [Nat.div_add_mod, Nat.shiftLeft_eq]
  have hn' : (n : ℚ) ≠ 0 := by exact_mod_cast hn.ne'
  rw [eq_div_iff hn', add_mul, div_mul_cancel₀ _ hn', mul_comm]
  exact_mod_cast hdm

theorem isFinite_pack_divCore (s : Sign) {m₁ m₂ : Nat} (e₁ e₂ : Int) (h₁ : 0 < m₁) (h₂ : 0 < m₂) :
    (Float.Model.pack (roundWithAccuracy Format.binary64 s
      (divCore Format.binary64 m₁ e₁ m₂ e₂).1 (divCore Format.binary64 m₁ e₁ m₂ e₂).2.1
      (divCore Format.binary64 m₁ e₁ m₂ e₂).2.2)).isFinite = true ↔
      (m₁ : ℚ) * 2 ^ e₁ / (m₂ * 2 ^ e₂) < overflowBound := by
  have htarget : Format.binary64.targetExponent (totalExponent m₁ e₁ - totalExponent m₂ e₂) =
      max (m₁.log2 + e₁ - m₂.log2 - e₂ - 53) (-1074) := by
    have hbits : (Format.binary64.mantissaBits : Int) = 53 := rfl
    have hmin : Format.binary64.minExponent = -1074 := rfl
    rw [Format.targetExponent, totalExponent, totalExponent, hbits, hmin]
    congr 1
    omega
  rw [divCore, htarget]
  dsimp only
  generalize hq : min (e₁ - e₂) (max (m₁.log2 + e₁ - m₂.log2 - e₂ - 53) (-1074)) = q
  obtain ⟨k, hk⟩ : ∃ k : Nat, e₁ - e₂ - q = k := ⟨(e₁ - e₂ - q).toNat, by omega⟩
  rw [hk, Int.toNat_natCast]
  have hmod : (m₁ <<< k) % m₂ < m₂ := Nat.mod_lt _ h₂
  rw [isFinite_pack_round (describes_fraction _ hmod), quotient_add_remainder m₁ h₂]
  · have hpow : (2 : ℚ) ^ k * 2 ^ q = 2 ^ e₁ / 2 ^ e₂ := by
      rw [← zpow_natCast, ← zpow_add₀ two_ne_zero, ← zpow_sub₀ two_ne_zero]
      congr 1
      omega
    rw [div_mul_eq_mul_div, mul_assoc, hpow, mul_div_assoc', div_div, mul_comm (2 ^ e₂ : ℚ)]
  · rw [targetExponent_eq]
    rcases le_or_gt q (-1074) with hmin | hmin
    · exact hmin.trans (le_max_right _ _)
    · -- above the least exponent the quotient has at least 53 bits
      have hlog := log2_shiftLeft h₁ k
      have hpos : 0 < m₁ <<< k := Nat.shiftLeft_pos_iff.2 h₁
      have := div_log2_le (k := 52) h₂ (by omega) hpos
      omega

theorem isFinite_pack_div {u w : UnpackedFloat} (hu : (Float.Model.pack u).isFinite = true)
    (hw : (Float.Model.pack w).isFinite = true) (hw0 : unpackedValue w ≠ 0) :
    (Float.Model.pack (UnpackedFloat.div Format.binary64 u w)).isFinite = true ↔
      |unpackedValue u| < overflowBound * |unpackedValue w| := by
  have hpos : 0 < overflowBound * |unpackedValue w| :=
    mul_pos overflowBound_pos (abs_pos.2 hw0)
  cases w with
  | notANumber => exact absurd hw (by decide)
  | infinity s => cases s <;> exact absurd hw (by decide)
  | zero s => exact absurd rfl hw0
  | finite s' m' e' hm' =>
    cases u with
    | notANumber => exact absurd hu (by decide)
    | infinity s => cases s <;> exact absurd hu (by decide)
    | zero s =>
      refine iff_of_true (isFinite_pack_zero _) ?_
      rwa [show unpackedValue (.zero s) = 0 from rfl, abs_zero]
    | finite s m e hm =>
      have habs (s : Sign) {m : Nat} (e : Int) (hm : 0 < m) :
          |unpackedValue (.finite s m e hm)| = m * 2 ^ e := by
        have h : (0 : ℚ) < 2 ^ e := zpow_pos two_pos e
        cases s <;> simp [unpackedValue, Sign.apply, abs_mul, abs_of_pos h]
      rw [habs, habs, UnpackedFloat.div]
      dsimp only
      rw [isFinite_pack_divCore _ _ _ hm hm', div_lt_iff₀]
      exact mul_pos (by exact_mod_cast hm') (zpow_pos two_pos _)

/-! ### Doubles -/

variable {x y : Float}

theorem isFinite_sub_iff (hx : x.isFinite = true) (hy : y.isFinite = true) :
    (x - y).isFinite = true ↔ |exact x - exact y| < overflowBound := by
  have hbx := abs_exact_lt x
  have hby := abs_exact_lt y
  rw [exact_eq_unpackedValue] at hbx hby
  rw [exact_eq_unpackedValue, exact_eq_unpackedValue]
  rw [Float.isFinite, ← pack_unpack_model x.toModel] at hx
  rw [Float.isFinite, ← pack_unpack_model y.toModel] at hy
  exact isFinite_pack_sub hx hy hbx hby

theorem isFinite_div_iff (hx : x.isFinite = true) (hy : y.isFinite = true) (hy0 : exact y ≠ 0) :
    (x / y).isFinite = true ↔ |exact x| < overflowBound * |exact y| := by
  rw [exact_eq_unpackedValue] at hy0 ⊢
  rw [exact_eq_unpackedValue]
  rw [Float.isFinite, ← pack_unpack_model x.toModel] at hx
  rw [Float.isFinite, ← pack_unpack_model y.toModel] at hy
  exact isFinite_pack_div hx hy hy0

theorem isFinite_ofNat64 (n : UInt64) : n.toFloat.isFinite = true := by
  change (Float.Model.pack (UnpackedFloat.normalize Format.binary64 (n.toNat : Int) 0
    .positive)).isFinite = true
  rw [isFinite_pack_normalize, zpow_zero, mul_one, Int.cast_natCast, Nat.abs_cast,
    overflowBound_eq]
  have hn : (n.toNat : ℚ) < 2 ^ 64 := by exact_mod_cast n.toNat_lt
  have hstep : (2 : ℚ) ^ (64 : Int) ≤ 2 ^ (971 : Int) :=
    zpow_le_zpow_right₀ one_le_two (by norm_num)
  have hpos : (0 : ℚ) < 2 ^ (971 : Int) := zpow_pos two_pos _
  rw [show (64 : Int) = (64 : Nat) from rfl, zpow_natCast] at hstep
  generalize (2 : ℚ) ^ (971 : Int) = step at *
  linarith only [hn, hstep, hpos]

end PatchTrial.Double
