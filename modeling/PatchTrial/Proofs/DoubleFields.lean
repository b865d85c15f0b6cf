import Mathlib
import PatchTrial.Proofs.Rounding

/-!
# The fields of a double

A double is packed into a sign, an exponent and a fraction. Its exact value is read off these
fields, and it is finite unless its exponent field is full. What is packed is unpacked again by
lemmas of the library that none of its smaller modules reaches.

Main statements: `exact_eq_unpackedValue`, `isFinite_ofBits`.
-/
namespace PatchTrial.Decimal

/-- The exact value of a finite number. -/
def Binary.value (b : Binary) : ℚ :=
  (if b.negative then -1 else 1) * b.mantissa * 2 ^ b.exponent

/-- The exact value of a reading, zero if it is not finite. -/
def Reading.value : Reading → ℚ
  | .finite b => b.value
  | _ => 0

end PatchTrial.Decimal

namespace PatchTrial.Double

open Float.Model Float.Model.UnpackedFloat
open Decimal hiding Format

/-- The exact value of a double, zero if it is not finite. -/
def exact (x : Float) : ℚ := (ofFloat x).value

/-- The exact value of an unpacked double, zero if it is not finite. -/
def unpackedValue : UnpackedFloat → ℚ
  | .finite s m e _ => (s.apply m : Int) * 2 ^ e
  | _ => 0

/-! ### Fields -/

theorem toNat_unpackExponent (b : BitVec 64) :
    (@unpackExponent Format.binary64 b).toNat = b.toNat / 2 ^ 52 % 2 ^ 11 := by
  rw [unpackExponent_def, BitVec.extractLsb'_toNat, Nat.shiftRight_eq_div_pow]

theorem toNat_unpackMantissa (b : BitVec 64) :
    (@unpackMantissa Format.binary64 b).toNat = b.toNat % 2 ^ 52 := by
  rw [unpackMantissa_def, BitVec.extractLsb'_toNat, Nat.shiftRight_eq_div_pow, pow_zero,
    Nat.div_one]

theorem toNat_unpackSign (b : BitVec 64) :
    (@unpackSign Format.binary64 b).toNat = b.toNat / 2 ^ 63 % 2 := by
  rw [unpackSign_def, BitVec.extractLsb'_toNat, Nat.shiftRight_eq_div_pow]
  rfl

theorem ofBitVec_unpackSign (b : BitVec 64) :
    Sign.ofBitVec (@unpackSign Format.binary64 b) =
      if b.toNat / 2 ^ 63 % 2 == 1 then .negative else .positive := by
  have hzero : @unpackSign Format.binary64 b = 0#1 ↔ b.toNat / 2 ^ 63 % 2 = 0 := by
    rw [← BitVec.toNat_inj, toNat_unpackSign]
    rfl
  rw [Sign.ofBitVec]
  rcases Nat.mod_two_eq_zero_or_one (b.toNat / 2 ^ 63) with h | h
  · rw [if_pos (hzero.2 h), h]
    rfl
  · rw [if_neg (mt hzero.1 (by rw [h]; exact one_ne_zero)), h]
    rfl

/-! ### The exact value -/

theorem cast_apply_ite (negative : Bool) (m : Nat) :
    (((if negative then Sign.negative else Sign.positive).apply m : Int) : ℚ) =
      (if negative then -1 else 1) * m := by
  cases negative <;> simp [Sign.apply]

/-- The value of an unpacked number in terms of its bits. -/
theorem unpackedValue_unpack (b : BitVec 64) :
    unpackedValue (unpack Format.binary64 b) =
      if b.toNat / 2 ^ 52 % 2 ^ 11 = 2047 then 0
      else if b.toNat / 2 ^ 52 % 2 ^ 11 = 0 then
        (if b.toNat / 2 ^ 63 % 2 == 1 then -1 else 1) * ((b.toNat % 2 ^ 52 : Nat) : ℚ) *
          2 ^ (-1074 : Int)
      else
        (if b.toNat / 2 ^ 63 % 2 == 1 then -1 else 1) * ((2 ^ 52 + b.toNat % 2 ^ 52 : Nat) : ℚ) *
          2 ^ (((b.toNat / 2 ^ 52 % 2 ^ 11 : Nat) : Int) - 1075) := by
  have hfield (n : Nat) (hn : n < 2 ^ 11) :
      @unpackExponent Format.binary64 b = BitVec.ofNat 11 n ↔ b.toNat / 2 ^ 52 % 2 ^ 11 = n := by
    rw [← BitVec.toNat_inj, toNat_unpackExponent, BitVec.toNat_ofNat, Nat.mod_eq_of_lt hn]
  have hones : @unpackExponent Format.binary64 b = -1#11 ↔ b.toNat / 2 ^ 52 % 2 ^ 11 = 2047 :=
    hfield 2047 (by norm_num)
  have hmantissa : @unpackMantissa Format.binary64 b = 0#52 ↔ b.toNat % 2 ^ 52 = 0 := by
    rw [← BitVec.toNat_inj, toNat_unpackMantissa]
    rfl
  have hbias : ((Format.exponentBias Format.binary64 : Nat) : Int) +
      (Format.mantissaBitsWithoutImplicit Format.binary64 : Nat) = 1075 := rfl
  rw [UnpackedFloat.unpack.eq_1, ofBitVec_unpackSign]
  split
  next h =>
    rw [if_pos (hones.1 h)]
    split <;> rfl
  next h =>
    rw [if_neg (mt hones.2 h)]
    split
    next h0 =>
      rw [if_pos ((hfield 0 (by norm_num)).1 h0)]
      split
      next hm =>
        rw [hmantissa.1 hm]
        simp [unpackedValue]
      next hm =>
        rw [unpackedValue, toNat_unpackMantissa, h0, hbias, cast_apply_ite]
        rfl
    next h0 =>
      have hwhole : (1#1 ++ @unpackMantissa Format.binary64 b).toNat =
          2 ^ 52 + b.toNat % 2 ^ 52 := by
        rw [BitVec.toNat_append, toNat_unpackMantissa, ← Nat.shiftLeft_add_eq_or_of_lt]
        · rfl
        · exact Nat.mod_lt _ (Nat.two_pow_pos 52)
      rw [if_neg (mt (hfield 0 (by norm_num)).2 h0), unpackedValue, hwhole, hbias,
        toNat_unpackExponent, cast_apply_ite]

theorem read_double (bits : Nat) :
    Decimal.Format.double.read bits =
      (if bits / 2 ^ 52 % 2 ^ 11 = 2047 then
        if bits % 2 ^ 52 = 0 then .infinite (bits / 2 ^ 63 % 2 == 1) else .notANumber
      else if bits / 2 ^ 52 % 2 ^ 11 = 0 then
        .finite ⟨bits / 2 ^ 63 % 2 == 1, bits % 2 ^ 52, -1074, 2⟩
      else .finite ⟨bits / 2 ^ 63 % 2 == 1, 2 ^ 52 + bits % 2 ^ 52,
        (bits / 2 ^ 52 % 2 ^ 11 : Nat) - 1075,
        if bits % 2 ^ 52 = 0 && bits / 2 ^ 52 % 2 ^ 11 > 1 then 1 else 2⟩) := by
  have hleast : Decimal.Format.double.least = -1074 := by decide
  have hf : Decimal.Format.double.fraction = 52 := rfl
  have he : Decimal.Format.double.exponent = 11 := rfl
  rw [Decimal.Format.read, hleast, hf, he]
  have hshift (k : Nat) : (-1074 : Int) + k - 1 = k - 1075 := by omega
  simp only [Nat.pow_eq, hshift]

theorem exact_eq_unpackedValue (x : Float) : exact x = unpackedValue x.toModel.unpack := by
  have hbits : x.toModel.toBits.toBitVec.toNat = x.toBits.toNat := rfl
  rw [Float.Model.unpack, unpackedValue_unpack, exact, ofFloat, read_double, hbits]
  by_cases hones : x.toBits.toNat / 2 ^ 52 % 2 ^ 11 = 2047
  · rw [if_pos hones, if_pos hones]
    split <;> rfl
  · rw [if_neg hones, if_neg hones]
    split <;> rfl

theorem abs_unpackedValue_unpack_lt (b : BitVec 64) :
    |unpackedValue (unpack Format.binary64 b)| < overflowBound := by
  have hunits {m : Nat} {e : Int} (hm : m < 2 ^ 53) (he : e ≤ 971) (negative : Bool) :
      |(if negative then -1 else 1) * (m : ℚ) * 2 ^ e| < overflowBound := by
    have hstep : (2 : ℚ) ^ e ≤ 2 ^ (971 : Int) := zpow_le_zpow_right₀ one_le_two he
    have hsign : |if negative then (-1 : ℚ) else 1| = 1 := by cases negative <;> simp
    have hm' : (m : ℚ) ≤ 2 ^ 53 - 1 := by
      have : (m : ℚ) + 1 ≤ 2 ^ 53 := by exact_mod_cast hm
      linarith
    have hpos : (0 : ℚ) < 2 ^ (971 : Int) := zpow_pos two_pos _
    rw [abs_mul, abs_mul, hsign, one_mul, Nat.abs_cast, abs_of_pos (zpow_pos two_pos e),
      overflowBound_eq]
    generalize (2 : ℚ) ^ (971 : Int) = step at *
    calc (m : ℚ) * 2 ^ e ≤ (2 ^ 53 - 1) * step :=
          mul_le_mul hm' hstep (zpow_pos two_pos e).le (by norm_num)
      _ < (2 ^ 53 - 1 / 2) * step := by linarith only [hpos]
  rw [unpackedValue_unpack]
  have hfraction := Nat.mod_lt b.toNat (Nat.two_pow_pos 52)
  split
  · rw [abs_zero]
    exact overflowBound_pos
  · split
    · exact hunits (by omega) (by omega) _
    · exact hunits (by omega) (by omega) _

theorem abs_exact_lt (x : Float) : |exact x| < overflowBound := by
  rw [exact_eq_unpackedValue]
  exact abs_unpackedValue_unpack_lt _

/-! ### Finite doubles -/

theorem isFinite_unpack_iff (b : BitVec 64) :
    (unpack Format.binary64 b).isFinite = true ↔
      @unpackExponent Format.binary64 b ≠ -1#11 := by
  rw [UnpackedFloat.unpack.eq_1]
  split
  next h =>
    refine iff_of_false ?_ (not_not_intro h)
    split <;> simp [UnpackedFloat.isFinite]
  next h =>
    refine iff_of_true ?_ h
    split
    · split <;> rfl
    · rfl

/-- The bias of the exponent field and the width of the fraction together. -/
theorem biased_eq (e : Int) :
    e + (Format.exponentBias Format.binary64 : Int) +
      (Format.mantissaBitsWithoutImplicit Format.binary64 : Int) = e + 1075 := by
  have h : (Format.exponentBias Format.binary64 : Int) = 1023 := rfl
  rw [h, add_assoc]
  rfl

theorem isFinite_pack_finite (s : Sign) {m : Nat} (e : Int) (hm : 0 < m) :
    (Float.Model.pack (.finite s m e hm)).isFinite = true ↔ e < 972 := by
  rw [Float.Model.isFinite, Float.Model.unpack, Float.Model.pack, isFinite_unpack_iff]
  dsimp only
  rw [UnpackedFloat.pack.eq_def]
  dsimp only
  rw [biased_eq]
  split
  next h =>
    rw [packedInfinity, unpackExponent_packComponents]
    exact iff_of_false (not_not_intro rfl) (by simp at h; omega)
  next h =>
    have he : e < 972 := by simp at h; omega
    refine iff_of_true (fun hc => ?_) he
    split at hc
    · rw [unpackExponent_packComponents] at hc
      have := congrArg BitVec.toNat hc
      simp at this
      omega
    · rw [unpackExponent_packComponents] at hc
      exact absurd hc (by decide)

/-- Packing what was unpacked loses no number. -/
theorem unpack_pack_unpack (b : BitVec 64) :
    (Float.Model.pack (unpack Format.binary64 b)).unpack = unpack Format.binary64 b := by
  rw [Float.Model.unpack, Float.Model.pack]
  dsimp only
  rw [pack_unpack]
  split
  next h =>
    rw [isNaNBits, decide_eq_true_eq] at h
    rw [unpack_packedNaN, UnpackedFloat.unpack.eq_1, if_pos h.1, if_neg h.2]
  · rfl

theorem isFinite_ofBits (n : UInt64) :
    (Float.ofBits n).isFinite = true ↔ n.toNat / 2 ^ 52 % 2 ^ 11 ≠ 2047 := by
  have hbits : (Float.ofBits n).isFinite = (unpack Format.binary64 n.toBitVec).isFinite :=
    congrArg UnpackedFloat.isFinite (unpack_pack_unpack n.toBitVec)
  rw [hbits, isFinite_unpack_iff, ne_eq, ne_eq, ← BitVec.toNat_inj, toNat_unpackExponent]
  rfl

theorem pack_unpack_model (x : Float.Model) : Float.Model.pack x.unpack = x := by
  obtain ⟨⟨b⟩, hb⟩ := x
  simp only [Float.Model.unpack, Float.Model.pack, pack_unpack_of_valid hb]

/-! ### Signs -/

theorem isFinite_pack_neg (u : UnpackedFloat) :
    (Float.Model.pack u.neg).isFinite = (Float.Model.pack u).isFinite := by
  cases u with
  | notANumber => rfl
  | infinity s => cases s <;> rfl
  | zero s => cases s <;> rfl
  | finite s m e hm =>
    rw [Bool.eq_iff_iff, UnpackedFloat.neg, isFinite_pack_finite, isFinite_pack_finite]

theorem isFinite_neg (x : Float) : (-x).isFinite = x.isFinite := by
  change (Float.Model.pack x.toModel.unpack.neg).isFinite = x.toModel.isFinite
  rw [isFinite_pack_neg, pack_unpack_model]

/-- The magnitude of what was unpacked is unpacked from the bits without their sign. -/
theorem abs_unpack (b : BitVec 64) :
    (unpack Format.binary64 b).abs = unpack Format.binary64
      (packComponents Format.binary64 .positive (@unpackExponent Format.binary64 b)
        (@unpackMantissa Format.binary64 b)) := by
  rw [UnpackedFloat.unpack.eq_1, UnpackedFloat.unpack.eq_1]
  simp only [unpackExponent_packComponents, unpackMantissa_packComponents,
    unpackSign_packComponents]
  split
  · split <;> rfl
  · split
    · split <;> rfl
    · rfl

theorem unpack_abs (x : Float) : x.abs.toModel.unpack = x.toModel.unpack.abs := by
  change (Float.Model.pack (unpack Format.binary64 x.toModel.toBits.toBitVec).abs).unpack =
    (unpack Format.binary64 x.toModel.toBits.toBitVec).abs
  rw [abs_unpack, unpack_pack_unpack]

theorem exact_abs (x : Float) : exact x.abs = |exact x| := by
  rw [exact_eq_unpackedValue, exact_eq_unpackedValue, unpack_abs]
  cases x.toModel.unpack with
  | notANumber => exact abs_zero.symm
  | infinity s => exact abs_zero.symm
  | zero s => exact abs_zero.symm
  | finite s m e hm =>
    have h : (0 : ℚ) < 2 ^ e := zpow_pos two_pos e
    cases s <;> simp [UnpackedFloat.abs, unpackedValue, Sign.apply, abs_mul, abs_of_pos h]

theorem isFinite_abs (x : Float) : x.abs.isFinite = x.isFinite := by
  change x.abs.toModel.unpack.isFinite = x.toModel.unpack.isFinite
  rw [unpack_abs]
  cases x.toModel.unpack <;> rfl

theorem beq_zero_iff (hx : x.isFinite = true) : (x == 0) = true ↔ exact x = 0 := by
  change x.toModel.unpack.isFinite = true at hx
  change (x.toModel.unpack.beq (.zero .positive)) = true ↔ _
  rw [exact_eq_unpackedValue]
  generalize x.toModel.unpack = u at *
  cases u with
  | notANumber => cases hx
  | infinity s => cases hx
  | zero s => exact iff_of_true rfl rfl
  | finite s m e hm =>
    have hm' : (m : ℚ) ≠ 0 := by exact_mod_cast hm.ne'
    have h : (2 : ℚ) ^ e ≠ 0 := zpow_ne_zero e two_ne_zero
    refine iff_of_false (by cases s <;> exact Bool.false_ne_true) ?_
    cases s <;> simp [unpackedValue, Sign.apply, hm', h]

end PatchTrial.Double
