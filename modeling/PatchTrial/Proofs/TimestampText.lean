import Mathlib.Algebra.Ring.Nat
import PatchTrial.Proofs.Text
import PatchTrial.Time

/-!
# Reading back timestamps

A point in time with a year of four digits is read back from its text.

Main statement: `parse?_toText`.
-/
namespace PatchTrial.Timestamp

open Text

/-- Whether a point in time has a text of the usual form: a year of four digits, a day and a time of
day that exist, and less than a second in billionths. -/
structure IsRfc3339 (t : Timestamp) : Prop where
  first : 0 ≤ t.year
  last : t.year ≤ 9999
  valid : t.isValid = true
  nanos : t.nanos < 1000000000

/-! ### Numbers of a set width -/

variable {width most n : Nat} {rest : List Char}

theorem length_padded (hwidth : 0 < width) (h : n < 10 ^ width) :
    (padded width n).length = width := by
  have hdigits : (Nat.toDigits 10 n).length ≤ width :=
    (Nat.length_toDigits_le_iff (by decide) hwidth).mpr h
  rw [padded, List.length_append, List.length_replicate, Nat.sub_add_cancel hdigits]

theorem isDigit10_of_mem_padded {c : Char} (h : c ∈ padded width n) : isDigit10 c = true := by
  rcases List.mem_append.mp h with h | h
  · rw [List.eq_of_mem_replicate h]
    rfl
  · exact Nat.isDigit_of_mem_toDigits (by decide) (by decide) h

theorem ofDigitChars_padded (width n : Nat) : Nat.ofDigitChars 10 (padded width n) 0 = n := by
  rw [padded, Nat.ofDigitChars_append, Nat.ofDigitChars_replicate_zero, Nat.mul_zero,
    Nat.ofDigitChars_ten_toDigits]

theorem isBlank_of_isDigit10 {c : Char} (h : isDigit10 c = true) : isBlank c = false := by
  have hbounds : 48 ≤ c.toNat ∧ c.toNat ≤ 57 := by
    rw [isDigit10, Bool.and_eq_true, decide_eq_true_eq, decide_eq_true_eq] at h
    exact h
  simp only [isBlank, Bool.or_eq_false_iff, Bool.and_eq_false_iff, decide_eq_false_iff_not,
    beq_eq_false_iff_ne]
  omega

/-- The digits are cut off in front of what is no digit. -/
theorem takeWhile_padded (hwidth : 0 < width) (h : n < 10 ^ width) (hmost : width ≤ most)
    (hrest : ∀ c, rest.head? = some c → isDigit10 c = false) :
    ((padded width n ++ rest).take most).takeWhile isDigit10 = padded width n := by
  have hstop : (rest.take (most - width)).takeWhile isDigit10 = [] := by
    rcases rest with - | ⟨c, rest⟩
    · rw [List.take_nil, List.takeWhile_nil]
    · cases most - width with
      | zero => rfl
      | succ k => rw [List.take_succ_cons, List.takeWhile_cons_of_neg (by simp [hrest c rfl])]
  rw [List.take_append, length_padded hwidth h,
    List.take_of_length_le (by rw [length_padded hwidth h]; exact hmost),
    List.takeWhile_append_of_pos fun _ => isDigit10_of_mem_padded, hstop, List.append_nil]

/-- A number starts with a digit. -/
theorem isDigit10_of_padded_eq_cons {c : Char} {cs : List Char}
    (h : padded width n ++ rest = c :: cs) : isDigit10 c = true := by
  have hne : padded width n ≠ [] := List.append_ne_nil_of_right_ne_nil _ Nat.toDigits_ne_nil
  obtain ⟨d, ds, hd⟩ := List.exists_cons_of_ne_nil hne
  rw [hd, List.cons_append] at h
  rw [← (List.cons.inj h).1]
  exact isDigit10_of_mem_padded (hd ▸ List.mem_cons_self)

theorem trimStart_padded : trimStart (padded width n ++ rest) = padded width n ++ rest := by
  refine trimStart_eq_self fun c hc => isBlank_of_isDigit10 ?_
  obtain ⟨cs, hcs⟩ := List.head?_eq_some_iff.mp hc
  exact isDigit10_of_padded_eq_cons hcs

theorem digits?_padded (hwidth : 0 < width) (h : n < 10 ^ width) (hmost : width ≤ most)
    (hrest : ∀ c, rest.head? = some c → isDigit10 c = false) :
    digits? most (padded width n ++ rest) = some (n, rest) := by
  have hne : padded width n ≠ [] := List.append_ne_nil_of_right_ne_nil _ Nat.toDigits_ne_nil
  rw [digits?, trimStart_padded]
  simp only [takeWhile_padded hwidth h hmost hrest, ofDigitChars_padded, List.drop_left]
  rw [if_neg (by rwa [List.isEmpty_iff])]

/-- Two digits in front of what is no digit. -/
theorem digits?_two (h : n < 100) {c : Char} (hc : isDigit10 c = false) (cs : List Char) :
    digits? 2 (padded 2 n ++ c :: cs) = some (n, c :: cs) :=
  digits?_padded (by decide) h (Nat.le_refl 2) (by rintro d ⟨⟩; exact hc)

/-! ### Parts of a point in time -/

variable {t : Timestamp}

theorem year?_yearText (h : t.IsRfc3339) (rest : List Char) :
    year? (yearText t.year ++ '-' :: rest) = some (t.year, '-' :: rest) := by
  have hnonneg := h.first
  have hyear : t.year.toNat < 10 ^ 4 := by
    have := h.last
    omega
  rw [yearText, if_pos ⟨h.first, h.last⟩, year?, trimStart_padded]
  dsimp only
  split
  next heq => exact absurd (isDigit10_of_padded_eq_cons heq) (by decide)
  next heq => exact absurd (isDigit10_of_padded_eq_cons heq) (by decide)
  next =>
    rw [digits?_padded (by decide) hyear (Nat.le_refl 4) (by rintro c ⟨⟩; rfl), Option.map_some,
      Int.toNat_of_nonneg hnonneg]

theorem fraction?_padded (hwidth : 0 < width) (hnine : width ≤ 9) (h : n < 10 ^ width) :
    fraction? ('.' :: (padded width n ++ ['Z'])) = some (n * 10 ^ (9 - width), ['Z']) := by
  have hdigits : ((padded width n ++ ['Z']).take 9).takeWhile isDigit10 = padded width n :=
    takeWhile_padded hwidth h hnine (by rintro c ⟨⟩; rfl)
  have hne : padded width n ≠ [] := List.append_ne_nil_of_right_ne_nil _ Nat.toDigits_ne_nil
  simp only [fraction?, hdigits, ofDigitChars_padded, length_padded hwidth h,
    List.drop_left' (length_padded hwidth h)]
  rw [if_neg (by rwa [List.isEmpty_iff])]
  rfl

/-- The fraction of a second, of which zeros at the end are not written. -/
theorem fraction?_fractionText (h : n < 1000000000) :
    fraction? (fractionText n ++ ['Z']) = some (n, ['Z']) := by
  unfold fractionText
  split
  next hzero =>
    rw [hzero]
    rfl
  split
  next hmillis =>
    have hvalue : n / 1000000 * 10 ^ (9 - 3) = n := by omega
    rw [List.cons_append, fraction?_padded (by decide) (by decide) (by omega), hvalue]
  split
  next hmicros =>
    have hvalue : n / 1000 * 10 ^ (9 - 6) = n := by omega
    rw [List.cons_append, fraction?_padded (by decide) (by decide) (by omega), hvalue]
  next =>
    rw [List.cons_append, fraction?_padded (by decide) (by decide) (by omega), Nat.sub_self,
      Nat.pow_zero, Nat.mul_one]

theorem daysInMonth_le (y : Int) (m : Nat) : daysInMonth y m ≤ 31 := by
  unfold daysInMonth
  split
  · split <;> decide
  · split <;> decide

/-- The bounds of the fields, all of two digits. -/
theorem bounds_of_isValid (h : t.isValid = true) :
    t.month ≤ 12 ∧ t.day ≤ 31 ∧ t.hour ≤ 23 ∧ t.minute ≤ 59 ∧ t.second ≤ 60 := by
  have hdays := daysInMonth_le t.year t.month
  simp only [isValid, Bool.and_eq_true, decide_eq_true_eq] at h
  omega

/-- In universal time a clock is not ahead. -/
theorem toUniversal_zero (h : t.isValid = true) : t.toUniversal 0 = t := by
  obtain ⟨-, -, hhour, hminute, -⟩ := bounds_of_isValid h
  have hwithin : ((t.hour * 60 + t.minute - 0 : Int) % 1440).toNat = t.hour * 60 + t.minute := by
    omega
  have hfields : (t.hour * 60 + t.minute) / 60 = t.hour ∧
      (t.hour * 60 + t.minute) % 60 = t.minute := by omega
  rw [toUniversal]
  simp only [hwithin, hfields]
  rw [if_neg (by omega), if_neg (by omega)]

theorem head?_fractionText {c : Char} (h : (fractionText n ++ ['Z']).head? = some c) :
    isDigit10 c = false := by
  unfold fractionText at h
  split at h
  · cases h
    rfl
  split at h
  · cases h
    rfl
  split at h <;>
  · cases h
    rfl

/-- A point in time is read back. -/
theorem parse?_toText (h : t.IsRfc3339) : parse? t.toText = some t := by
  obtain ⟨hmonth, hday, hhour, hminute, hsecond⟩ := bounds_of_isValid h.valid
  have htwo : t.month < 100 ∧ t.day < 100 ∧ t.hour < 100 ∧ t.minute < 100 := by omega
  have htext : t.toText.toList = yearText t.year ++ '-' :: (padded 2 t.month ++ '-' ::
      (padded 2 t.day ++ 'T' :: (padded 2 t.hour ++ ':' :: (padded 2 t.minute ++ ':' ::
        (padded 2 t.second ++ (fractionText t.nanos ++ ['Z'])))))) := by
    simp only [toText, String.toList_ofList, List.append_assoc, List.cons_append]
  have hseconds : digits? 2 (padded 2 t.second ++ (fractionText t.nanos ++ ['Z'])) =
      some (t.second, fractionText t.nanos ++ ['Z']) :=
    digits?_padded (by decide) (by omega) (Nat.le_refl 2) fun _ => head?_fractionText
  -- Part after part: what separates two parts is read by computing, the digits by their lemmas.
  rw [parse?, htext]
  refine Option.bind_eq_some_iff.mpr ⟨_, year?_yearText h _, ?_⟩
  refine Option.bind_eq_some_iff.mpr ⟨_, rfl, ?_⟩
  refine Option.bind_eq_some_iff.mpr ⟨_, digits?_two htwo.1 rfl _, ?_⟩
  refine Option.bind_eq_some_iff.mpr ⟨_, rfl, ?_⟩
  refine Option.bind_eq_some_iff.mpr ⟨_, digits?_two htwo.2.1 rfl _, ?_⟩
  refine Option.bind_eq_some_iff.mpr ⟨_, rfl, ?_⟩
  refine Option.bind_eq_some_iff.mpr ⟨_, digits?_two htwo.2.2.1 rfl _, ?_⟩
  refine Option.bind_eq_some_iff.mpr ⟨_, rfl, ?_⟩
  refine Option.bind_eq_some_iff.mpr ⟨_, digits?_two htwo.2.2.2 rfl _, ?_⟩
  refine Option.bind_eq_some_iff.mpr ⟨_, rfl, ?_⟩
  refine Option.bind_eq_some_iff.mpr ⟨_, hseconds, ?_⟩
  refine Option.bind_eq_some_iff.mpr ⟨_, fraction?_fractionText h.nanos, ?_⟩
  refine Option.bind_eq_some_iff.mpr ⟨(0, []), rfl, ?_⟩
  have hvalid : (t.isValid && (trimStart []).isEmpty) = true := by
    rw [h.valid]
    rfl
  dsimp only
  rw [toUniversal_zero h.valid, hvalid, h.valid]
  rfl

end PatchTrial.Timestamp
