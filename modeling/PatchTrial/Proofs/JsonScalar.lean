import Mathlib.Data.List.Basic
import Mathlib.Data.List.TakeDrop
import Mathlib.Data.List.TakeWhile
import PatchTrial.Json.Reader
import PatchTrial.Json.Writer

/-!
# Quoted texts and numbers in JSON texts

A quoted text is read back as it was, escapes and all. A whole number is read back as it was, and a
number that is read back from its own text alone is read back in front of whatever follows it in a
larger text.

Main statements: `readString?_quoted`, `readNumber?_append`, `readNumber?_natural` and
`readNumber?_negative`.
-/
namespace PatchTrial.Json

/-! ### Quoted texts -/

/-- Whether a piece of a quoted text stands for a character as the writer puts it. -/
def Piece.Spells (p : Piece) (c : Char) : Prop :=
  p = .char c ∨ p = .unit c.toNat ∧ c.toNat < 0x20

theorem hexUnit?_control : ∀ n < 0x20,
    hexUnit? '0' '0' (Nat.digitChar (n / 16)) (Nat.digitChar (n % 16)) = some n := by decide

/-- One character is read as one piece, whatever follows. -/
theorem pieces?_escaped (c : Char) (rest : List Char) :
    ∃ p : Piece, p.Spells c ∧
      pieces? (escaped c ++ rest) = (pieces? rest).map fun (ps, r) => (p :: ps, r) := by
  unfold escaped
  split
  · exact ⟨.char '"', .inl rfl, rfl⟩
  · exact ⟨.char '\\', .inl rfl, rfl⟩
  · exact ⟨.char '\n', .inl rfl, rfl⟩
  · exact ⟨.char '\r', .inl rfl, rfl⟩
  · exact ⟨.char '\t', .inl rfl, rfl⟩
  next hquote hslash _ _ _ =>
    split
    next h8 =>
      refine ⟨.char (Char.ofNat 8), .inl ?_, rfl⟩
      rw [← h8, Char.ofNat_toNat]
    split
    next h12 =>
      refine ⟨.char (Char.ofNat 12), .inl ?_, rfl⟩
      rw [← h12, Char.ofNat_toNat]
    split
    next hcontrol =>
      refine ⟨.unit c.toNat, .inr ⟨rfl, hcontrol⟩, ?_⟩
      simp only [List.cons_append, List.nil_append, pieces?, hexUnit?_control _ hcontrol]
    next hplain =>
      refine ⟨.char c, .inl rfl, ?_⟩
      have hkept : ¬(c.toNat < 0x20 || c == '\\') = true := by
        rw [Bool.or_eq_true, decide_eq_true_eq, beq_iff_eq]
        exact not_or.mpr ⟨hplain, hslash⟩
      rw [List.singleton_append, pieces?, if_neg hkept]
      · exact hquote
      all_goals intros; exact hslash ‹_›

theorem textOfPieces?_cons {p : Piece} {c : Char} (h : p.Spells c) (ps : List Piece) :
    textOfPieces? (p :: ps) = (textOfPieces? ps).map (c :: ·) := by
  rcases h with rfl | ⟨rfl, hcontrol⟩
  · rfl
  · have hhigh : isHighSurrogate c.toNat = false := by
      simp only [isHighSurrogate, Bool.and_eq_false_iff, decide_eq_false_iff_not]
      omega
    have hlow : isLowSurrogate c.toNat = false := by
      simp only [isLowSurrogate, Bool.and_eq_false_iff, decide_eq_false_iff_not]
      omega
    rcases ps with - | ⟨q | m, ps⟩ <;> simp [textOfPieces?, hhigh, hlow]

theorem pieces?_flatMap_escaped (cs rest : List Char) :
    ∃ ps, pieces? (cs.flatMap escaped ++ '"' :: rest) = some (ps, rest) ∧
      textOfPieces? ps = some cs := by
  induction cs with
  | nil => exact ⟨[], rfl, rfl⟩
  | cons c cs ih =>
    obtain ⟨ps, hread, htext⟩ := ih
    obtain ⟨p, hspells, hp⟩ := pieces?_escaped c (cs.flatMap escaped ++ '"' :: rest)
    refine ⟨p :: ps, ?_, ?_⟩
    · rw [List.flatMap_cons, List.append_assoc, hp, hread, Option.map_some]
    · rw [textOfPieces?_cons hspells, htext, Option.map_some]

/-- A quoted text reads back. -/
theorem readString?_quoted (s : String) (rest : List Char) :
    readString? (quoted s ++ rest) = some (some s, rest) := by
  obtain ⟨ps, hread, htext⟩ := pieces?_flatMap_escaped s.toList rest
  simp only [quoted, List.cons_append, List.append_assoc, readString?]
  rw [List.nil_append, hread, Option.map_some, htext, Option.map_some, String.ofList_toList]

/-! ### Numbers in a larger text -/

/-- Whether a text does not go on with a number that ends before it. -/
def EndsNumber (rest : List Char) : Prop :=
  ∀ c, rest.head? = some c → isDecimalDigit c = false ∧ c ≠ '.' ∧ c ≠ 'e' ∧ c ≠ 'E'

theorem endsNumber_nil : EndsNumber [] := by
  intro c h
  cases h

theorem endsNumber_cons {c : Char} (h : c = ',' ∨ c = '\n') (rest : List Char) :
    EndsNumber (c :: rest) := by
  intro d hd
  cases hd
  rcases h with rfl | rfl <;> decide

variable {cs rest r : List Char}

/-- What is cut off a text is cut off a longer one in the same way, if the rest cannot be a part
of it. -/
theorem span_append {p : Char → Bool} (hrest : ∀ c, rest.head? = some c → p c = false)
    (cs : List Char) : (cs ++ rest).span p = ((cs.span p).1, (cs.span p).2 ++ rest) := by
  simp only [List.span_eq_takeWhile_dropWhile]
  induction cs with
  | nil =>
    cases rest with
    | nil => rfl
    | cons c rest => simp [hrest c rfl]
  | cons c cs ih =>
    rw [Prod.mk.injEq] at ih
    cases hc : p c <;> simp [hc, ih.1, ih.2]

theorem digits?_append {ds : List Char} (hrest : EndsNumber rest)
    (h : digits? cs = some (ds, r)) : digits? (cs ++ rest) = some (ds, r ++ rest) := by
  rw [digits?, span_append fun c hc => (hrest c hc).1]
  rw [digits?] at h
  split at h
  · cases h
  next hne =>
    rw [Option.some.inj h]
    cases ds with
    | nil => exact absurd (Option.some.inj h) (hne r)
    | cons d ds => rfl

theorem wholeDigits?_append {ds : List Char} (hrest : EndsNumber rest)
    (h : wholeDigits? cs = some (ds, r)) : wholeDigits? (cs ++ rest) = some (ds, r ++ rest) := by
  obtain ⟨⟨ds', r'⟩, hds, hwhole⟩ := Option.bind_eq_some_iff.mp h
  rw [wholeDigits?, digits?_append hrest hds]
  dsimp only at hwhole ⊢
  split at hwhole
  · cases hwhole
  next hzero =>
    cases hwhole
    exact if_neg hzero

theorem fraction?_append {ds : Option (List Char)} (hrest : EndsNumber rest)
    (h : fraction? cs = some (ds, r)) : fraction? (cs ++ rest) = some (ds, r ++ rest) := by
  unfold fraction? at h
  split at h
  next cs =>
    obtain ⟨⟨ds', r'⟩, hds, heq⟩ := Option.map_eq_some_iff.mp h
    cases heq
    rw [List.cons_append, fraction?, digits?_append hrest hds, Option.map_some]
  next hpoint =>
    cases h
    unfold fraction?
    split
    next rest' heq =>
      -- the point would be the first character of one of the two texts
      cases cs with
      | nil => exact absurd rfl (hrest '.' (by rw [← List.nil_append rest, heq]; rfl)).2.1
      | cons c cs => exact absurd (by rw [List.cons.inj heq |>.1]) (hpoint cs)
    · rfl

theorem signedDigits?_append {e : Bool × List Char} (hrest : EndsNumber rest)
    (h : signedDigits? cs = some (e, r)) : signedDigits? (cs ++ rest) = some (e, r ++ rest) := by
  unfold signedDigits? at h
  split at h
  · obtain ⟨⟨ds, r'⟩, hds, heq⟩ := Option.map_eq_some_iff.mp h
    cases heq
    rw [List.cons_append, signedDigits?, digits?_append hrest hds, Option.map_some]
  · obtain ⟨⟨ds, r'⟩, hds, heq⟩ := Option.map_eq_some_iff.mp h
    cases heq
    rw [List.cons_append, signedDigits?, digits?_append hrest hds, Option.map_some]
  next hminus hplus =>
    obtain ⟨⟨ds, r'⟩, hds, heq⟩ := Option.map_eq_some_iff.mp h
    cases heq
    -- there is a digit, so that the sign is looked for in the same place
    rcases cs with - | ⟨c, cs⟩
    · cases hds
    rw [signedDigits?, digits?_append hrest hds, Option.map_some]
    · rintro cs' h'
      exact hminus cs (by rw [(List.cons.inj h').1])
    · rintro cs' h'
      exact hplus cs (by rw [(List.cons.inj h').1])

theorem exponent?_append {e : Option (Bool × List Char)} (hrest : EndsNumber rest)
    (h : exponent? cs = some (e, r)) : exponent? (cs ++ rest) = some (e, r ++ rest) := by
  unfold exponent? at h
  split at h
  · obtain ⟨⟨ds, r'⟩, hds, heq⟩ := Option.map_eq_some_iff.mp h
    cases heq
    rw [List.cons_append, exponent?, signedDigits?_append hrest hds, Option.map_some]
  · obtain ⟨⟨ds, r'⟩, hds, heq⟩ := Option.map_eq_some_iff.mp h
    cases heq
    rw [List.cons_append, exponent?, signedDigits?_append hrest hds, Option.map_some]
  next hlower hupper =>
    cases h
    cases cs with
    | nil =>
      rw [List.nil_append, exponent?]
      · rintro rest' rfl
        exact (hrest 'e' rfl).2.2.1 rfl
      · rintro rest' rfl
        exact (hrest 'E' rfl).2.2.2 rfl
    | cons c cs =>
      rw [exponent?]
      · rintro cs' h'
        exact hlower cs (by rw [(List.cons.inj h').1])
      · rintro cs' h'
        exact hupper cs (by rw [(List.cons.inj h').1])

theorem readUnsigned?_append {negative : Bool} {n : Option Number} (hrest : EndsNumber rest)
    (h : readUnsigned? negative cs = some (n, r)) :
    readUnsigned? negative (cs ++ rest) = some (n, r ++ rest) := by
  obtain ⟨⟨whole, r₁⟩, hwhole, h⟩ := Option.bind_eq_some_iff.mp h
  obtain ⟨⟨fraction, r₂⟩, hfraction, h⟩ := Option.bind_eq_some_iff.mp h
  obtain ⟨⟨exponent, r₃⟩, hexponent, h⟩ := Option.bind_eq_some_iff.mp h
  cases h
  simp only [readUnsigned?, wholeDigits?_append hrest hwhole, fraction?_append hrest hfraction,
    exponent?_append hrest hexponent, Option.bind_eq_bind, Option.bind_some]
  rfl

/-- A number is read in the same way in front of a text that does not go on with it. -/
theorem readNumber?_append {n : Option Number} (hrest : EndsNumber rest)
    (h : readNumber? cs = some (n, r)) : readNumber? (cs ++ rest) = some (n, r ++ rest) := by
  unfold readNumber? at h
  split at h
  · exact readUnsigned?_append hrest h
  next hminus =>
    rcases cs with - | ⟨c, cs⟩
    · cases h
    rw [readNumber?]
    · exact readUnsigned?_append hrest h
    · rintro cs' h'
      exact hminus cs (by rw [(List.cons.inj h').1])

/-! ### Whole numbers -/

theorem isDecimalDigit_of_mem_toDigits {n : Nat} {c : Char} (h : c ∈ Nat.toDigits 10 n) :
    isDecimalDigit c = true := Nat.isDigit_of_mem_toDigits (by decide) (by decide) h

theorem span_toDigits (n : Nat) :
    (Nat.toDigits 10 n).span isDecimalDigit = (Nat.toDigits 10 n, []) := by
  have hall : ∀ c ∈ Nat.toDigits 10 n, isDecimalDigit c = true :=
    fun _ => isDecimalDigit_of_mem_toDigits
  rw [List.span_eq_takeWhile_dropWhile, List.takeWhile_eq_self_iff.mpr hall,
    List.dropWhile_eq_nil_iff.mpr hall]

theorem head?_toDigits {n : Nat} (h : 0 < n) : (Nat.toDigits 10 n).head? ≠ some '0' := by
  induction n using Nat.strongRecOn with
  | _ n ih =>
    rw [Nat.toDigits_eq_if (by decide)]
    split
    next hlt =>
      have hdigit : ∀ d < 10, 0 < d → Nat.digitChar d ≠ '0' := by decide
      rw [List.head?_cons]
      exact fun heq => hdigit n hlt h (Option.some.inj heq)
    next hge =>
      rw [List.head?_append_of_ne_nil _ Nat.toDigits_ne_nil]
      exact ih (n / 10) (by omega) (by omega)

theorem wholeDigits?_toDigits (n : Nat) :
    wholeDigits? (Nat.toDigits 10 n) = some (Nat.toDigits 10 n, []) := by
  have hdigits : digits? (Nat.toDigits 10 n) = some (Nat.toDigits 10 n, []) := by
    rw [digits?, span_toDigits]
    split
    next heq => exact absurd (Prod.mk.inj heq).1 Nat.toDigits_ne_nil
    next => rfl
  rw [wholeDigits?, hdigits]
  refine if_neg ?_
  rw [Bool.and_eq_true, decide_eq_true_eq, decide_eq_true_eq]
  rintro ⟨hzero, hlong⟩
  rcases Nat.eq_zero_or_pos n with rfl | hpos
  · rw [Nat.toDigits_zero] at hlong
    exact absurd hlong (by decide)
  · exact head?_toDigits hpos hzero

theorem readUnsigned?_toDigits (negative : Bool) (n : Nat) :
    readUnsigned? negative (Nat.toDigits 10 n) =
      some (Numeral.toNumber? ⟨negative, Nat.toDigits 10 n, none, none⟩, []) := by
  rw [readUnsigned?, wholeDigits?_toDigits]
  rfl

/-- A natural number reads back. -/
theorem readNumber?_natural (n : UInt64) :
    readNumber? (Number.natural n).text = some (some (.natural n), []) := by
  have hminus : ∀ cs, Nat.toDigits 10 n.toNat ≠ '-' :: cs := by
    intro cs heq
    have hdigit := isDecimalDigit_of_mem_toDigits (heq ▸ List.mem_cons_self)
    exact absurd hdigit (by decide)
  rw [Number.text, readNumber?, readUnsigned?_toDigits]
  · simp only [Numeral.toNumber?, Nat.ofDigitChars_ten_toDigits]
    simp [n.toNat_lt]
  · exact hminus

/-- A negative number reads back. -/
theorem readNumber?_negative {n : Int64} (h : n < 0) :
    readNumber? (Number.negative n).text = some (some (.negative n), []) := by
  have hneg : n.toInt < 0 := Int64.lt_iff_toInt_lt.mp h
  have hleast : -2 ^ 63 ≤ n.toInt := n.le_toInt
  have hvalue : -(n.toInt.natAbs : Int) = n.toInt := by omega
  rw [Number.text, readNumber?, readUnsigned?_toDigits]
  simp only [Numeral.toNumber?, Nat.ofDigitChars_ten_toDigits, hvalue, Int64.ofInt_toInt]
  have hpos : 0 < n.toInt.natAbs := by omega
  have hbound : n.toInt.natAbs ≤ 0x8000000000000000 := by omega
  simp [hpos, hbound]

end PatchTrial.Json
