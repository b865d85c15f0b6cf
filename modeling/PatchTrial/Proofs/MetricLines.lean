import PatchTrial.Proofs.ExactNumbers
import PatchTrial.Proofs.JsonScalar
import PatchTrial.Proofs.PathSpelling
import PatchTrial.Proofs.Text
import PatchTrial.Proofs.Words

/-!
# Metric lines

A metric line is a name, a colon or an equals sign, a decimal number and a unit, with blanks allowed
around each. Neither a name nor a blank is a mark, no digit of any script is a blank, a point or the
start of a unit, and no unit starts with the letter of an exponent. So a line has these parts in one
way at most, and the reader finds them whenever there are any.

Main statement: `MetricLine.read?_grammar`.
-/
namespace PatchTrial

namespace MetricLine

open Text

/-! ### Numbers as they are written -/

/-- One digit or more. -/
structure Digits (digit : Char → Bool) (ds : List Char) : Prop where
  ne_nil : ds ≠ []
  all : ∀ c ∈ ds, digit c = true

instance (digit : Char → Bool) (ds : List Char) : Decidable (Digits digit ds) :=
  decidable_of_iff (ds ≠ [] ∧ ds.all digit = true)
    ⟨fun h => ⟨h.1, List.all_eq_true.mp h.2⟩, fun h => ⟨h.ne_nil, List.all_eq_true.mpr h.all⟩⟩

/-- Nothing, a minus sign or a plus sign. -/
def IsSign (sign : Option Char) : Prop := ∀ c ∈ sign, c = '-' ∨ c = '+'

structure Exponent where
  letter : Char
  sign : Option Char
  digits : List Char

/-- A decimal number as it is written. -/
structure Spelling where
  sign : Option Char
  whole : List Char
  fraction : Option (List Char)
  exponent : Option Exponent

namespace Exponent

structure Valid (digit : Char → Bool) (e : Exponent) : Prop where
  letter : e.letter = 'e' ∨ e.letter = 'E'
  sign : IsSign e.sign
  digits : Digits digit e.digits

def text (e : Exponent) : List Char := e.letter :: (e.sign.toList ++ e.digits)

def value (e : Exponent) : Int :=
  let n : Int := Nat.ofDigitChars 10 e.digits 0
  if e.sign = some '-' then -n else n

end Exponent

namespace Spelling

/-- A number has digits, after an optional sign, and can have a point with digits behind it and an
exponent. -/
structure Valid (digit : Char → Bool) (n : Spelling) : Prop where
  sign : IsSign n.sign
  whole : Digits digit n.whole
  fraction : ∀ ds ∈ n.fraction, Digits digit ds
  exponent : ∀ e ∈ n.exponent, e.Valid digit

def fractionText (fraction : Option (List Char)) : List Char := fraction.elim [] ('.' :: ·)

def exponentText (exponent : Option Exponent) : List Char := exponent.elim [] Exponent.text

def text (n : Spelling) : List Char :=
  n.sign.toList ++ (n.whole ++ (fractionText n.fraction ++ exponentText n.exponent))

/-- The digits behind the point. -/
def decimals (n : Spelling) : List Char := n.fraction.getD []

def power (n : Spelling) : Int := n.exponent.elim 0 Exponent.value

def numeral (n : Spelling) : Decimal.Numeral :=
  ⟨n.sign = some '-', Nat.ofDigitChars 10 (n.whole ++ n.decimals) 0, n.power - n.decimals.length⟩

/-- The number that is written. -/
def value (n : Spelling) : ℚ :=
  (if n.sign = some '-' then -1 else 1) *
    (Nat.ofDigitChars 10 n.whole 0 +
      Nat.ofDigitChars 10 n.decimals 0 / 10 ^ n.decimals.length) * 10 ^ n.power

/-- The numeral of a number is exact. -/
theorem value_numeral (n : Spelling) : n.numeral.value = n.value := by
  have hten : (10 : ℚ) ≠ 0 := by norm_num
  rw [Decimal.Numeral.value, Decimal.Numeral.magnitude, numeral, value]
  dsimp only
  rw [Nat.ofDigitChars_append, Nat.ofDigitChars_eq_ofDigitChars_zero, zpow_sub₀ hten, zpow_natCast]
  push_cast
  simp only [decide_eq_true_eq]
  field_simp

end Spelling

/-! ### Digits and what ends a number -/

variable {digit : Char → Bool} {cs ds ds' rest rest' : List Char}

theorem isDigit_of_isDecimalDigit {c : Char} (h : Json.isDecimalDigit c = true) :
    isDigit c = true := by
  rw [isDigit, Char.isDigit, Bool.or_eq_true]
  exact Or.inl h

theorem not_isDigit_of_mem {c : Char}
    (h : c ∈ ['-', '+', '.', 'e', 'E', 'n', 'u', 'µ', 'm', 's', 'o']) : isDigit c = false := by
  have hall : (['-', '+', '.', 'e', 'E', 'n', 'u', 'µ', 'm', 's', 'o'].all
      fun c => !isDigit c) = true := rfl
  have hc := List.all_eq_true.mp hall c h
  rwa [Bool.not_eq_true'] at hc

theorem Digits.mono {other : Char → Bool} (h : ∀ c, digit c = true → other c = true)
    (hds : Digits digit ds) : Digits other ds :=
  ⟨hds.ne_nil, fun c hc => h c (hds.all c hc)⟩

theorem Exponent.Valid.mono {other : Char → Bool} (h : ∀ c, digit c = true → other c = true)
    {e : Exponent} (he : e.Valid digit) : e.Valid other :=
  ⟨he.letter, he.sign, he.digits.mono h⟩

theorem Spelling.Valid.mono {other : Char → Bool} (h : ∀ c, digit c = true → other c = true)
    {n : Spelling} (hn : n.Valid digit) : n.Valid other :=
  ⟨hn.sign, hn.whole.mono h, fun ds hds => (hn.fraction ds hds).mono h,
    fun e he => (hn.exponent e he).mono h⟩

/-- What goes on with no digit. -/
def NoDigit (cs : List Char) : Prop := ∀ c, cs.head? = some c → isDigit c = false

/-- What goes on with no digit and no point. -/
def NoFraction (cs : List Char) : Prop :=
  ∀ c, cs.head? = some c → isDigit c = false ∧ c ≠ '.'

/-- What does not continue a number: no digit, no point and no exponent. -/
def Ends (cs : List Char) : Prop :=
  ∀ c, cs.head? = some c → isDigit c = false ∧ c ≠ '.' ∧ c ≠ 'e' ∧ c ≠ 'E'

theorem NoFraction.noDigit (h : NoFraction rest) : NoDigit rest := fun c hc => (h c hc).1

theorem Ends.noDigit (h : Ends rest) : NoDigit rest := fun c hc => (h c hc).1

theorem span_digits (hds : ∀ c ∈ ds, digit c = true)
    (hrest : ∀ c, rest.head? = some c → digit c = false) :
    (ds ++ rest).span digit = (ds, rest) := by
  have hall : ds.span digit = (ds, []) := by
    rw [List.span_eq_takeWhile_dropWhile, List.takeWhile_eq_self_iff.mpr hds,
      List.dropWhile_eq_nil_iff.mpr hds]
  rw [Json.span_append hrest, hall, List.nil_append]

theorem eq_append_of_span (h : cs.span digit = (ds, rest)) :
    cs = ds ++ rest ∧ ∀ c ∈ ds, digit c = true := by
  rw [List.span_eq_takeWhile_dropWhile, Prod.mk.injEq] at h
  obtain ⟨rfl, rfl⟩ := h
  exact ⟨List.takeWhile_append_dropWhile.symm, fun c hc => List.mem_takeWhile_imp hc⟩

theorem span_decimalDigits (hds : Digits Json.isDecimalDigit ds) (hrest : NoDigit rest) :
    (ds ++ rest).span Json.isDecimalDigit = (ds, rest) := by
  refine span_digits hds.all fun c hc => ?_
  rw [← Bool.not_eq_true]
  intro hdigit
  exact absurd (isDigit_of_isDecimalDigit hdigit) (by simp [hrest c hc])

theorem digits_append_inj (hds : Digits isDigit ds) (hds' : Digits isDigit ds')
    (hrest : NoDigit rest) (hrest' : NoDigit rest') (h : ds ++ rest = ds' ++ rest') :
    ds = ds' ∧ rest = rest' := by
  have hspan := span_digits hds.all hrest
  rw [h, span_digits hds'.all hrest'] at hspan
  exact ⟨(congrArg Prod.fst hspan).symm, (congrArg Prod.snd hspan).symm⟩

/-! ### Signs -/

theorem sign_append {s : Option Char} (hs : IsSign s)
    (hcs : ∀ c, cs.head? = some c → c ≠ '-' ∧ c ≠ '+') :
    sign (s.toList ++ cs) = (decide (s = some '-'), cs) := by
  cases s with
  | none =>
    rw [Option.toList_none, List.nil_append]
    unfold sign
    split
    · exact absurd rfl (hcs _ rfl).1
    · exact absurd rfl (hcs _ rfl).2
    · rfl
  | some c =>
    rcases hs c rfl with rfl | rfl
    · rfl
    · rfl

theorem exists_sign (cs : List Char) :
    ∃ s, IsSign s ∧ cs = s.toList ++ (sign cs).2 ∧ (sign cs).1 = decide (s = some '-') := by
  unfold sign
  split
  · exact ⟨some '-', by simp [IsSign], rfl, rfl⟩
  · exact ⟨some '+', by simp [IsSign], rfl, rfl⟩
  · exact ⟨none, by simp [IsSign], rfl, rfl⟩

/-- A number that starts with a digit has no sign in front of it. -/
theorem head?_digits_append (hds : Digits isDigit ds) :
    ∀ c, (ds ++ rest).head? = some c → c ≠ '-' ∧ c ≠ '+' := by
  obtain ⟨d, ds', rfl⟩ := List.exists_cons_of_ne_nil hds.ne_nil
  rintro _ ⟨⟩
  have hd := hds.all d List.mem_cons_self
  constructor
  all_goals
    rintro rfl
    exact absurd hd (by decide)

theorem sign_append_inj {s s' : Option Char} (hs : IsSign s) (hs' : IsSign s')
    (hds : Digits isDigit ds) (hds' : Digits isDigit ds')
    (h : s.toList ++ (ds ++ rest) = s'.toList ++ (ds' ++ rest')) :
    s = s' ∧ ds ++ rest = ds' ++ rest' := by
  have hsign : sign (s.toList ++ (ds ++ rest)) = (decide (s = some '-'), ds ++ rest) :=
    sign_append hs (head?_digits_append hds)
  rw [h, sign_append hs' (head?_digits_append hds')] at hsign
  have htail : ds' ++ rest' = ds ++ rest := congrArg Prod.snd hsign
  rw [htail, List.append_cancel_right_eq] at h
  exact ⟨by simpa using congrArg List.head? h, htail.symm⟩

/-! ### Exponents -/

/-- An exponent, or what follows in its place, starts with no digit and no point. -/
theorem noFraction_exponentText {e : Option Exponent} (he : ∀ x ∈ e, x.Valid digit)
    (hrest : Ends rest) : NoFraction (Spelling.exponentText e ++ rest) := by
  cases e with
  | none => exact fun c hc => ⟨(hrest c hc).1, (hrest c hc).2.1⟩
  | some x =>
    rintro _ ⟨⟩
    rcases (he x rfl).letter with h | h <;> rw [h] <;> decide

theorem exponent_append {e : Option Exponent} (he : ∀ x ∈ e, x.Valid Json.isDecimalDigit)
    (hrest : Ends rest) :
    exponent (Spelling.exponentText e ++ rest) = (e.elim 0 Exponent.value, rest) := by
  cases e with
  | none =>
    rw [Spelling.exponentText, Option.elim_none, List.nil_append, Option.elim_none]
    cases rest with
    | nil => rfl
    | cons c rest =>
      obtain ⟨-, -, hlower, hupper⟩ := hrest c rfl
      simp [exponent, hlower, hupper]
  | some x =>
    have hx := he x rfl
    have hdigits := hx.digits.mono fun _ => isDigit_of_isDecimalDigit
    have hletter : (x.letter == 'e' || x.letter == 'E') = true := by simpa using hx.letter
    obtain ⟨d, ds, hds⟩ := List.exists_cons_of_ne_nil hx.digits.ne_nil
    have hspan := span_decimalDigits hx.digits hrest.noDigit
    rw [Spelling.exponentText, Option.elim_some, Option.elim_some, Exponent.text, List.cons_append,
      List.append_assoc, exponent, if_pos hletter,
      sign_append hx.sign (head?_digits_append hdigits)]
    dsimp only
    rw [hspan, hds]
    dsimp only
    rw [Exponent.value, hds]
    simp only [decide_eq_true_eq]

theorem exists_exponent (cs : List Char) :
    ∃ e : Option Exponent, (∀ x ∈ e, x.Valid Json.isDecimalDigit) ∧
      cs = Spelling.exponentText e ++ (exponent cs).2 ∧
      (exponent cs).1 = e.elim 0 Exponent.value := by
  unfold exponent
  split
  · exact ⟨none, nofun, rfl, rfl⟩
  next c rest =>
    split
    next hletter =>
      obtain ⟨s, hs, hrest, hnegative⟩ := exists_sign rest
      generalize sign rest = signed at hrest hnegative
      obtain ⟨negative, behind⟩ := signed
      dsimp only at hrest hnegative ⊢
      split
      · exact ⟨none, nofun, rfl, rfl⟩
      next ds behind' hne hspan =>
        obtain ⟨hbehind, hds⟩ := eq_append_of_span hspan
        refine ⟨some ⟨c, s, ds⟩, ?_, ?_, ?_⟩
        · rintro _ ⟨⟩
          exact ⟨by simpa using hletter, hs, hne, hds⟩
        · rw [hrest, hbehind, Spelling.exponentText, Option.elim_some, Exponent.text,
            List.cons_append, List.append_assoc]
        · rw [hnegative, Option.elim_some, Exponent.value]
          simp only [decide_eq_true_eq]
    · exact ⟨none, nofun, rfl, rfl⟩

theorem exponent_append_inj {e e' : Option Exponent} (he : ∀ x ∈ e, x.Valid isDigit)
    (he' : ∀ x ∈ e', x.Valid isDigit) (hrest : Ends rest) (hrest' : Ends rest')
    (h : Spelling.exponentText e ++ rest = Spelling.exponentText e' ++ rest') :
    e = e' ∧ rest = rest' := by
  -- A letter in one of the texts only would be what ends the other.
  have hnone : ∀ {x : Exponent} {rest rest' : List Char}, x.Valid isDigit → Ends rest →
      rest ≠ x.text ++ rest' := by
    rintro x _ rest' hx hends rfl
    obtain ⟨-, -, hlower, hupper⟩ := hends x.letter rfl
    exact hx.letter.elim hlower hupper
  cases e with
  | none =>
    cases e' with
    | none => exact ⟨rfl, h⟩
    | some x' => exact absurd h (hnone (he' x' rfl) hrest)
  | some x =>
    cases e' with
    | none => exact absurd h.symm (hnone (he x rfl) hrest')
    | some x' =>
      have hx := he x rfl
      have hx' := he' x' rfl
      obtain ⟨letter, s, ds⟩ := x
      obtain ⟨letter', s', ds'⟩ := x'
      simp only [Spelling.exponentText, Option.elim_some, Exponent.text, List.cons_append,
        List.append_assoc, List.cons.injEq] at h
      obtain ⟨rfl, htail⟩ := h
      obtain ⟨rfl, hdigits⟩ := sign_append_inj hx.sign hx'.sign hx.digits hx'.digits htail
      obtain ⟨rfl, rfl⟩ := digits_append_inj hx.digits hx'.digits hrest.noDigit
        hrest'.noDigit hdigits
      exact ⟨rfl, rfl⟩

/-! ### Fractions -/

theorem noDigit_fractionText {f : Option (List Char)} {cs : List Char} (hcs : NoDigit cs) :
    NoDigit (Spelling.fractionText f ++ cs) := by
  cases f with
  | none => exact hcs
  | some ds =>
    rintro _ ⟨⟩
    exact not_isDigit_of_mem (by decide)

theorem fractionDigits_append {f : Option (List Char)}
    (hf : ∀ ds ∈ f, Digits Json.isDecimalDigit ds) (hrest : NoFraction rest) :
    fractionDigits (Spelling.fractionText f ++ rest) = (f.getD [], rest) := by
  cases f with
  | none =>
    rw [Spelling.fractionText, Option.elim_none, List.nil_append, Option.getD_none]
    unfold fractionDigits
    split
    · exact absurd rfl (hrest _ rfl).2
    · rfl
  | some ds =>
    have hds := hf ds rfl
    obtain ⟨d, ds', rfl⟩ := List.exists_cons_of_ne_nil hds.ne_nil
    rw [Spelling.fractionText, Option.elim_some, Option.getD_some, List.cons_append,
      fractionDigits, span_decimalDigits hds hrest.noDigit]

theorem exists_fraction (cs : List Char) :
    ∃ f : Option (List Char), (∀ ds ∈ f, Digits Json.isDecimalDigit ds) ∧
      cs = Spelling.fractionText f ++ (fractionDigits cs).2 ∧
      (fractionDigits cs).1 = f.getD [] := by
  unfold fractionDigits
  split
  next rest =>
    split
    · exact ⟨none, nofun, rfl, rfl⟩
    next found hne =>
      obtain ⟨hrest, hds⟩ := eq_append_of_span (Prod.eta (rest.span Json.isDecimalDigit)).symm
      refine ⟨some (rest.span Json.isDecimalDigit).1, ?_, ?_, rfl⟩
      · rintro _ ⟨⟩
        exact ⟨fun hnil => hne _ (Prod.ext hnil rfl), hds⟩
      · rw [Spelling.fractionText, Option.elim_some, List.cons_append, ← hrest]
  · exact ⟨none, nofun, rfl, rfl⟩

theorem fraction_append_inj {f f' : Option (List Char)} (hf : ∀ ds ∈ f, Digits isDigit ds)
    (hf' : ∀ ds ∈ f', Digits isDigit ds) (hrest : NoFraction rest) (hrest' : NoFraction rest')
    (h : Spelling.fractionText f ++ rest = Spelling.fractionText f' ++ rest') :
    f = f' ∧ rest = rest' := by
  cases f with
  | none =>
    cases f' with
    | none => exact ⟨rfl, h⟩
    | some ds' =>
      obtain ⟨-, hpoint⟩ := hrest '.' (congrArg List.head? h)
      exact absurd rfl hpoint
  | some ds =>
    cases f' with
    | none =>
      obtain ⟨-, hpoint⟩ := hrest' '.' (congrArg List.head? h).symm
      exact absurd rfl hpoint
    | some ds' =>
      obtain ⟨rfl, rfl⟩ := digits_append_inj (hf ds rfl) (hf' ds' rfl) hrest.noDigit hrest'.noDigit
        (List.cons.inj h).2
      exact ⟨rfl, rfl⟩

/-! ### Numbers -/

namespace Spelling

variable {n n' : Spelling}

/-- What follows the digits in front of the point. -/
theorem Valid.noDigit (hn : n.Valid digit) (hrest : Ends rest) :
    NoDigit (fractionText n.fraction ++ (exponentText n.exponent ++ rest)) :=
  noDigit_fractionText (noFraction_exponentText hn.exponent hrest).noDigit

theorem text_append (n : Spelling) (rest : List Char) : n.text ++ rest =
    n.sign.toList ++
      (n.whole ++ (fractionText n.fraction ++ (exponentText n.exponent ++ rest))) := by
  rw [text, List.append_assoc, List.append_assoc, List.append_assoc]

theorem numeral?_append (hn : n.Valid Json.isDecimalDigit) (hrest : Ends rest) :
    numeral? (n.text ++ rest) = some (n.numeral, rest) := by
  have hdigits := hn.whole.mono fun _ => isDigit_of_isDecimalDigit
  have hspan := span_decimalDigits hn.whole (hn.noDigit hrest)
  obtain ⟨d, ds, hds⟩ := List.exists_cons_of_ne_nil hn.whole.ne_nil
  rw [text_append, numeral?, sign_append hn.sign (head?_digits_append hdigits)]
  dsimp only
  rw [hspan, hds]
  dsimp only
  rw [fractionDigits_append hn.fraction (noFraction_exponentText hn.exponent hrest)]
  dsimp only
  rw [exponent_append hn.exponent hrest, numeral, decimals, power, hds]

/-- What is read as a number is the text of one. -/
theorem exists_text_append {m : Decimal.Numeral} (h : numeral? cs = some (m, rest)) :
    ∃ n : Spelling, n.Valid Json.isDecimalDigit ∧ cs = n.text ++ rest ∧ m = n.numeral := by
  obtain ⟨s, hs, hcs, hnegative⟩ := exists_sign cs
  unfold numeral? at h
  generalize MetricLine.sign cs = signed at h hcs hnegative
  obtain ⟨negative, unsigned⟩ := signed
  dsimp only at h hcs hnegative
  split at h
  · cases h
  next whole behind hne hspan =>
    obtain ⟨hunsigned, hwhole⟩ := eq_append_of_span hspan
    obtain ⟨f, hf, hbehind, hdecimals⟩ := exists_fraction behind
    generalize fractionDigits behind = found at h hbehind hdecimals
    obtain ⟨decimals, behind'⟩ := found
    obtain ⟨e, he, hbehind', hpower⟩ := exists_exponent behind'
    generalize MetricLine.exponent behind' = last at h hbehind' hpower
    obtain ⟨power, rest'⟩ := last
    dsimp only at h hbehind hdecimals hbehind' hpower
    cases h
    refine ⟨⟨s, whole, f, e⟩, ⟨hs, ⟨hne, hwhole⟩, hf, he⟩, ?_, ?_⟩
    · rw [text_append, hcs, hunsigned, hbehind, hbehind']
    · rw [hnegative, hdecimals, hpower]
      rfl

/-- A number and what is behind it are told apart in one way at most. -/
theorem text_append_inj (hn : n.Valid isDigit) (hn' : n'.Valid isDigit) (hrest : Ends rest)
    (hrest' : Ends rest') (h : n.text ++ rest = n'.text ++ rest') : n = n' ∧ rest = rest' := by
  rw [text_append, text_append] at h
  obtain ⟨hsign, hwhole⟩ := sign_append_inj hn.sign hn'.sign hn.whole hn'.whole h
  obtain ⟨hwhole, hfraction⟩ := digits_append_inj hn.whole hn'.whole (hn.noDigit hrest)
    (hn'.noDigit hrest') hwhole
  have hbehind := noFraction_exponentText hn.exponent hrest
  have hbehind' := noFraction_exponentText hn'.exponent hrest'
  obtain ⟨hfraction, hexponent⟩ :=
    fraction_append_inj hn.fraction hn'.fraction hbehind hbehind' hfraction
  obtain ⟨hexponent, htail⟩ := exponent_append_inj hn.exponent hn'.exponent hrest hrest' hexponent
  obtain ⟨sign, whole, fraction, exponent⟩ := n
  cases hsign
  cases hwhole
  cases hfraction
  cases hexponent
  exact ⟨rfl, htail⟩

end Spelling

/-! ### The first mark of a line -/

def isMark (c : Char) : Bool := c == ':' || c == '='

/-- A line is split at its first mark. -/
theorem splitName?_eq_some_iff {line before after : List Char} :
    splitName? line = some (before, after) ↔
      ∃ mark, isMark mark = true ∧ line = before ++ mark :: after ∧
        ∀ c ∈ before, isMark c = false := by
  induction line generalizing before with
  | nil =>
    refine iff_of_false nofun ?_
    rintro ⟨mark, -, hnil, -⟩
    exact List.append_ne_nil_of_right_ne_nil before (List.cons_ne_nil mark after) hnil.symm
  | cons d line ih =>
    rw [splitName?]
    split
    next hd =>
      constructor
      · rintro ⟨⟩
        exact ⟨d, hd, rfl, nofun⟩
      · rintro ⟨mark, hmark, hline, hbefore⟩
        cases before with
        | nil =>
          cases hline
          rfl
        | cons b before =>
          obtain ⟨rfl, -⟩ := List.cons.inj hline
          exact absurd hd (by simpa [isMark] using hbefore d List.mem_cons_self)
    next hd =>
      rw [Option.map_eq_some_iff]
      constructor
      · rintro ⟨⟨front, behind⟩, hsplit, heq⟩
        cases heq
        obtain ⟨mark, hmark, rfl, hfront⟩ := ih.mp hsplit
        refine ⟨mark, hmark, rfl, List.forall_mem_cons.mpr ⟨?_, hfront⟩⟩
        rw [← Bool.not_eq_true]
        exact hd
      · rintro ⟨mark, hmark, hline, hbefore⟩
        cases before with
        | nil =>
          cases hline
          exact absurd hmark hd
        | cons b before =>
          obtain ⟨rfl, rfl⟩ := List.cons.inj hline
          refine ⟨(before, after), ih.mpr ⟨mark, hmark, rfl, ?_⟩, rfl⟩
          exact (List.forall_mem_cons.mp hbefore).2

/-! ### The parts of a line -/

def Blanks (cs : List Char) : Prop := ∀ c ∈ cs, isBlank c = true

instance (cs : List Char) : Decidable (Blanks cs) :=
  decidable_of_iff (cs.all isBlank = true) List.all_eq_true

/-- A line in its parts, the blanks between them among these. -/
structure Parts where
  lead : List Char
  name : List Char
  beforeMark : List Char
  mark : Char
  afterMark : List Char
  number : Spelling
  beforeUnit : List Char
  unit : String
  trail : List Char

namespace Parts

/-- What stands in front of the mark. -/
def front (p : Parts) : List Char := p.lead ++ (p.name ++ p.beforeMark)

def afterNumber (p : Parts) : List Char := p.beforeUnit ++ (p.unit.toList ++ p.trail)

def text (p : Parts) : List Char :=
  p.front ++ p.mark :: (p.afterMark ++ (p.number.text ++ p.afterNumber))

/-- A line follows the grammar in these parts, with digits of this kind in its number. -/
structure Matches (p : Parts) (digit : Char → Bool) (line : List Char) : Prop where
  text : p.text = line
  lead : Blanks p.lead
  name : isName p.name = true
  beforeMark : Blanks p.beforeMark
  mark : p.mark = ':' ∨ p.mark = '='
  afterMark : Blanks p.afterMark
  number : p.number.Valid digit
  beforeUnit : Blanks p.beforeUnit
  unit : p.unit ∈ units
  trail : Blanks p.trail

/-- What a line in these parts states: blanks at the end of a name are none of it. -/
def stated (p : Parts) : MetricLine := ⟨trim p.name, p.number.numeral, p.unit⟩

end Parts

/-! ### Names -/

theorem not_isMark {P : Char → Bool} (hcolon : P ':' = false) (hequals : P '=' = false) {c : Char}
    (h : P c = true) : isMark c = false := by
  rw [← Bool.not_eq_true, isMark, Bool.or_eq_true, beq_iff_eq, beq_iff_eq]
  rintro (rfl | rfl)
  · exact absurd h (by simp [hcolon])
  · exact absurd h (by simp [hequals])

theorem isName_cons {c : Char} {cs : List Char} :
    isName (c :: cs) = true ↔ isNameStart c = true ∧ ∀ d ∈ cs, isNameChar d = true := by
  rw [isName, Bool.and_eq_true, List.all_eq_true]

theorem exists_cons_of_isName {name : List Char} (h : isName name = true) :
    ∃ c cs, name = c :: cs ∧ isNameStart c = true ∧ ∀ d ∈ cs, isNameChar d = true := by
  cases name with
  | nil => cases h
  | cons c cs => exact ⟨c, cs, rfl, isName_cons.mp h⟩

theorem not_isMark_of_mem_name {name : List Char} (h : isName name = true) :
    ∀ c ∈ name, isMark c = false := by
  obtain ⟨c, cs, rfl, hc, hcs⟩ := exists_cons_of_isName h
  rw [List.forall_mem_cons]
  refine ⟨not_isMark rfl rfl hc, fun d hd => ?_⟩
  exact not_isMark (by decide +kernel) (by decide +kernel) (hcs d hd)

theorem not_isBlank_of_isNameStart {c : Char} (h : isNameStart c = true) : isBlank c = false := by
  rw [isNameStart, Bool.or_eq_true, beq_iff_eq] at h
  rcases h with h | rfl
  · exact not_isBlank_of_isAlpha h
  · rfl

/-- Trimming takes only blanks at the end off a name, and leaves a name. -/
theorem isName_trim {name : List Char} (h : isName name = true) : isName (trim name) = true := by
  obtain ⟨c, cs, rfl, hc, hcs⟩ := exists_cons_of_isName h
  have hblank := not_isBlank_of_isNameStart hc
  have hstart : trimStart (c :: cs) = c :: cs := by
    refine trimStart_eq_self ?_
    rintro _ ⟨⟩
    exact hblank
  obtain ⟨bs, hbs, hsplit⟩ := exists_trimEnd_append (c :: cs)
  rw [trim, hstart]
  cases hend : trimEnd (c :: cs) with
  | nil =>
    rw [hend, List.nil_append] at hsplit
    exact absurd (hbs c (hsplit ▸ List.mem_cons_self)) (by simp [hblank])
  | cons d ds =>
    rw [hend, List.cons_append] at hsplit
    obtain ⟨rfl, rfl⟩ := List.cons.inj hsplit
    exact isName_cons.mpr ⟨hc, fun e he => hcs e (List.mem_append_left _ he)⟩

/-! ### Units -/

theorem trim_unit : ∀ u ∈ units, trim u.toList = u.toList := by decide

theorem toList_unit_ne_nil : ∀ u ∈ units, u.toList ≠ [] := by decide

/-- A unit starts with none of the characters that continue a number. -/
theorem ends_unit {u : String} (h : u ∈ units) : Ends u.toList := by
  have hfirst : ∀ u ∈ units,
      u.toList.head?.all ['n', 'u', 'µ', 'm', 's', 'o'].contains = true := by
    decide
  intro c hc
  have hmem : c ∈ ['n', 'u', 'µ', 'm', 's', 'o'] := by
    have hall := hfirst u h
    rwa [hc, Option.all_some, List.contains_iff_mem] at hall
  refine ⟨not_isDigit_of_mem (List.mem_append_right ['-', '+', '.', 'e', 'E'] hmem), ?_, ?_, ?_⟩
  all_goals
    rintro rfl
    exact absurd hmem (by decide)

theorem isThroughput_unit : ∀ u ∈ units, Measurement.isThroughput u = (u == "ops/s") := by
  decide

/-! ### Reading a line in its parts -/

namespace Parts.Matches

variable {p q : Parts} {line : List Char}

theorem mono {other : Char → Bool} (h : ∀ c, digit c = true → other c = true)
    (hp : p.Matches digit line) : p.Matches other line :=
  ⟨hp.text, hp.lead, hp.name, hp.beforeMark, hp.mark, hp.afterMark, hp.number.mono h,
    hp.beforeUnit, hp.unit, hp.trail⟩

theorem splitName?_eq (hp : p.Matches digit line) :
    splitName? line = some (p.front, p.afterMark ++ (p.number.text ++ p.afterNumber)) := by
  have hblanks : ∀ {cs : List Char}, Blanks cs → ∀ c ∈ cs, isMark c = false :=
    fun hcs c hc => not_isMark rfl rfl (hcs c hc)
  refine splitName?_eq_some_iff.mpr ⟨p.mark, by simpa [isMark] using hp.mark, hp.text.symm, ?_⟩
  rw [front, List.forall_mem_append, List.forall_mem_append]
  exact ⟨hblanks hp.lead, not_isMark_of_mem_name hp.name, hblanks hp.beforeMark⟩

theorem trim_front (hp : p.Matches digit line) : trim p.front = trim p.name := by
  rw [front, trim_blanks_append hp.lead, trim_append_blanks hp.beforeMark]

theorem trim_afterNumber (hp : p.Matches digit line) : trim p.afterNumber = p.unit.toList := by
  rw [afterNumber, trim_blanks_append hp.beforeUnit, trim_append_blanks hp.trail,
    trim_unit p.unit hp.unit]

theorem ends_afterNumber (hp : p.Matches digit line) : Ends p.afterNumber := by
  rw [afterNumber]
  cases hblanks : p.beforeUnit with
  | nil =>
    obtain ⟨c, cs, hcs⟩ := List.exists_cons_of_ne_nil (toList_unit_ne_nil p.unit hp.unit)
    intro d hd
    rw [List.nil_append, hcs] at hd
    exact ends_unit hp.unit d (hcs ▸ hd)
  | cons b bs =>
    rintro _ ⟨⟩
    have hb : isBlank b = true := hp.beforeUnit b (hblanks ▸ List.mem_cons_self)
    refine ⟨?_, ?_, ?_, ?_⟩
    · rw [← Bool.not_eq_true]
      intro hdigit
      exact absurd hb (by simp [not_isBlank_of_isDigit hdigit])
    all_goals
      rintro rfl
      exact absurd hb (by decide)

/-- A number does not start with a blank. -/
theorem trimStart_eq (hp : p.Matches isDigit line) :
    trimStart (p.afterMark ++ (p.number.text ++ p.afterNumber)) =
      p.number.text ++ p.afterNumber := by
  have hdrop : trimStart (p.afterMark ++ (p.number.text ++ p.afterNumber)) =
      trimStart (p.number.text ++ p.afterNumber) := by
    rw [trimStart, List.dropWhile_append_of_pos hp.afterMark, ← trimStart]
  rw [hdrop]
  refine trimStart_eq_self fun c hc => ?_
  rw [Spelling.text_append] at hc
  cases hsign : p.number.sign with
  | none =>
    obtain ⟨d, ds, hds⟩ := List.exists_cons_of_ne_nil hp.number.whole.ne_nil
    rw [hsign, hds] at hc
    cases hc
    exact not_isBlank_of_isDigit (hp.number.whole.all c (hds ▸ List.mem_cons_self))
  | some s =>
    rw [hsign] at hc
    cases hc
    rcases hp.number.sign c hsign with rfl | rfl <;> rfl

/-- A line that follows the grammar is read. -/
theorem read?_eq (hp : p.Matches Json.isDecimalDigit line) : read? line = some p.stated := by
  have hstart := (hp.mono fun _ => isDigit_of_isDecimalDigit).trimStart_eq
  have hname : isName (trim p.front) = true := hp.trim_front ▸ isName_trim hp.name
  have hunit : units.contains (String.ofList (trim p.afterNumber)) = true := by
    rw [hp.trim_afterNumber, String.ofList_toList]
    exact List.contains_iff_mem.mpr hp.unit
  rw [read?, hp.splitName?_eq]
  simp only [Option.bind_eq_bind, Option.bind_some, hname, guard, if_true, hstart,
    Spelling.numeral?_append hp.number hp.ends_afterNumber, hunit, Option.pure_def]
  rw [stated, hp.trim_front, hp.trim_afterNumber, String.ofList_toList]

/-- The parts of a line that matter are unique, with digits of all scripts in its number. -/
theorem unique (hp : p.Matches isDigit line) (hq : q.Matches isDigit line) :
    p.number = q.number ∧ p.unit = q.unit ∧ trim p.name = trim q.name := by
  have hsplit := hp.splitName?_eq
  rw [hq.splitName?_eq] at hsplit
  obtain ⟨hbefore, hafter⟩ := Prod.mk.inj (Option.some.inj hsplit)
  have hnumber : p.number.text ++ p.afterNumber = q.number.text ++ q.afterNumber := by
    rw [← hp.trimStart_eq, ← hq.trimStart_eq, hafter]
  obtain ⟨hnumber, hrest⟩ := Spelling.text_append_inj hp.number hq.number hp.ends_afterNumber
    hq.ends_afterNumber hnumber
  refine ⟨hnumber, ?_, ?_⟩
  · rw [← String.toList_inj, ← hp.trim_afterNumber, ← hq.trim_afterNumber, hrest]
  · rw [← hp.trim_front, ← hq.trim_front, hbefore]

/-- What is in front of the first mark. -/
theorem takeWhile_eq (hp : p.Matches digit line) :
    line.takeWhile (!isMark ·) = p.front := by
  obtain ⟨mark, hmark, hline, hbefore⟩ := splitName?_eq_some_iff.mp hp.splitName?_eq
  rw [hline, List.takeWhile_append_of_pos (by simpa using hbefore),
    List.takeWhile_cons_of_neg (by simp [hmark]), List.append_nil]

end Parts.Matches

/-- A line that is read follows the grammar. -/
theorem exists_parts {line : List Char} {m : MetricLine} (h : read? line = some m) :
    ∃ p : Parts, p.Matches Json.isDecimalDigit line ∧ m = p.stated := by
  simp only [read?, guard, Option.bind_eq_bind, Option.bind_eq_some_iff, Option.pure_def,
    Option.failure_eq_none, Option.ite_none_right_eq_some, Option.some.injEq] at h
  obtain ⟨⟨before, after⟩, hsplit, -, ⟨hname, -⟩, ⟨number, rest⟩, hnumber, -, ⟨hunit, -⟩, rfl⟩ := h
  dsimp only at hname hnumber hunit ⊢
  obtain ⟨mark, hmark, hline, -⟩ := splitName?_eq_some_iff.mp hsplit
  obtain ⟨lead, beforeMark, hlead, hbeforeMark, hbefore⟩ := exists_trim before
  obtain ⟨n, hn, hafter, rfl⟩ := Spelling.exists_text_append hnumber
  obtain ⟨beforeUnit, trail, hbeforeUnit, htrail, hrest⟩ := exists_trim rest
  refine ⟨⟨lead, trim before, beforeMark, mark, after.takeWhile isBlank, n, beforeUnit,
    String.ofList (trim rest), trail⟩, ⟨?_, hlead, hname, hbeforeMark, ?_, ?_, hn, hbeforeUnit, ?_,
    htrail⟩, ?_⟩
  · rw [Parts.text, Parts.front, Parts.afterNumber, String.toList_ofList, ← hbefore, ← hrest,
      ← hafter, trimStart, List.takeWhile_append_dropWhile, hline]
  · simpa [isMark] using hmark
  · exact fun c hc => List.mem_takeWhile_imp hc
  · exact List.contains_iff_mem.mp hunit
  · rw [Parts.stated, (unpadded_trim before).trim_eq]

theorem isSome_read?_iff {line : List Char} :
    (read? line).isSome = true ↔ ∃ p : Parts, p.Matches Json.isDecimalDigit line := by
  rw [Option.isSome_iff_exists]
  constructor
  · rintro ⟨m, hm⟩
    obtain ⟨p, hp, -⟩ := exists_parts hm
    exact ⟨p, hp⟩
  · rintro ⟨p, hp⟩
    exact ⟨p.stated, hp.read?_eq⟩

section

variable {α : Type} [Quantity α]

/-- What a measurement has of a line in these parts. -/
structure Parts.Tells (p : Parts) (line : List Char) (m : Measurement α) : Prop where
  metric : m.metric = String.ofList (trim (line.takeWhile (!isMark ·)))
  value : m.value = Quantity.ofNumeral p.number.numeral
  exact_value : p.number.numeral.value = p.number.value
  unit : m.unit = some p.unit
  lowerIsBetter : m.lowerIsBetter = false ↔ p.unit = "ops/s"

theorem Parts.Matches.tells {p : Parts} {line : List Char}
    (hp : p.Matches Json.isDecimalDigit line) :
    p.Tells line (Measurement.ofMetricLine p.stated : Measurement α) where
  metric := by rw [hp.takeWhile_eq, hp.trim_front]; rfl
  value := rfl
  exact_value := p.number.value_numeral
  unit := rfl
  lowerIsBetter := by
    have hdirection := isThroughput_unit p.unit hp.unit
    rw [Measurement.ofMetricLine, stated, hdirection, Bool.not_eq_false', beq_iff_eq]

end

end MetricLine

end PatchTrial
