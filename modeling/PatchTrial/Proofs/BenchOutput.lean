import PatchTrial.Proofs.JsonText
import PatchTrial.Proofs.MetricLines

/-!
# The line that a bench step is measured by

The last line that is a JSON object with a finite number as its value decides. If there is none, the
last metric line does, and failing both the time that the step took. So no other line matters.

Main statement: `Measurement.ofStepRun_selects`.
-/
namespace PatchTrial

open Text

/-! ### Objects start with a brace -/

namespace Json

theorem readScalar?_ne_object {cs rest : List Char} {fields : List (String × Json)} :
    readScalar? cs ≠ some (.object fields, rest) := by
  intro h
  unfold readScalar? at h
  split at h
  · cases h
  · cases h
  · cases h
  · obtain ⟨⟨s, r⟩, -, heq⟩ := Option.map_eq_some_iff.mp h
    cases s <;> cases heq
  · obtain ⟨⟨n, r⟩, -, heq⟩ := Option.map_eq_some_iff.mp h
    cases n <;> cases heq

theorem head?_of_readValue?_object {fuel depth : Nat} {cs rest : List Char}
    {fields : List (String × Json)} (h : readValue? fuel depth cs = some (.object fields, rest)) :
    (skipSpace cs).head? = some '\x7b' := by
  cases fuel with
  | zero => cases h
  | succ fuel =>
    -- An array that is nested too deeply is no object either.
    have harray : ∀ (js : List Json) (r : List Char),
        ((if depth = 0 then unusable else array js), r) ≠ (object fields, rest) := by
      intro js r heq
      have hfirst := congrArg Prod.fst heq
      split at hfirst <;> cases hfirst
    rw [readValue?] at h
    split at h
    · split at h
      · exact absurd (Option.some.inj h) (harray _ _)
      · obtain ⟨⟨js, r⟩, -, heq⟩ := Option.map_eq_some_iff.mp h
        exact absurd heq (harray js r)
    next hstart => rw [hstart, List.head?_cons]
    · exact absurd h readScalar?_ne_object

theorem isBlank_of_isSpace {c : Char} (h : isSpace c = true) : isBlank c = true := by
  simp only [isSpace, Bool.or_eq_true, beq_iff_eq] at h
  rcases h with ((rfl | rfl) | rfl) | rfl <;> rfl

theorem skipSpace_trim (line : List Char) : skipSpace (trim line) = trim line := by
  cases hline : trim line with
  | nil => rfl
  | cons c cs =>
    have hc : isBlank c = false := (unpadded_trim line).head c (by rw [hline, List.head?_cons])
    refine skipSpace_cons ?_ cs
    rw [← Bool.not_eq_true]
    intro hspace
    exact absurd (isBlank_of_isSpace hspace) (by simp [hc])

/-- A trimmed text that is an object starts with the brace of it. -/
theorem head?_of_readWhole?_object {line : List Char} {fields : List (String × Json)}
    (h : readWhole? (String.ofList (trim line)) = some (.object fields)) :
    (trim line).head? = some '\x7b' := by
  rw [readWhole?, Option.filter_eq_some_iff, read?, String.toList_ofList] at h
  obtain ⟨hread, -⟩ := h
  split at hread
  next j rest hvalue =>
    split at hread
    · cases hread
      rw [← skipSpace_trim]
      exact head?_of_readValue?_object hvalue
    · cases hread
  · cases hread

end Json

namespace Measurement

variable {α : Type} [Quantity α] {line : List Char} {m : Measurement α}

/-! ### Lines with an object -/

/-- What an object says beside its value. Parts of the wrong kind are left out. -/
def ofFields (fields : List (String × Json)) (value : α) : Measurement α :=
  let object := Json.object fields
  let unit := (object.field? "unit").bind Json.string?
  { metric := ((object.field? "metric").bind Json.string?).getD "value"
    value := value
    unit := unit
    lowerIsBetter :=
      ((object.field? "lower_is_better").bind Json.bool?).getD (!unit.any isThroughput) }

/-- A line is a JSON object with a finite number as its value, up to blanks around it, and this is
the measurement that it holds. -/
def Holds (line : List Char) (m : Measurement α) : Prop :=
  ∃ fields n, Json.readWhole? (String.ofList (trim line)) = some (.object fields) ∧
    fields.reverse.lookup "value" = some (.number n) ∧
    Quantity.isFinite (Quantity.ofNumber n : α) = true ∧ m = ofFields fields (Quantity.ofNumber n)

/-- The reader finds just these. -/
theorem ofJsonLine?_eq_some_iff : ofJsonLine? line = some m ↔ Holds line m := by
  simp only [ofJsonLine?, guard, Option.bind_eq_bind, Option.bind_eq_some_iff, Option.pure_def,
    Option.failure_eq_none, Option.ite_none_right_eq_some]
  constructor
  · rintro ⟨-, -, j, hread, value, hvalue, h⟩
    cases j with
    | object fields =>
      cases value with
      | number n =>
        dsimp only at h
        split at h
        next hfinite =>
          cases h
          exact ⟨fields, n, hread, hvalue, hfinite, rfl⟩
        · cases h
      | _ => cases h
    | _ => cases hvalue
  · rintro ⟨fields, n, hread, hvalue, hfinite, rfl⟩
    refine ⟨(), ⟨Json.head?_of_readWhole?_object hread, trivial⟩, _, hread, _, hvalue, ?_⟩
    dsimp only
    rw [if_pos hfinite]
    rfl

theorem ofJsonLine?_eq_none_iff :
    (ofJsonLine? line : Option (Measurement α)) = none ↔ ∀ m : Measurement α, ¬Holds line m := by
  simp only [Option.eq_none_iff_forall_ne_some, ne_eq, ofJsonLine?_eq_some_iff]

end Measurement

/-! ### Lines with a metric -/

namespace MetricLine

/-- A line follows the grammar of metric lines. -/
def IsMetric (line : List Char) : Prop := ∃ p : Parts, p.Matches Json.isDecimalDigit line

theorem read?_eq_none_iff {line : List Char} : read? line = none ↔ ¬IsMetric line := by
  rw [← Option.not_isSome_iff_eq_none, isSome_read?_iff, IsMetric]

end MetricLine

/-! ### The last line of a kind -/

section

variable {β γ : Type} {f : β → Option γ} {ls ls' before after : List β} {l : β} {x : γ}

/-- What a search from the end finds, lines behind it giving nothing. -/
theorem findSome?_reverse_eq (hl : f l = some x) (hafter : ∀ a ∈ after, f a = none) :
    (before ++ l :: after).reverse.findSome? f = some x := by
  have hnone : after.reverse.findSome? f = none := by
    rw [List.findSome?_eq_none_iff]
    exact fun a ha => hafter a (List.mem_reverse.mp ha)
  rw [List.reverse_append, List.reverse_cons, List.findSome?_append, List.findSome?_append, hnone,
    Option.none_or, List.findSome?_singleton, hl, Option.some_or]

theorem findSome?_reverse_eq_none (h : ∀ l ∈ ls, f l = none) : ls.reverse.findSome? f = none := by
  rw [List.findSome?_eq_none_iff]
  exact fun l hl => h l (List.mem_reverse.mp hl)

/-- Lines without `P` are put in and taken out anywhere; one that is changed is taken out and
another put in. -/
inductive Edited (P : β → Prop) : List β → List β → Prop
  | nil : Edited P [] []
  | keep {ls ls' : List β} (l : β) (h : Edited P ls ls') : Edited P (l :: ls) (l :: ls')
  | insert {ls ls' : List β} {l : β} (hl : ¬P l) (h : Edited P ls ls') : Edited P ls (l :: ls')
  | delete {ls ls' : List β} {l : β} (hl : ¬P l) (h : Edited P ls ls') : Edited P (l :: ls) ls'

theorem Edited.findSome?_reverse_eq {P : β → Prop} (h : Edited P ls ls')
    (hf : ∀ l, ¬P l → f l = none) : ls.reverse.findSome? f = ls'.reverse.findSome? f := by
  induction h with
  | nil => rfl
  | keep l h ih =>
    rw [List.reverse_cons, List.reverse_cons, List.findSome?_append, List.findSome?_append, ih]
  | insert hl h ih =>
    rw [List.reverse_cons, List.findSome?_append, List.findSome?_singleton, hf _ hl, Option.or_none,
      ih]
  | delete hl h ih =>
    rw [List.reverse_cons, List.findSome?_append, List.findSome?_singleton, hf _ hl, Option.or_none,
      ih]

end

namespace Measurement

open MetricLine

variable {α : Type} [Quantity α]

/-- A line that a measurement can be taken from. -/
def Counts (α : Type) [Quantity α] (line : List Char) : Prop :=
  (∃ m : Measurement α, Holds line m) ∨ IsMetric line

/-- Of the lines with a JSON object the last one decides, without any the last metric line, and
without any of these the time that the step took. All other lines can be changed at will. -/
theorem ofStepRun_selects (r : StepRun) :
    let ls := lines r.stdout.toList
    (∀ before line after (m : Measurement α), ls = before ++ line :: after → Holds line m →
      (∀ l ∈ after, ∀ m' : Measurement α, ¬Holds l m') → ofStepRun r = m) ∧
    ((∀ l ∈ ls, ∀ m : Measurement α, ¬Holds l m) →
      (∀ before line after (p : Parts), ls = before ++ line :: after →
        p.Matches Json.isDecimalDigit line → (∀ l ∈ after, ¬IsMetric l) →
        ofStepRun r = (ofMetricLine p.stated : Measurement α)) ∧
      ((∀ l ∈ ls, ¬IsMetric l) → ofStepRun r = (wallTime r : Measurement α))) ∧
    ∀ r' : StepRun, r'.durationMs = r.durationMs →
      Edited (Counts α) ls (lines r'.stdout.toList) →
      (ofStepRun r' : Measurement α) = ofStepRun r := by
  dsimp only
  have hjson : ∀ l, (∀ m : Measurement α, ¬Holds l m) → (ofJsonLine? l : Option _) = none :=
    fun l hl => ofJsonLine?_eq_none_iff.mpr hl
  refine ⟨?_, fun hnone => ⟨?_, ?_⟩, ?_⟩
  · intro before line after m hls hline hafter
    have hfound : (lines r.stdout.toList).reverse.findSome? ofJsonLine? = some m :=
      hls ▸ findSome?_reverse_eq (ofJsonLine?_eq_some_iff.mpr hline) fun l hl =>
        hjson l (hafter l hl)
    rw [ofStepRun, hfound]
  · intro before line after p hls hline hafter
    have hfound : (lines r.stdout.toList).reverse.findSome? read? = some p.stated :=
      hls ▸ findSome?_reverse_eq hline.read?_eq fun l hl => read?_eq_none_iff.mpr (hafter l hl)
    rw [ofStepRun, findSome?_reverse_eq_none fun l hl => hjson l (hnone l hl), hfound]
  · intro hmetric
    rw [ofStepRun, findSome?_reverse_eq_none fun l hl => hjson l (hnone l hl),
      findSome?_reverse_eq_none fun l hl => read?_eq_none_iff.mpr (hmetric l hl)]
  · intro r' htime hedited
    have hsameJson := hedited.findSome?_reverse_eq fun l hl =>
      hjson l fun m hm => hl (Or.inl ⟨m, hm⟩)
    have hsameMetric := hedited.findSome?_reverse_eq fun l hl =>
      read?_eq_none_iff.mpr fun hm => hl (Or.inr hm)
    have hwall : (wallTime r' : Measurement α) = wallTime r := by
      rw [wallTime, wallTime, htime]
    rw [ofStepRun, ofStepRun, ← hsameJson, ← hsameMetric, hwall]

/-- An object counts more than a metric line behind it, and other lines do not count. -/
theorem ofStepRun_selects_latency :
    let r (stdout : String) : StepRun := ⟨"bench", "npm run bench", 0, 900, stdout, "", false⟩
    (ofStepRun (r "p: 1 s\n\x7b\"value\":20\x7d\nlatency: 4.2 ms\n") : Measurement ℚ) =
        ⟨"value", 20, none, true⟩ ∧
      (ofStepRun (r "p: 1 s\nlatency: 4.2 ms\ndone\n") : Measurement ℚ) =
        ⟨"latency", 21 / 5, some "ms", true⟩ ∧
      (ofStepRun (r "done\n") : Measurement ℚ) = ⟨"wall_time_ms", 900, some "ms", true⟩ ∧
      (ofStepRun (r "started\n") : Measurement ℚ) = ofStepRun (r "done\n") := by
  intro r
  let other : List (List Char) :=
    ["p: 1 s".toList, "latency: 4.2 ms".toList, "done".toList, "started".toList]
  have hother : ∀ ls ⊆ other, ∀ l ∈ ls, ∀ m : Measurement ℚ, ¬Holds l m := by
    have hall : (other.all fun l => (ofJsonLine? l : Option (Measurement ℚ)).isNone) = true := by
      decide +kernel
    intro ls hls l hl
    have hnone := List.all_eq_true.mp hall l (hls hl)
    exact ofJsonLine?_eq_none_iff.mp (Option.isNone_iff_eq_none.mp hnone)
  have hdone : ¬IsMetric "done".toList := read?_eq_none_iff.mp (by decide +kernel)
  have hstarted : ¬IsMetric "started".toList := read?_eq_none_iff.mp (by decide +kernel)
  have hobject : Holds "\x7b\"value\":20\x7d".toList (⟨"value", 20, none, true⟩ : Measurement ℚ) :=
    ofJsonLine?_eq_some_iff.mp (by decide +kernel)
  obtain ⟨p, hp, hlatency⟩ : ∃ p : Parts, p.Matches Json.isDecimalDigit "latency: 4.2 ms".toList ∧
      (⟨"latency".toList, ⟨false, 42, -1⟩, "ms"⟩ : MetricLine) = p.stated :=
    exists_parts (by decide +kernel)
  have hlines : lines (r "done\n").stdout.toList = ["done".toList] := by decide +kernel
  refine ⟨?_, ?_, ?_, ?_⟩
  · obtain ⟨hlast, -⟩ := @ofStepRun_selects ℚ _
      (r "p: 1 s\n\x7b\"value\":20\x7d\nlatency: 4.2 ms\n")
    exact hlast ["p: 1 s".toList] _ ["latency: 4.2 ms".toList] _ (by decide +kernel) hobject
      (hother _ (by decide +kernel))
  · obtain ⟨-, hmetric, -⟩ := @ofStepRun_selects ℚ _ (r "p: 1 s\nlatency: 4.2 ms\ndone\n")
    obtain ⟨hlast, -⟩ := hmetric (hother _ (by decide +kernel))
    have hread := hlast ["p: 1 s".toList] _ ["done".toList] p (by decide +kernel) hp
      (List.forall_mem_singleton.mpr hdone)
    rw [hread, ← hlatency]
    decide +kernel
  · obtain ⟨-, hmetric, -⟩ := @ofStepRun_selects ℚ _ (r "done\n")
    obtain ⟨-, hwall⟩ := hmetric (hother _ (by decide +kernel))
    refine (hwall ?_).trans (by decide +kernel)
    rw [hlines]
    exact List.forall_mem_singleton.mpr hdone
  · obtain ⟨-, -, hedited⟩ := @ofStepRun_selects ℚ _ (r "done\n")
    have hjson := hother ["done".toList, "started".toList] (by decide +kernel)
    have hlines' : lines (r "started\n").stdout.toList = ["started".toList] := by decide +kernel
    refine hedited (r "started\n") rfl ?_
    rw [hlines, hlines']
    refine .delete ?_ (.insert ?_ .nil)
    · rintro (⟨m, hm⟩ | hm)
      · exact hjson _ (by decide) m hm
      · exact hdone hm
    · rintro (⟨m, hm⟩ | hm)
      · exact hjson _ (by decide) m hm
      · exact hstarted hm

end Measurement

end PatchTrial
