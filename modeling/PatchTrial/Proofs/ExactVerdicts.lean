import PatchTrial.Proofs.ExactNumbers

/-!
# Verdicts on exact benchmarks

A better benchmark never costs a candidate its acceptance or its confidence. A candidate that is
turned down for its benchmark got worse by more than is tolerated; the comparison that comes with
the verdict shows this as a regression, unless the change is too small for it to count.

Values are compared as they stand, whatever the units are that they are stated in.

Main statements: `evaluate_mono`, `turned_down_trend`, `accepted_by_bare_numbers`.
-/
namespace PatchTrial

namespace Acceptance

open Quantity Comparison

variable {α : Type}

/-! ### Apart from the benchmark -/

/-- What a candidate must meet apart from its benchmark. -/
structure Passes (baseline : PipelineRun α) (candidate : CandidateRun α) : Prop where
  not_rejected : candidate.rejection = none
  succeeded : candidate.succeeded = true
  passes_again : ∀ s ∈ [Step.build, .typecheck, .test, .bench], PassesAgain baseline candidate s

section

variable {baseline : PipelineRun α} {candidate : CandidateRun α}

theorem passes_iff :
    Passes baseline candidate ↔
      candidate.rejection = none ∧ faults baseline candidate = [] := by
  rw [faults_eq_nil_iff, stepFaults_eq_nil_iff]
  constructor
  · rintro ⟨hr, hs, hp⟩
    exact ⟨hr, hp, hs⟩
  · rintro ⟨hr, hp, hs⟩
    exact ⟨hr, hs, hp⟩

variable [Quantity α] {policy : AcceptancePolicy α} {opportunity : Opportunity}

theorem accepted_iff :
    (evaluate policy opportunity baseline candidate).accepted = true ↔
      Passes baseline candidate ∧
        ∀ c, comparison? baseline candidate = some c → regressed policy c = false := by
  constructor
  · intro h
    obtain ⟨hr, hf, hc⟩ := of_accepted h
    exact ⟨passes_iff.mpr ⟨hr, hf⟩, hc⟩
  · rintro ⟨hp, hc⟩
    have hmeets : Meets policy baseline candidate := by
      refine ⟨hp.not_rejected, hp.succeeded, hp.passes_again, fun x hx => ?_⟩
      obtain ⟨c, hcompared, rfl⟩ := improvedBy_iff.mp hx
      exact hc c hcompared
    rcases evaluate_cases policy opportunity baseline candidate with ⟨-, -, -, hnot⟩ | ⟨hacc, -⟩
    · exact absurd hmeets hnot
    · exact hacc

theorem confidence_of_accepted
    (h : (evaluate policy opportunity baseline candidate).accepted = true) :
    (evaluate policy opportunity baseline candidate).confidence =
      grade policy (comparison? baseline candidate) (validated candidate) := by
  rcases evaluate_cases policy opportunity baseline candidate with ⟨hnot, -⟩ | ⟨-, -, hgrade⟩
  · cases hnot.symm.trans h
  · exact hgrade

/-- What was run is judged with its comparison. -/
theorem benchmark_of_not_rejected (h : candidate.rejection = none) :
    (evaluate policy opportunity baseline candidate).benchmark =
      comparison? baseline candidate := by
  unfold evaluate
  simp only [h]
  split
  · rfl
  · split <;> rfl

theorem comparison?_eq_some_iff {c : Comparison α} :
    comparison? baseline candidate = some c ↔ ∃ before after,
      baseline.measurement = some before ∧ candidate.measurement = some after ∧
        between? before after = some c := by
  simp only [comparison?, Option.bind_eq_bind, Option.bind_eq_some_iff]
  constructor
  · rintro ⟨before, hbefore, after, hafter, hc⟩
    exact ⟨before, after, hbefore, hafter, hc⟩
  · rintro ⟨before, after, hbefore, hafter, hc⟩
    exact ⟨before, hbefore, after, hafter, hc⟩

theorem comparisonRemark_eq_nil {c : Comparison α}
    (h : comparison? baseline candidate = some c) : comparisonRemark baseline candidate = [] := by
  obtain ⟨before, after, hbefore, hafter, hc⟩ := comparison?_eq_some_iff.mp h
  rw [comparisonRemark, hbefore, hafter]
  simp [hc]

/-- What passes otherwise is turned down for its benchmark, and for nothing else. -/
theorem turned_down_of_passes (hp : Passes baseline candidate)
    (h : (evaluate policy opportunity baseline candidate).accepted = false) :
    ∃ c, comparison? baseline candidate = some c ∧ regressed policy c = true ∧
      evaluate policy opportunity baseline candidate =
        ⟨false, .low, opportunity.effectiveRisk, [regressionText policy c], some c⟩ := by
  obtain ⟨hr, hf⟩ := passes_iff.mp hp
  unfold evaluate at h ⊢
  simp only [hr, hf, List.isEmpty_nil, Bool.not_true, Bool.false_eq_true, if_false] at h ⊢
  split at h
  next c hc =>
    obtain ⟨hcompared, hregressed⟩ := Option.filter_eq_some_iff.mp hc
    refine ⟨c, hcompared, hregressed, ?_⟩
    rw [comparisonRemark_eq_nil hcompared, hcompared]
    rfl
  next => cases h

end

/-! ### Better benchmarks -/

/-- The second of two values is at least as good as the first. -/
def NoWorse (lowerIsBetter : Bool) (x y : ℚ) : Prop :=
  if lowerIsBetter then y ≤ x else x ≤ y

theorem headway_mono {lowerIsBetter : Bool} {x y : ℚ} (h : NoWorse lowerIsBetter x y)
    (before : ℚ) : headway lowerIsBetter before x ≤ headway lowerIsBetter before y := by
  cases lowerIsBetter with
  | false => exact sub_le_sub_right (h : x ≤ y) before
  | true => exact sub_le_sub_left (h : y ≤ x) before

theorem regressed_exact {policy : AcceptancePolicy ℚ} {c : Comparison ℚ} :
    regressed policy c = true ↔ c.improvement < -policy.regressionTolerance := lt_exact

theorem grade_mono (policy : AcceptancePolicy ℚ) {c d : Comparison ℚ}
    (h : c.improvement ≤ d.improvement) (steps : List Step) :
    (grade policy (some c) steps).rank ≤ (grade policy (some d) steps).rank := by
  simp only [grade, Bool.and_eq_true, le_exact, decide_eq_true_eq]
  by_cases hhigh : policy.highImprovement ≤ d.improvement ∧ 3 ≤ steps.length
  · rw [if_pos hhigh]
    split_ifs <;> decide
  have hhigh' : ¬(policy.highImprovement ≤ c.improvement ∧ 3 ≤ steps.length) :=
    fun hc => hhigh ⟨hc.1.trans h, hc.2⟩
  rw [if_neg hhigh, if_neg hhigh']
  by_cases hmedium : policy.mediumImprovement ≤ d.improvement ∧ 2 ≤ steps.length
  · rw [if_pos hmedium]
    split_ifs <;> decide
  · rw [if_neg fun hc => hmedium ⟨hc.1.trans h, hc.2⟩, if_neg hmedium]

/-- Another value leaves the benchmark comparable, or not, and a value that is no worse makes no
smaller improvement. -/
theorem comparison?_no_worse (baseline : PipelineRun ℚ) (candidate : CandidateRun ℚ)
    {m : Measurement ℚ} {y : ℚ} (h : NoWorse m.lowerIsBetter m.value y) :
    (comparison? baseline { candidate with measurement := some m } = none ∧
      comparison? baseline { candidate with measurement := some { m with value := y } } = none) ∨
    ∃ c d, comparison? baseline { candidate with measurement := some m } = some c ∧
      comparison? baseline { candidate with measurement := some { m with value := y } } = some d ∧
      c.improvement ≤ d.improvement := by
  cases hb : baseline.measurement with
  | none => exact Or.inl ⟨by simp [comparison?, hb], by simp [comparison?, hb]⟩
  | some before =>
    simp only [comparison?, hb, Option.bind_eq_bind, Option.bind_some]
    by_cases hsame : before.metric = m.metric ∧ before.lowerIsBetter = m.lowerIsBetter
    · obtain ⟨c, hc⟩ := Option.isSome_iff_exists.mp (between?_isSome_iff.mpr hsame)
      have hother : (between? before { m with value := y }).isSome = true :=
        between?_isSome_iff.mpr hsame
      obtain ⟨d, hd⟩ := Option.isSome_iff_exists.mp hother
      refine Or.inr ⟨c, d, hc, hd, ?_⟩
      rw [(tells_of_between? hc).improvement_eq, (tells_of_between? hd).improvement_eq]
      rw [← hsame.2] at h
      exact relativeChange_mono _ (headway_mono h _)
    · refine Or.inl ⟨?_, ?_⟩ <;>
        exact Option.not_isSome_iff_eq_none.mp (mt between?_isSome_iff.mp hsame)

/-- A candidate that is kept is kept with a value that is no worse, too, and with no less
confidence. -/
theorem evaluate_mono (policy : AcceptancePolicy ℚ) (opportunity : Opportunity)
    (baseline : PipelineRun ℚ) (candidate : CandidateRun ℚ) (m : Measurement ℚ) (y : ℚ)
    (h : NoWorse m.lowerIsBetter m.value y) :
    let v := evaluate policy opportunity baseline { candidate with measurement := some m }
    let w := evaluate policy opportunity baseline
      { candidate with measurement := some { m with value := y } }
    (v.accepted = true → w.accepted = true) ∧ v.confidence.rank ≤ w.confidence.rank := by
  intro v w
  have hkept : v.accepted = true → w.accepted = true := by
    intro hv
    obtain ⟨hp, hc⟩ := accepted_iff.mp hv
    refine accepted_iff.mpr ⟨⟨hp.not_rejected, hp.succeeded, hp.passes_again⟩, ?_⟩
    intro d hd
    rcases comparison?_no_worse baseline candidate h with
      ⟨-, hnone⟩ | ⟨c, d', hcompared, hcompared', hle⟩
    · cases hnone.symm.trans hd
    · cases hcompared'.symm.trans hd
      have hnot := hc c hcompared
      rw [← Bool.not_eq_true, regressed_exact, not_lt] at hnot ⊢
      exact hnot.trans hle
  refine ⟨hkept, ?_⟩
  cases hv : v.accepted with
  | false =>
    have hlow : v.confidence = .low := by
      rcases evaluate_cases policy opportunity baseline { candidate with measurement := some m }
        with ⟨-, hlow, -⟩ | ⟨hacc, -⟩
      · exact hlow
      · cases hv.symm.trans hacc
    rw [hlow]
    exact Nat.zero_le _
  | true =>
    rw [confidence_of_accepted hv, confidence_of_accepted (hkept hv)]
    rcases comparison?_no_worse baseline candidate h with
      ⟨hnone, hnone'⟩ | ⟨c, d, hcompared, hcompared', hle⟩
    · rw [hnone, hnone']
      exact le_rfl
    · rw [hcompared, hcompared']
      exact grade_mono policy hle _

/-- From a negative value that is the better the lower it is. The same steps earn low, medium and
high confidence as the benchmark gets one percent, five percent and a quarter lower, and the
candidate is lost as it gets higher. -/
theorem evaluate_mono_negative :
    let steps : List StepRun := [⟨"build", "make", 0, 0, "", "", false⟩,
      ⟨"test", "make test", 0, 0, "", "", false⟩, ⟨"bench", "make bench", 0, 0, "", "", false⟩]
    let run (x : ℚ) : PipelineRun ℚ := .ofSteps steps (some ⟨"balance", x, none, true⟩)
    let judged (x : ℚ) : Verdict ℚ :=
      evaluate ⟨1 / 50, 1 / 10, 3 / 100⟩ { id := "a" } (run (-4)) (.ofRun "a" (run x))
    (judged (-3)).accepted = false ∧
      ((judged (-101 / 25)).accepted = true ∧ (judged (-101 / 25)).confidence = .low) ∧
      (NoWorse true (-101 / 25) (-21 / 5) ∧ (judged (-21 / 5)).accepted = true ∧
        (judged (-21 / 5)).confidence = .medium) ∧
      NoWorse true (-21 / 5) (-5) ∧ (judged (-5)).accepted = true ∧
        (judged (-5)).confidence = .high := by
  intro steps run judged
  have hbetter : NoWorse true (-101 / 25) (-21 / 5) := by
    change (-21 / 5 : ℚ) ≤ -101 / 25
    norm_num
  have hbest : NoWorse true (-21 / 5) (-5) := by
    change (-5 : ℚ) ≤ -21 / 5
    norm_num
  have hlost : (judged (-3)).accepted = false := by decide +kernel
  have hacc : (judged (-101 / 25)).accepted = true := by decide +kernel
  have hmedium : (judged (-21 / 5)).confidence = .medium := by decide +kernel
  have hmono (x y : ℚ) (h : NoWorse true x y) := evaluate_mono ⟨1 / 50, 1 / 10, 3 / 100⟩
    { id := "a" } (run (-4)) (.ofRun "a" (run x)) ⟨"balance", x, none, true⟩ y h
  have hacc' : (judged (-21 / 5)).accepted = true := (hmono _ _ hbetter).1 hacc
  exact ⟨hlost, ⟨hacc, by decide +kernel⟩, ⟨hbetter, hacc', hmedium⟩, hbest,
    (hmono _ _ hbest).1 hacc', by decide +kernel⟩

/-! ### Regressions and trends -/

/-- The first of two values is strictly better. -/
def Better (lowerIsBetter : Bool) (x y : ℚ) : Prop :=
  if lowerIsBetter then x < y else y < x

theorem headway_pos_iff {lowerIsBetter : Bool} {before after : ℚ} :
    0 < headway lowerIsBetter before after ↔ Better lowerIsBetter after before := by
  cases lowerIsBetter <;> exact sub_pos

theorem headway_neg_iff {lowerIsBetter : Bool} {before after : ℚ} :
    headway lowerIsBetter before after < 0 ↔ Better lowerIsBetter before after := by
  cases lowerIsBetter <;> exact sub_neg

theorem better_of_trend {before after : Measurement ℚ} {c : Comparison ℚ}
    (h : between? before after = some c) :
    (c.trend = .improved → Better before.lowerIsBetter after.value before.value) ∧
      (c.trend = .regressed → Better before.lowerIsBetter before.value after.value) := by
  have ht := tells_of_between? h
  have hpos := epsilon_pos
  rw [ht.trend_eq, trendOf_eq_improved_iff, trendOf_eq_regressed_iff, ht.improvement_eq,
    ← headway_pos_iff, ← headway_neg_iff]
  constructor
  · intro hlt
    exact relativeChange_pos_iff.mp (hpos.trans hlt)
  · intro hlt
    exact relativeChange_neg_iff.mp (hlt.trans (neg_lt_zero.mpr hpos))

theorem trend_eq_of_comparison? {baseline : PipelineRun ℚ} {candidate : CandidateRun ℚ}
    {c : Comparison ℚ} (h : comparison? baseline candidate = some c) :
    c.trend = trendOf c.improvement := by
  obtain ⟨before, after, -, -, hc⟩ := comparison?_eq_some_iff.mp h
  exact (tells_of_between? hc).trend_eq

/-- What got worse shows as a regression from the least change on that counts, and until then as no
change. -/
theorem trend_of_neg {c : Comparison ℚ} (ht : c.trend = trendOf c.improvement)
    (h : c.improvement < 0) :
    (c.trend = .regressed ↔ epsilon < -c.improvement) ∧
      (c.trend ≠ .regressed → c.trend = .unchanged) := by
  have hpos := epsilon_pos
  have hregressed : c.trend = .regressed ↔ epsilon < -c.improvement := by
    rw [ht, trendOf_eq_regressed_iff, lt_neg]
  have himproved : c.trend ≠ .improved := by
    rw [ht, Ne, trendOf_eq_improved_iff, not_lt]
    exact (h.trans hpos).le
  refine ⟨hregressed, fun hnot => ?_⟩
  cases hc : c.trend with
  | improved => exact absurd hc himproved
  | regressed => exact absurd hc hnot
  | unchanged => rfl

/-- A candidate that passes otherwise is turned down for a regression beyond the tolerance. The
comparison shows it as a regression if it is larger than the least change that counts, as it always
is if no smaller one is tolerated, and as no change if not. A trend that is shown is there. -/
theorem turned_down_trend (policy : AcceptancePolicy ℚ) (opportunity : Opportunity)
    (baseline : PipelineRun ℚ) (candidate : CandidateRun ℚ)
    (h : 0 ≤ policy.regressionTolerance) :
    let v := evaluate policy opportunity baseline candidate
    (Passes baseline candidate → v.accepted = false →
      ∃ c, v.benchmark = some c ∧ v.reasons = [regressionText policy c] ∧
        policy.regressionTolerance < -c.improvement ∧
        (c.trend = .regressed ↔ epsilon < -c.improvement) ∧
        (c.trend ≠ .regressed → c.trend = .unchanged ∧ policy.regressionTolerance < epsilon)) ∧
    ∀ (before after : Measurement ℚ) (c : Comparison ℚ), between? before after = some c →
      (c.trend = .improved → Better before.lowerIsBetter after.value before.value) ∧
      (c.trend = .regressed → Better before.lowerIsBetter before.value after.value) := by
  refine ⟨fun hp hv => ?_, fun before after c hc => better_of_trend hc⟩
  obtain ⟨c, hcompared, hregressed, hverdict⟩ := turned_down_of_passes hp hv
  have hbeyond : policy.regressionTolerance < -c.improvement :=
    lt_neg_of_lt_neg (regressed_exact.mp hregressed)
  obtain ⟨hshown, hhidden⟩ := trend_of_neg (trend_eq_of_comparison? hcompared)
    (neg_pos.mp (h.trans_lt hbeyond))
  rw [hverdict]
  refine ⟨c, rfl, rfl, hbeyond, hshown, fun hnot => ⟨hhidden hnot, ?_⟩⟩
  exact hbeyond.trans_le (not_lt.mp (mt hshown.mpr hnot))

/-- Where nothing is tolerated, a candidate that is slower by a tenth is turned down for a
regression. -/
theorem turned_down_trend_tenth :
    let runs : List StepRun := [⟨"bench", "make bench", 0, 0, "", "", false⟩]
    let measured (x : ℚ) : PipelineRun ℚ := .ofSteps runs (some ⟨"p50", x, some "ms", true⟩)
    let policy : AcceptancePolicy ℚ := ⟨0, 1 / 10, 3 / 100⟩
    let candidate : CandidateRun ℚ := .ofRun "a" (measured 11)
    let v := evaluate policy { id := "a" } (measured 10) candidate
    0 ≤ policy.regressionTolerance ∧ Passes (measured 10) candidate ∧ v.accepted = false ∧
      ∃ c, v.benchmark = some c ∧ v.reasons = [regressionText policy c] ∧
        c.trend = .regressed := by
  intro runs measured policy candidate v
  have hpasses : Passes (measured 10) candidate := passes_iff.mpr ⟨rfl, rfl⟩
  have hdown : v.accepted = false := by decide +kernel
  obtain ⟨hturned, -⟩ :=
    turned_down_trend policy { id := "a" } (measured 10) candidate le_rfl
  obtain ⟨c, hc, hreasons, -, -, hhidden⟩ := hturned hpasses hdown
  have hshown : v.benchmark.map (·.trend) = some .regressed := by decide +kernel
  rw [show v.benchmark = some c from hc] at hshown
  exact ⟨le_rfl, hpasses, hdown, c, hc, hreasons, Option.some.inj hshown⟩

/-- Where nothing is tolerated, a candidate that is slower by one part in 2 ^ 52 is turned down for
a regression, and the comparison shows no change. -/
theorem not_turned_down_regressed :
    ¬∀ (policy : AcceptancePolicy ℚ) (opportunity : Opportunity) (baseline : PipelineRun ℚ)
      (candidate : CandidateRun ℚ), 0 ≤ policy.regressionTolerance →
      policy.regressionTolerance < 1 → Passes baseline candidate →
      (evaluate policy opportunity baseline candidate).accepted = false →
      ∃ c, (evaluate policy opportunity baseline candidate).benchmark = some c ∧
        c.trend = .regressed := by
  intro hall
  let runs : List StepRun := [⟨"bench", "make bench", 0, 0, "", "", false⟩]
  let measured (x : ℚ) : PipelineRun ℚ := .ofSteps runs (some ⟨"p50", x, some "ms", true⟩)
  let candidate : CandidateRun ℚ := .ofRun "a" (measured (1 + 1 / 2 ^ 52))
  have hshown : (evaluate ⟨0, 1 / 10, 3 / 100⟩ { id := "a" } (measured 1)
      candidate).benchmark.map (·.trend) = some .unchanged := by decide +kernel
  obtain ⟨c, hc, htrend⟩ := hall ⟨0, 1 / 10, 3 / 100⟩ { id := "a" } (measured 1) candidate le_rfl
    zero_lt_one (passes_iff.mpr ⟨rfl, rfl⟩) (by decide +kernel)
  rw [hc, Option.map_some, htrend] at hshown
  cases hshown

end Acceptance

/-! ### Units of time -/

/-- The length of a unit of time in nanoseconds. -/
def MetricLine.nanoseconds? : String → Option ℚ
  | "ns" => some 1
  | "us" => some (10 ^ 3)
  | "µs" => some (10 ^ 3)
  | "ms" => some (10 ^ 6)
  | "s" => some (10 ^ 9)
  | _ => none

/-- A unit of time has a length, and less of it is better. -/
theorem MetricLine.of_nanoseconds? {unit : String} {u : ℚ} (h : nanoseconds? unit = some u) :
    0 < u ∧ Measurement.isThroughput unit = false := by
  unfold nanoseconds? at h
  split at h <;> cases h <;> exact ⟨by norm_num, by decide⟩

/-- A longer unit is at least twice as long. -/
theorem MetricLine.two_mul_le_of_nanoseconds? {unit unit' : String} {u w : ℚ}
    (h : nanoseconds? unit = some u) (h' : nanoseconds? unit' = some w) (hlt : u < w) :
    2 * u ≤ w := by
  unfold nanoseconds? at h h'
  split at h <;> cases h <;> split at h' <;> cases h' <;> revert hlt <;> norm_num

/-- The measurement of a step is taken from a metric line. -/
def StepRun.States (r : StepRun) (l : MetricLine) : Prop :=
  (Text.lines r.stdout.toList).reverse.findSome? (@Measurement.ofJsonLine? ℚ _) = none ∧
    (Text.lines r.stdout.toList).reverse.findSome? MetricLine.read? = some l

theorem StepRun.States.ofStepRun {r : StepRun} {l : MetricLine} (h : r.States l) :
    (Measurement.ofStepRun r : Measurement ℚ) = .ofMetricLine l := by
  rw [Measurement.ofStepRun, h.1, h.2]

namespace Acceptance

open Quantity Comparison

/-- Two runs that pass apart from their benchmarks. These are stated under one name and in units of
time, and the earlier one is positive. -/
structure Timed (baseline : PipelineRun ℚ) (candidate : CandidateRun ℚ)
    (before after : MetricLine) (u w : ℚ) : Prop where
  passes : Passes baseline candidate
  baseline_states : ∃ r, baseline.measurement = some (.ofStepRun r) ∧ r.States before
  candidate_states : ∃ r, candidate.measurement = some (.ofStepRun r) ∧ r.States after
  name_eq : before.name = after.name
  unit_before : MetricLine.nanoseconds? before.unit = some u
  unit_after : MetricLine.nanoseconds? after.unit = some w
  positive : 0 < before.number.value

/-- The second of two times is longer than the first by more than is tolerated. -/
def Slower (tolerance s t : ℚ) : Prop := s * (1 + tolerance) < t

instance (tolerance s t : ℚ) : Decidable (Slower tolerance s t) :=
  inferInstanceAs (Decidable (s * (1 + tolerance) < t))

section

variable {baseline : PipelineRun ℚ} {candidate : CandidateRun ℚ} {before after : MetricLine}
  {u w : ℚ}

/-- The numbers are compared as they stand, whatever their units are. -/
theorem Timed.compared (h : Timed baseline candidate before after u w) :
    ∃ c, comparison? baseline candidate = some c ∧ c.before = before.number.value ∧
      c.after = after.number.value ∧
      c.improvement = (before.number.value - after.number.value) / before.number.value := by
  obtain ⟨r, hr, hstates⟩ := h.baseline_states
  obtain ⟨r', hr', hstates'⟩ := h.candidate_states
  obtain ⟨-, hdirection⟩ := MetricLine.of_nanoseconds? h.unit_before
  obtain ⟨-, hdirection'⟩ := MetricLine.of_nanoseconds? h.unit_after
  have hbefore : Measurement.ofMetricLine before =
      ⟨String.ofList before.name, before.number.value, some before.unit, true⟩ := by
    rw [Measurement.ofMetricLine, hdirection]
    rfl
  have hafter : Measurement.ofMetricLine after =
      ⟨String.ofList after.name, after.number.value, some after.unit, true⟩ := by
    rw [Measurement.ofMetricLine, hdirection']
    rfl
  have hcomparable : (between? (Measurement.ofMetricLine before : Measurement ℚ)
      (.ofMetricLine after)).isSome = true := by
    rw [between?_isSome_iff, hbefore, hafter, h.name_eq]
    exact ⟨rfl, rfl⟩
  obtain ⟨c, hc⟩ := Option.isSome_iff_exists.mp hcomparable
  have ht := tells_of_between? hc
  rw [hbefore, hafter] at ht
  refine ⟨c, ?_, ht.before_eq, ht.after_eq, ?_⟩
  · refine comparison?_eq_some_iff.mpr ⟨_, _, hr, hr', ?_⟩
    rw [hstates.ofStepRun, hstates'.ofStepRun]
    exact hc
  · rw [ht.improvement_eq, relativeChange_of_ne h.positive.ne', abs_of_pos h.positive]
    rfl

theorem Timed.accepted_iff (h : Timed baseline candidate before after u w)
    {policy : AcceptancePolicy ℚ} {opportunity : Opportunity} :
    (evaluate policy opportunity baseline candidate).accepted = true ↔
      ¬Slower policy.regressionTolerance before.number.value after.number.value := by
  obtain ⟨c, hc, -, -, himprovement⟩ := h.compared
  have hregressed : regressed policy c = true ↔
      Slower policy.regressionTolerance before.number.value after.number.value := by
    rw [regressed_exact, himprovement, div_lt_iff₀ h.positive, Slower]
    constructor <;> intro hlt <;> linarith
  rw [Acceptance.accepted_iff, and_iff_right h.passes, ← hregressed, Bool.not_eq_true]
  constructor
  · intro hall
    exact hall c hc
  · rintro hnot d hd
    cases hc.symm.trans hd
    exact hnot

/-- The bare numbers decide. A candidate that is slower by more than is tolerated is turned down if
its unit is no longer than the baseline's, and with a longer unit the same number is kept although
it is slower. -/
theorem accepted_by_bare_numbers (policy : AcceptancePolicy ℚ) (opportunity : Opportunity)
    (h : Timed baseline candidate before after u w) (htol : 0 ≤ policy.regressionTolerance)
    (htol' : policy.regressionTolerance < 1) :
    let v := evaluate policy opportunity baseline candidate
    let tolerance := policy.regressionTolerance
    let x := before.number.value
    let y := after.number.value
    (∃ c, v.benchmark = some c ∧ c.before = x ∧ c.after = y) ∧
      (v.accepted = true ↔ ¬Slower tolerance x y) ∧
      (w ≤ u → Slower tolerance (x * u) (y * w) → v.accepted = false) ∧
      (u < w → y = x → v.accepted = true ∧ Slower tolerance (x * u) (y * w)) := by
  intro v tolerance x y
  have hx : 0 < x := h.positive
  obtain ⟨c, hc, hbefore, hafter, -⟩ := h.compared
  refine ⟨⟨c, ?_, hbefore, hafter⟩, h.accepted_iff, fun hunits hslower => ?_,
    fun hunits hsame => ?_⟩
  · exact (benchmark_of_not_rejected h.passes.not_rejected).trans hc
  · rw [← Bool.not_eq_true, h.accepted_iff, not_not]
    obtain ⟨hw, -⟩ := MetricLine.of_nanoseconds? h.unit_after
    have hx' : 0 ≤ x * (1 + tolerance) := mul_nonneg hx.le (by linarith)
    refine lt_of_mul_lt_mul_right ?_ hw.le
    calc x * (1 + tolerance) * w ≤ x * (1 + tolerance) * u := mul_le_mul_of_nonneg_left hunits hx'
      _ = x * u * (1 + tolerance) := by ring
      _ < y * w := hslower
  · have htwice := MetricLine.two_mul_le_of_nanoseconds? h.unit_before h.unit_after hunits
    obtain ⟨hu, -⟩ := MetricLine.of_nanoseconds? h.unit_before
    refine ⟨h.accepted_iff.mpr (not_lt.mpr ?_), ?_⟩
    · calc after.number.value = x := hsame
        _ ≤ x * (1 + tolerance) := le_mul_of_one_le_right hx.le (by linarith)
    · rw [hsame]
      calc x * u * (1 + tolerance) < x * u * 2 := by gcongr; linarith
        _ = x * (2 * u) := by ring
        _ ≤ x * w := mul_le_mul_of_nonneg_left htwice hx.le

end

/-- The run of a bench step that prints a text. -/
def benchRun (stdout : String) : PipelineRun ℚ :=
  let r : StepRun := ⟨"bench", "make bench", 0, 0, stdout, "", false⟩
  .ofSteps [r] (some (.ofStepRun r))

/-- From 900 microseconds to one millisecond. -/
theorem timed_latency :
    Timed (benchRun "latency: 900 us\n") (.ofRun "a" (benchRun "latency: 1 ms\n"))
      ⟨"latency".toList, ⟨false, 900, 0⟩, "us"⟩ ⟨"latency".toList, ⟨false, 1, 0⟩, "ms"⟩
      (10 ^ 3) (10 ^ 6) where
  passes := passes_iff.mpr ⟨rfl, rfl⟩
  baseline_states := ⟨_, rfl, by decide +kernel, by decide +kernel⟩
  candidate_states := ⟨_, rfl, by decide +kernel, by decide +kernel⟩
  name_eq := rfl
  unit_before := rfl
  unit_after := rfl
  positive := by decide +kernel

/-- With two percent tolerated, a candidate that takes one millisecond in the place of 900
microseconds is kept. -/
theorem accepted_by_bare_numbers_millisecond :
    let policy : AcceptancePolicy ℚ := ⟨1 / 50, 1 / 10, 3 / 100⟩
    let v := evaluate policy { id := "a" } (benchRun "latency: 900 us\n")
      (.ofRun "a" (benchRun "latency: 1 ms\n"))
    0 ≤ policy.regressionTolerance ∧ policy.regressionTolerance < 1 ∧ v.accepted = true ∧
      Slower policy.regressionTolerance (900 * 10 ^ 3) (1 * 10 ^ 6) := by
  intro policy v
  have htol : 0 ≤ policy.regressionTolerance := by decide +kernel
  have htol' : policy.regressionTolerance < 1 := by decide +kernel
  obtain ⟨-, hiff, -⟩ := accepted_by_bare_numbers policy { id := "a" } timed_latency htol htol'
  exact ⟨htol, htol', hiff.mpr (by decide +kernel), by decide +kernel⟩

/-- A slower candidate can be kept because of its unit. -/
theorem not_slower_turned_down :
    ¬∀ (policy : AcceptancePolicy ℚ) (opportunity : Opportunity) (baseline : PipelineRun ℚ)
      (candidate : CandidateRun ℚ) (before after : MetricLine) (u w : ℚ),
      Timed baseline candidate before after u w → 0 ≤ policy.regressionTolerance →
      policy.regressionTolerance < 1 →
      Slower policy.regressionTolerance (before.number.value * u) (after.number.value * w) →
      (evaluate policy opportunity baseline candidate).accepted = false := by
  intro hall
  have hnot := hall ⟨1 / 50, 1 / 10, 3 / 100⟩ { id := "a" } _ _ _ _ _ _ timed_latency
    (by decide +kernel) (by decide +kernel) (by decide +kernel)
  have hkept : (evaluate (⟨1 / 50, 1 / 10, 3 / 100⟩ : AcceptancePolicy ℚ) { id := "a" }
      (benchRun "latency: 900 us\n")
      (.ofRun "a" (benchRun "latency: 1 ms\n"))).accepted = true := by decide +kernel
  cases hnot.symm.trans hkept

end Acceptance

end PatchTrial
