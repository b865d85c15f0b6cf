import PatchTrial.Acceptance
import PatchTrial.Proofs.FailFast

/-!
# Which candidates are kept

The rule for keeping a candidate, told of the steps and benchmarks of the two runs: nothing that
passed before is lost, and no benchmark got worse than is tolerated. The confidence in a kept
candidate depends on the improvement and on how many steps of the pipeline passed.

Main statement: `evaluate_follows_rule`.
-/
namespace PatchTrial

namespace StepRun

/-- `r` is the first of `runs` that is filed under the name of `s`. -/
def IsFirst (s : Step) (runs : List StepRun) (r : StepRun) : Prop :=
  ∃ before after, runs = before ++ r :: after ∧ r.step = s.name ∧ ∀ x ∈ before, x.step ≠ s.name

theorem find?_eq_some_iff_isFirst {s : Step} {runs : List StepRun} {r : StepRun} :
    runs.find? (·.step = s.name) = some r ↔ IsFirst s runs r := by
  rw [List.find?_eq_some_iff_append]
  constructor
  · rintro ⟨hr, before, after, hruns, hbefore⟩
    exact ⟨before, after, hruns, by simpa using hr, fun x hx => by simpa using hbefore x hx⟩
  · rintro ⟨before, after, hruns, hr, hbefore⟩
    exact ⟨by simpa using hr, before, after, hruns, fun x hx => by simpa using hbefore x hx⟩

end StepRun

namespace Acceptance

open Quantity

variable {α : Type}

/-! ### The rule -/

/-- A step that passed in the baseline passed in the candidate's run. The first entry of the step
counts. -/
def PassesAgain (baseline : PipelineRun α) (candidate : CandidateRun α) (s : Step) : Prop :=
  ∀ r, StepRun.IsFirst s baseline.steps r → r.exitCode = 0 →
    ∃ r', StepRun.IsFirst s candidate.steps r' ∧ r'.exitCode = 0

/-- The number of entries for steps of the pipeline that passed. -/
def passedCount (candidate : CandidateRun α) : Nat :=
  candidate.steps.countP fun r => r.exitCode = 0 ∧ ∃ s ∈ Step.all, r.step = s.name

/-- `x` is the improvement from one value to another: their difference as a part of the size of the
first. From zero, no difference is no improvement and any other is a whole one. Where less is
better, an improvement is what makes the value smaller. -/
def Improves [Quantity α] (lowerIsBetter : Bool) (before after x : α) : Prop :=
  ∃ relative,
    (isZero before = false → relative = div (sub after before) (abs before)) ∧
    (isZero before = true → isZero (sub after before) = true → relative = zero) ∧
    (isZero before = true → isZero (sub after before) = false →
      relative = signum (sub after before)) ∧
    (lowerIsBetter = true → x = neg relative) ∧ (lowerIsBetter = false → x = relative)

section Rule

variable [Quantity α] (policy : AcceptancePolicy α) (baseline : PipelineRun α)
  (candidate : CandidateRun α)

/-- Both runs have a benchmark, of the same metric and direction and with finite values, and `x` is
the improvement from one to the other. -/
def ImprovedBy (x : α) : Prop :=
  ∃ before after, baseline.measurement = some before ∧ candidate.measurement = some after ∧
    before.metric = after.metric ∧ before.lowerIsBetter = after.lowerIsBetter ∧
    isFinite before.value = true ∧ isFinite after.value = true ∧
    Improves before.lowerIsBetter before.value after.value x

/-- What a candidate must meet to be kept. -/
structure Meets : Prop where
  not_rejected : candidate.rejection = none
  succeeded : candidate.succeeded = true
  passes_again : ∀ s ∈ [Step.build, .typecheck, .test, .bench], PassesAgain baseline candidate s
  not_regressed : ∀ x, ImprovedBy baseline candidate x →
    lt x (neg policy.regressionTolerance) = false

/-- What a kept candidate earns high confidence by. -/
def EarnsHigh : Prop :=
  ∃ x, ImprovedBy baseline candidate x ∧ le policy.highImprovement x = true ∧
    3 ≤ passedCount candidate

/-- What a kept candidate earns at least medium confidence by. -/
def EarnsMedium : Prop :=
  (∃ x, ImprovedBy baseline candidate x ∧ le policy.mediumImprovement x = true ∧
    2 ≤ passedCount candidate) ∨
  (∀ x, ¬ImprovedBy baseline candidate x) ∧ 3 ≤ passedCount candidate ∧
    ∃ r ∈ candidate.steps, r.exitCode = 0 ∧ r.step = Step.test.name

end Rule

/-! ### Steps -/

section Steps

variable {baseline : PipelineRun α} {candidate : CandidateRun α}

theorem stepFault?_eq_none_iff {s : Step} :
    stepFault? baseline candidate s = none ↔ PassesAgain baseline candidate s := by
  have hcandidate (r : StepRun) :
      candidate.step? s = some r ↔ StepRun.IsFirst s candidate.steps r :=
    StepRun.find?_eq_some_iff_isFirst
  have hpassed : (baseline.step? s).any (·.passed) = true ↔
      ∃ r, StepRun.IsFirst s baseline.steps r ∧ r.exitCode = 0 := by
    rw [Option.any_eq_true]
    exact exists_congr fun r =>
      and_congr StepRun.find?_eq_some_iff_isFirst (Pipeline.passed_iff r)
  unfold stepFault?
  split
  next h =>
    obtain ⟨before, hbefore, hzero⟩ := hpassed.mp h
    have hiff : PassesAgain baseline candidate s ↔
        ∃ r', candidate.step? s = some r' ∧ r'.passed = true := by
      simp only [hcandidate, Pipeline.passed_iff]
      exact ⟨fun hagain => hagain before hbefore hzero, fun hagain _ _ _ => hagain⟩
    rw [hiff]
    cases candidate.step? s with
    | none => simp
    | some r =>
      dsimp only
      split
      next hr => simpa using hr
      next hr => split <;> simpa using hr
  next h =>
    exact iff_of_true rfl fun r hr hzero => absurd (hpassed.mpr ⟨r, hr, hzero⟩) h

theorem stepFaults_eq_nil_iff :
    stepFaults baseline candidate = [] ↔
      ∀ s ∈ [Step.build, .typecheck, .test, .bench], PassesAgain baseline candidate s := by
  rw [stepFaults, List.filterMap_eq_nil_iff]
  exact forall₂_congr fun s _ => stepFault?_eq_none_iff

theorem length_validated : (validated candidate).length = passedCount candidate := by
  rw [validated, List.filterMap_filter, List.length_filterMap_eq_countP, passedCount]
  refine List.countP_congr fun r _ => ?_
  rw [decide_eq_true_eq, ← Pipeline.passed_iff, Option.isSome_iff_exists]
  have hname : (∃ s ∈ Step.all, r.step = s.name) ↔ ∃ s, r.pipelineStep? = some s := by
    simp only [StepRun.pipelineStep?_eq_some_iff, Step.mem_all, true_and]
  rw [hname]
  split
  next hr => simp [hr]
  next hr => simp [hr]

theorem contains_test_validated :
    (validated candidate).contains .test = true ↔
      ∃ r ∈ candidate.steps, r.exitCode = 0 ∧ r.step = Step.test.name := by
  rw [List.contains_iff_mem, validated, List.mem_filterMap]
  refine exists_congr fun r => ?_
  rw [List.mem_filter, Pipeline.passed_iff, StepRun.pipelineStep?_eq_some_iff, and_assoc]

end Steps

/-! ### Benchmarks -/

section Benchmarks

variable [Quantity α] {policy : AcceptancePolicy α} {baseline : PipelineRun α}
  {candidate : CandidateRun α}

theorem improves_iff {lowerIsBetter : Bool} {before after x : α} :
    Improves lowerIsBetter before after x ↔ x = Comparison.improvementOf lowerIsBetter
      (Comparison.relativeChange before (sub after before)) := by
  unfold Improves Comparison.improvementOf Comparison.relativeChange
  cases isZero before <;> cases isZero (sub after before) <;> cases lowerIsBetter <;> simp

theorem improvedBy_iff {x : α} :
    ImprovedBy baseline candidate x ↔
      ∃ c, comparison? baseline candidate = some c ∧ c.improvement = x := by
  simp only [comparison?, Option.bind_eq_bind, Option.bind_eq_some_iff, ImprovedBy, improves_iff]
  constructor
  · rintro ⟨before, after, hbefore, hafter, hmetric, hdirection, hfinite, hfinite', rfl⟩
    have hcomparable : Comparison.comparable before after = true := by
      simp [Comparison.comparable, hmetric, hdirection, hfinite, hfinite']
    refine ⟨_, ⟨before, hbefore, after, hafter, if_pos hcomparable⟩, rfl⟩
  · rintro ⟨c, ⟨before, hbefore, after, hafter, hc⟩, rfl⟩
    unfold Comparison.between? at hc
    split at hc
    next hcomparable =>
      cases hc
      simp only [Comparison.comparable, Bool.and_eq_true, decide_eq_true_eq, beq_iff_eq]
        at hcomparable
      obtain ⟨⟨⟨hmetric, hdirection⟩, hfinite⟩, hfinite'⟩ := hcomparable
      exact ⟨before, after, hbefore, hafter, hmetric, hdirection, hfinite, hfinite', rfl⟩
    next => cases hc

/-- The grade is the highest confidence that is earned. -/
theorem grade_cases (policy : AcceptancePolicy α) (baseline : PipelineRun α)
    (candidate : CandidateRun α) :
    let g := grade policy (comparison? baseline candidate) (validated candidate)
    let high := EarnsHigh policy baseline candidate
    let medium := EarnsMedium policy baseline candidate
    g = .high ∧ high ∨ g = .medium ∧ ¬high ∧ medium ∨ g = .low ∧ ¬high ∧ ¬medium := by
  dsimp only
  unfold EarnsHigh EarnsMedium
  simp only [improvedBy_iff, ← length_validated, ← contains_test_validated]
  cases comparison? baseline candidate with
  | none =>
    simp only [grade]
    split
    next h => exact Or.inr (Or.inl ⟨rfl, by simp, by simpa using h⟩)
    next h => exact Or.inr (Or.inr ⟨rfl, by simp, by simpa using h⟩)
  | some c =>
    simp only [grade, Option.some.injEq]
    split
    next hhigh => exact Or.inl ⟨rfl, by simpa using hhigh⟩
    next hhigh =>
    split
    next hmedium =>
      exact Or.inr (Or.inl ⟨rfl, by simpa using hhigh, Or.inl (by simpa using hmedium)⟩)
    next hmedium =>
      exact Or.inr (Or.inr ⟨rfl, by simpa using hhigh, by simpa using hmedium⟩)

/-! ### Verdicts -/

/-- A candidate is turned away for some reason, with low confidence, or it meets the rule and is
kept with its grade. -/
theorem evaluate_cases (policy : AcceptancePolicy α) (opportunity : Opportunity)
    (baseline : PipelineRun α) (candidate : CandidateRun α) :
    let v := evaluate policy opportunity baseline candidate
    v.accepted = false ∧ v.confidence = .low ∧ v.reasons ≠ [] ∧
        ¬Meets policy baseline candidate ∨
      v.accepted = true ∧ Meets policy baseline candidate ∧
        v.confidence = grade policy (comparison? baseline candidate) (validated candidate) := by
  dsimp only
  unfold evaluate
  split
  next r hr =>
    refine Or.inl ⟨rfl, rfl, List.cons_ne_nil _ _, fun hmeets => ?_⟩
    cases hr.symm.trans hmeets.not_rejected
  next hr =>
  dsimp only
  split
  next hfaults =>
    have hne : faults baseline candidate ≠ [] := by simpa using hfaults
    refine Or.inl ⟨rfl, rfl, List.append_ne_nil_of_left_ne_nil hne _, fun hmeets => hne ?_⟩
    exact faults_eq_nil_iff.mpr ⟨stepFaults_eq_nil_iff.mpr hmeets.passes_again, hmeets.succeeded⟩
  next hfaults =>
  have hnil : faults baseline candidate = [] := by simpa using hfaults
  obtain ⟨hsteps, hsucceeded⟩ := faults_eq_nil_iff.mp hnil
  split
  next c hc =>
    obtain ⟨hcompared, hregressed⟩ := Option.filter_eq_some_iff.mp hc
    refine Or.inl ⟨rfl, rfl, List.append_ne_nil_of_right_ne_nil _ (List.cons_ne_nil _ _),
      fun hmeets => ?_⟩
    have hnot := hmeets.not_regressed _ (improvedBy_iff.mpr ⟨c, hcompared, rfl⟩)
    cases hnot.symm.trans hregressed
  next hc =>
    refine Or.inr ⟨rfl, ⟨hr, hsucceeded, stepFaults_eq_nil_iff.mp hsteps, fun x hx => ?_⟩, rfl⟩
    obtain ⟨c, hcompared, rfl⟩ := improvedBy_iff.mp hx
    rw [Option.filter_eq_none_iff] at hc
    exact Bool.eq_false_iff.mpr (hc c hcompared)

/-- A candidate is kept exactly if it meets the rule. One that is turned away gets low confidence
and a reason; one that is kept gets the highest confidence that it earns. -/
theorem evaluate_follows_rule (policy : AcceptancePolicy α) (opportunity : Opportunity)
    (baseline : PipelineRun α) (candidate : CandidateRun α) :
    let v := evaluate policy opportunity baseline candidate
    (v.accepted = true ↔ Meets policy baseline candidate) ∧
      (v.accepted = false → v.confidence = .low ∧ v.reasons ≠ []) ∧
      (v.accepted = true →
        (v.confidence = .high ↔ EarnsHigh policy baseline candidate) ∧
        (v.confidence = .medium ↔
          ¬EarnsHigh policy baseline candidate ∧ EarnsMedium policy baseline candidate) ∧
        (v.confidence = .low ↔
          ¬EarnsHigh policy baseline candidate ∧ ¬EarnsMedium policy baseline candidate)) := by
  intro v
  rcases evaluate_cases policy opportunity baseline candidate with
    ⟨hacc, hlow, hreasons, hmeets⟩ | ⟨hacc, hmeets, hgrade⟩
  · have hacc : v.accepted = false := hacc
    refine ⟨?_, fun _ => ⟨hlow, hreasons⟩, fun h => ?_⟩
    · rw [hacc]
      exact iff_of_false Bool.false_ne_true hmeets
    · cases hacc.symm.trans h
  · have hacc : v.accepted = true := hacc
    have hgrade : v.confidence = _ := hgrade
    refine ⟨iff_of_true hacc hmeets, fun h => ?_, fun _ => ?_⟩
    · cases hacc.symm.trans h
    rw [hgrade]
    rcases grade_cases policy baseline candidate with
      ⟨hg, hhigh⟩ | ⟨hg, hhigh, hmedium⟩ | ⟨hg, hhigh, hmedium⟩ <;> rw [hg]
    · simp [hhigh]
    · simp [hhigh, hmedium]
    · simp [hhigh, hmedium]

/-- A benchmark that gets a quarter better earns high confidence. One that was nothing before and is
slower now is a whole regression, and no benchmark makes up for a test that fails. -/
theorem evaluate_follows_rule_latency :
    let run (value : Float) (exitCode : Int32) : PipelineRun Float :=
      .ofSteps [⟨"build", "make", 0, 9, "", "", false⟩,
        ⟨"test", "make test", exitCode, 9, "", "", false⟩,
        ⟨"bench", "make bench", 0, 9, "", "", false⟩] (some ⟨"latency", value, none, true⟩)
    let policy : AcceptancePolicy Float := ⟨0.02, 0.1, 0.03⟩
    let judge (before after : Float) (exitCode : Int32) : Verdict Float :=
      evaluate policy { id := "a" } (run before 0) (.ofRun "a" (run after exitCode))
    (Meets policy (run 200 0) (.ofRun "a" (run 150 0)) ∧
        ImprovedBy (run 200 0) (.ofRun "a" (run 150 0)) 0.25 ∧
        (judge 200 150 0).accepted = true ∧ (judge 200 150 0).confidence = .high) ∧
      (ImprovedBy (run 0 0) (.ofRun "a" (run 5 0)) (-1) ∧
        (judge 0 5 0).accepted = false ∧ (judge 0 5 0).confidence = .low ∧
        (judge 0 5 0).reasons ≠ []) ∧
      (judge 200 150 1).accepted = false ∧ (judge 200 150 1).reasons ≠ [] := by
  intro run policy judge
  have hrule (before after : Float) (exitCode : Int32) := evaluate_follows_rule policy
    { id := "a" } (run before 0) (.ofRun "a" (run after exitCode))
  have himproved : ImprovedBy (run 200 0) (.ofRun "a" (run 150 0)) 0.25 :=
    ⟨_, _, rfl, rfl, rfl, rfl, by decide +kernel, by decide +kernel,
      improves_iff.mpr (by decide +kernel)⟩
  have hworse : ImprovedBy (run 0 0) (.ofRun "a" (run 5 0)) (-1) :=
    ⟨_, _, rfl, rfl, rfl, rfl, by decide +kernel, by decide +kernel,
      improves_iff.mpr (by decide +kernel)⟩
  have hkept : (judge 200 150 0).accepted = true := by decide +kernel
  have hlost : (judge 0 5 0).accepted = false := by
    refine Bool.eq_false_iff.mpr fun hacc => ?_
    have hmeets := (hrule 0 5 0).1.mp hacc
    exact absurd (hmeets.not_regressed _ hworse) (by decide +kernel)
  have hfailed : (judge 200 150 1).accepted = false := by decide +kernel
  refine ⟨⟨(hrule 200 150 0).1.mp hkept, himproved, hkept, ?_⟩, ⟨hworse, hlost, ?_⟩, hfailed,
    ((hrule 200 150 1).2.1 hfailed).2⟩
  · exact ((hrule 200 150 0).2.2 hkept).1.mpr ⟨0.25, himproved, by decide +kernel, by decide⟩
  · exact (hrule 0 5 0).2.1 hlost

end Benchmarks

end Acceptance

end PatchTrial
