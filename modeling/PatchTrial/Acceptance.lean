import PatchTrial.Benchmark.Comparison
import PatchTrial.PipelineRun

/-!
Whether a candidate is kept.

A candidate is kept if it was not rejected, every step that passed in the baseline passes again,
its run succeeded, and the benchmark, where both runs have a comparable one, has not regressed
beyond the tolerance. What is kept is graded by the improvement and by how many steps passed.
-/
namespace PatchTrial

inductive Confidence where
  | low
  | medium
  | high
  deriving DecidableEq, Repr

namespace Confidence

def name : Confidence → String
  | .low => "low"
  | .medium => "medium"
  | .high => "high"

/-- The name with a capital, as events show it. -/
def title : Confidence → String
  | .low => "Low"
  | .medium => "Medium"
  | .high => "High"

/-- The rank among the grades. -/
def rank : Confidence → Nat
  | .low => 0
  | .medium => 1
  | .high => 2

def ofJson? : Json → Option Confidence :=
  Json.name? fun s => [low, medium, high].find? (·.name = s)

def toJson (c : Confidence) : Json := .string c.name

end Confidence

/-- The decision on a candidate, with its reasons in the order they were found. -/
structure Verdict (α : Type) where
  accepted : Bool
  confidence : Confidence
  riskScore : Float32
  reasons : List String
  benchmark : Option (Comparison α)
  deriving BEq

structure AcceptancePolicy (α : Type) where
  /-- The largest relative regression that is tolerated. -/
  regressionTolerance : α
  /-- The improvement that high confidence asks for. -/
  highImprovement : α
  /-- The improvement that medium confidence asks for. -/
  mediumImprovement : α
  deriving BEq

namespace Acceptance

variable {α : Type} [Quantity α]

open Quantity

/-- What is wrong with a step that passed in the baseline, if anything is. -/
def stepFault? (baseline : PipelineRun α) (candidate : CandidateRun α) (s : Step) :
    Option String :=
  if (baseline.step? s).any (·.passed) then
    match candidate.step? s with
    | none => some s!"{s.name} was not reached after the patch"
    | some r =>
      if r.passed then none
      else if r.timedOut then some s!"{s.name} timed out after the patch"
      else some s!"{s.name} failed after the patch (exit code {r.exitCode.toInt})"
  else none

/-- The faults of all steps that are run again, in order. -/
def stepFaults (baseline : PipelineRun α) (candidate : CandidateRun α) : List String :=
  Step.revalidated.filterMap (stepFault? baseline candidate)

/-- The faults of the steps or, if there are none, of the run as a whole. -/
def faults (baseline : PipelineRun α) (candidate : CandidateRun α) : List String :=
  let found := stepFaults baseline candidate
  if found.isEmpty && !candidate.succeeded then
    [candidate.error.getD "candidate run did not succeed"]
  else found

/-- The comparison of the benchmarks, if both runs have one and they are comparable. -/
def comparison? (baseline : PipelineRun α) (candidate : CandidateRun α) :
    Option (Comparison α) := do
  Comparison.between? (← baseline.measurement) (← candidate.measurement)

/-- The remark on benchmarks that are there but cannot be compared. -/
def comparisonRemark (baseline : PipelineRun α) (candidate : CandidateRun α) : List String :=
  match baseline.measurement, candidate.measurement with
  | some before, some after =>
    if (Comparison.between? before after).isNone then
      [s!"benchmarks not comparable ({before.metric} vs {after.metric})"]
    else []
  | _, _ => []

/-- Whether a benchmark regressed beyond the tolerance. -/
def regressed (policy : AcceptancePolicy α) (c : Comparison α) : Bool :=
  lt c.improvement (neg policy.regressionTolerance)

def regressionText (policy : AcceptancePolicy α) (c : Comparison α) : String :=
  let amount := oneDigit (hundredfold (neg c.improvement))
  let tolerance := oneDigit (hundredfold policy.regressionTolerance)
  s!"{c.metric} regressed by {amount}% (tolerance {tolerance}%)"

def improvementText (c : Comparison α) : String :=
  let change := signedOneDigit (hundredfold c.improvement)
  s!"{c.metric}: {text c.before} -> {text c.after} ({change}% improvement)"

/-- The steps of the pipeline that passed in a candidate's run. -/
def validated (candidate : CandidateRun α) : List Step :=
  (candidate.steps.filter (·.passed)).filterMap (·.pipelineStep?)

def grade (policy : AcceptancePolicy α) (benchmark : Option (Comparison α))
    (validated : List Step) : Confidence :=
  match benchmark with
  | some c =>
    if le policy.highImprovement c.improvement && 3 ≤ validated.length then .high
    else if le policy.mediumImprovement c.improvement && 2 ≤ validated.length then .medium
    else .low
  | none => if 3 ≤ validated.length && validated.contains .test then .medium else .low

/-- Judge a candidate against the baseline it was validated on. -/
def evaluate (policy : AcceptancePolicy α) (opportunity : Opportunity)
    (baseline : PipelineRun α) (candidate : CandidateRun α) : Verdict α :=
  let turnedDown (reasons : List String) (benchmark : Option (Comparison α)) : Verdict α :=
    ⟨false, .low, opportunity.effectiveRisk, reasons, benchmark⟩
  match candidate.rejection with
  | some r => turnedDown [s!"rejected before execution: {r.message}"] none
  | none =>
    let faults := faults baseline candidate
    let benchmark := comparison? baseline candidate
    let reasons := faults ++ comparisonRemark baseline candidate
    if !faults.isEmpty then turnedDown reasons benchmark
    else
      match benchmark.filter (regressed policy) with
      | some c => turnedDown (reasons ++ [regressionText policy c]) benchmark
      | none =>
        let steps := validated candidate
        { accepted := true
          confidence := grade policy benchmark steps
          riskScore := opportunity.effectiveRisk
          reasons := reasons ++ (benchmark.map improvementText).toList ++
            [s!"{steps.length} steps re-validated"]
          benchmark := benchmark }

end Acceptance

namespace Acceptance

variable {α : Type}

theorem faults_eq_nil_iff {baseline : PipelineRun α} {candidate : CandidateRun α} :
    faults baseline candidate = [] ↔
      stepFaults baseline candidate = [] ∧ candidate.succeeded = true := by
  unfold faults
  dsimp only
  cases stepFaults baseline candidate with
  | nil => cases candidate.succeeded <;> simp
  | cons fault rest => simp

/-- What a verdict to accept says of the candidate's run. -/
theorem of_accepted [Quantity α] {policy : AcceptancePolicy α} {opportunity : Opportunity}
    {baseline : PipelineRun α} {candidate : CandidateRun α}
    (h : (evaluate policy opportunity baseline candidate).accepted = true) :
    candidate.rejection = none ∧ faults baseline candidate = [] ∧
      ∀ c, comparison? baseline candidate = some c → regressed policy c = false := by
  unfold evaluate at h
  dsimp only at h
  split at h
  · cases h
  next hr =>
  split at h
  · cases h
  next hf =>
  split at h
  · cases h
  next hc =>
  refine ⟨hr, by simpa using hf, ?_⟩
  intro c hcmp
  rw [hcmp, Option.filter_eq_none_iff] at hc
  exact Bool.eq_false_iff.mpr (hc c rfl)

end Acceptance

namespace AcceptancePolicy

/-- A regression of 2 % is tolerated; 3 % and 10 % improvement earn medium and high confidence. -/
def standard : AcceptancePolicy Float := ⟨0.02, 0.10, 0.03⟩

instance : Inhabited (AcceptancePolicy Float) := ⟨standard⟩

def ofJson? (j : Json) : Option (AcceptancePolicy Float) := do
  let r ← j.record? ["regression_tolerance", "high_improvement", "medium_improvement"]
  return {
    regressionTolerance :=
      ← r.withDefault "regression_tolerance" Json.float? standard.regressionTolerance
    highImprovement := ← r.withDefault "high_improvement" Json.float? standard.highImprovement
    mediumImprovement :=
      ← r.withDefault "medium_improvement" Json.float? standard.mediumImprovement }

def toJson (p : AcceptancePolicy Float) : Json :=
  .object [("regression_tolerance", Json.double p.regressionTolerance),
    ("high_improvement", Json.double p.highImprovement),
    ("medium_improvement", Json.double p.mediumImprovement)]

end AcceptancePolicy

namespace Verdict

def ofJson? (j : Json) : Option (Verdict Float) := do
  let r ← j.record? ["accepted", "confidence", "risk_score", "reasons", "benchmark"]
  return {
    accepted := ← r.required "accepted" Json.bool?
    confidence := ← r.required "confidence" Confidence.ofJson?
    riskScore := ← r.required "risk_score" Json.float32?
    reasons := ← r.required "reasons" (Json.list? Json.string?)
    benchmark := ← r.optional "benchmark" Comparison.ofJson? }

def toJson (v : Verdict Float) : Json :=
  .object [("accepted", .bool v.accepted), ("confidence", v.confidence.toJson),
    ("risk_score", Json.single v.riskScore), ("reasons", Json.strings v.reasons),
    ("benchmark", Json.orNull Comparison.toJson v.benchmark)]

end Verdict

end PatchTrial
