import PatchTrial.Failure.Classify
import PatchTrial.Host
import PatchTrial.Remedy.Ecosystem

/-!
Establishing a baseline.

The steps are run until they pass or there is nothing new to try. Each attempt has a plan: the
first is the strict plan of the detection, each later one answers the failure before it. The
outcome lists the plans that were run and the failures that they met.
-/
namespace PatchTrial

/-- Why no further attempt was made. -/
inductive StopReason where
  | succeeded
  | singleAttempt
  | noRemediation
  | attemptsExhausted
  | cancelled
  deriving DecidableEq, Repr

namespace StopReason

def name : StopReason → String
  | .succeeded => "succeeded"
  | .singleAttempt => "single_attempt"
  | .noRemediation => "no_remediation"
  | .attemptsExhausted => "attempts_exhausted"
  | .cancelled => "cancelled"

def all : List StopReason :=
  [.succeeded, .singleAttempt, .noRemediation, .attemptsExhausted, .cancelled]

def ofJson? : Json → Option StopReason := Json.name? fun s => all.find? (·.name = s)

def toJson (r : StopReason) : Json := .string r.name

end StopReason

structure Baseline where
  /-- The run of the last attempt. -/
  run : PipelineRun Float
  plans : List Plan
  failures : List Failure
  stopReason : StopReason
  deriving BEq

namespace Baseline

/-- The plan of the last attempt. -/
def finalPlan? (b : Baseline) : Option Plan := b.plans.getLast?

/-- The outcome with one more attempt before it, which failed. -/
def afterFailure (plan : Plan) (failure : Failure) (b : Baseline) : Baseline :=
  { b with plans := plan :: b.plans, failures := failure :: b.failures }

def ofJson? (j : Json) : Option Baseline := do
  let r ← j.record? ["baseline", "plans", "failures", "stop_reason"]
  return {
    run := ← r.required "baseline" PipelineRun.ofJson?
    plans := ← r.required "plans" (Json.list? Plan.ofJson?)
    failures := ← r.required "failures" (Json.list? Failure.ofJson?)
    stopReason := ← r.required "stop_reason" StopReason.ofJson? }

def toJson (b : Baseline) : Json :=
  .object [("baseline", b.run.toJson), ("plans", .array (b.plans.map Plan.toJson)),
    ("failures", .array (b.failures.map Failure.toJson)), ("stop_reason", b.stopReason.toJson)]

variable {σ : Type}

/-- One attempt, with the events at its start and its end. -/
def attempt (x : Executor σ) (excerpt : Nat) (plan : Plan) (s : σ) :
    Course σ (PipelineRun Float) :=
  let c := (x.run plan Step.all false s).since [.event (.ofPlan plan)]
  match c.outcome with
  | .error _ => c
  | .ok run =>
    let failure :=
      if run.succeeded then none
      else
        let f := Failure.classify excerpt run
        some (f.step, f.reason)
    c.log (.attemptFinished plan.attempt run.succeeded run.totalMs failure)

/-- An attempt, and after a failure the attempts that `again?` makes of the next plan, if there may
be any. -/
def attemptThen (x : Executor σ) (eco : Ecosystem) (d : Detection) (mode : Mode) (excerpt : Nat)
    (again? : Option (Plan → σ → Course σ Baseline)) (plan : Plan) (s : σ) : Course σ Baseline :=
  (attempt x excerpt plan s).andThen fun run cancelled s =>
    if run.succeeded then .done ⟨run, [plan], [], .succeeded⟩ cancelled s
    else
      let failure := Failure.classify excerpt run
      let stop (reason : StopReason) : Course σ Baseline :=
        .done ⟨run, [plan], [failure], reason⟩ cancelled s
      if cancelled then stop .cancelled
      else if mode = .strict then stop .singleAttempt
      else
        match again? with
        | none => stop .attemptsExhausted
        | some again =>
          match eco.revisedPlan? d plan failure with
          | none => stop .noRemediation
          | some next => (again next s).map (afterFailure plan failure)

/-- Attempts from a plan on, of which `more` may follow the first. -/
def attempts (x : Executor σ) (eco : Ecosystem) (d : Detection) (mode : Mode) (excerpt : Nat) :
    (more : Nat) → Plan → σ → Course σ Baseline
  | 0 => attemptThen x eco d mode excerpt none
  | more + 1 => attemptThen x eco d mode excerpt (some (attempts x eco d mode excerpt more))

/-- Attempt the strict plan of a detection and, as far as the settings allow, its revisions. -/
def establish (x : Executor σ) (registry : Registry) (excerpt : Nat) (d : Detection)
    (settings : Settings) (cancelled : Bool) (s : σ) : Course σ Baseline :=
  let eco := registry.ecosystemFor d.language
  let plan := eco.strictPlan d
  if cancelled then
    .done ⟨.interrupted [] s!"cancelled before attempt {plan.attempt.toNat}", [], [], .cancelled⟩
      cancelled s
  else attempts x eco d settings.mode excerpt (settings.effectiveAttempts - 1) plan s

end Baseline

end PatchTrial
