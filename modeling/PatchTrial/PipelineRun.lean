import PatchTrial.Benchmark.Measurement
import PatchTrial.Patch.Gate

/-!
What a whole pipeline did when it ran, for a baseline or for a candidate.

A run stops at the first step that fails. It may also be interrupted for a reason that is not a
step, and a candidate may be rejected before any step is run.
-/
namespace PatchTrial

/-- A failed step as an error. -/
structure StepError where
  step : String
  command : String
  exitCode : Int32
  timedOut : Bool
  deriving DecidableEq, Repr

namespace StepError

def ofStepRun (r : StepRun) : StepError := ⟨r.step, r.command, r.exitCode, r.timedOut⟩

def message (e : StepError) : String :=
  s!"step '{e.step}' failed with exit code {e.exitCode.toInt}: {e.command}"

end StepError

structure PipelineRun (α : Type) where
  steps : List StepRun
  succeeded : Bool
  error : Option String
  measurement : Option (Measurement α)
  deriving BEq

namespace PipelineRun

variable {α : Type}

/-- A run of nothing, which has not succeeded. -/
def nothing : PipelineRun α := ⟨[], false, none, none⟩

def firstFailure? (r : PipelineRun α) : Option StepRun := r.steps.find? (!·.passed)

/-- How the failure of a step is reported. -/
def failureText (r : StepRun) : String :=
  if r.timedOut then s!"step '{r.step}' timed out"
  else s!"step '{r.step}' exited with code {r.exitCode.toInt}"

/-- The run of these steps. It succeeded if all of them passed. -/
def ofSteps (steps : List StepRun) (measurement : Option (Measurement α)) : PipelineRun α :=
  let failed := steps.find? (!·.passed)
  ⟨steps, failed.isNone, failed.map failureText, measurement⟩

theorem succeeded_ofSteps_iff {steps : List StepRun} {m : Option (Measurement α)} :
    (ofSteps steps m).succeeded = true ↔ ∀ r ∈ steps, r.passed = true := by
  simp [ofSteps]

/-- A run has an error exactly if some step failed. -/
theorem isSome_error_ofSteps (steps : List StepRun) (m : Option (Measurement α)) :
    (ofSteps steps m).error.isSome = !(ofSteps steps m).succeeded := by
  simp [ofSteps]

/-- A run that was stopped after these steps. -/
def interrupted (steps : List StepRun) (error : String) : PipelineRun α :=
  ⟨steps, false, some error, none⟩

/-- The first entry of a step. -/
def step? (r : PipelineRun α) (s : Step) : Option StepRun := r.steps.find? (·.step = s.name)

def totalMs (r : PipelineRun α) : Nat := r.steps.foldl (fun n s => n + s.durationMs.toNat) 0

/-- The first failed step as an error. -/
def ensureSuccess (r : PipelineRun α) : Except StepError Unit :=
  match r.firstFailure? with
  | some s => .error (.ofStepRun s)
  | none => .ok ()

def ofJson? (j : Json) : Option (PipelineRun Float) := do
  let r ← j.record? ["steps", "is_success", "error", "bench_result"]
  return {
    steps := ← r.required "steps" (Json.list? StepRun.ofJson?)
    succeeded := ← r.required "is_success" Json.bool?
    error := ← r.optional "error" Json.string?
    measurement := ← r.optional "bench_result" Measurement.ofJson? }

def toJson (r : PipelineRun Float) : Json :=
  .object [("steps", .array (r.steps.map StepRun.toJson)), ("is_success", .bool r.succeeded),
    ("error", Json.orNull .string r.error),
    ("bench_result", Json.orNull Measurement.toJson r.measurement)]

end PipelineRun

/-- Why a candidate was turned away before any step was run. -/
inductive Rejection where
  /-- The gate refused the patch. -/
  | constraint (violation : Violation)
  /-- The patch could not be applied. -/
  | patchApply (message stdout stderr : String)
  deriving DecidableEq, Repr

namespace Rejection

def message : Rejection → String
  | .constraint v => v.message
  | .patchApply m _ _ => s!"patch did not apply: {m}"

/-- Read a rejection of the given kind from the rest of its fields. -/
def ofKind? (kind : String) (rest : Json) : Option Rejection :=
  if kind = "constraint" then do
    let r ← rest.record? ["violation"]
    let name := Json.bufferedName? Constraint.ofName?
    return .constraint (← r.required "violation" (Violation.read? name))
  else if kind = "patch_apply" then do
    let r ← rest.record? ["message", "stdout", "stderr"]
    return .patchApply (← r.required "message" Json.string?)
      (← r.withDefault "stdout" Json.string? "") (← r.withDefault "stderr" Json.string? "")
  else none

/-- The kind stands in the field `type`, or first in an array; the other parts are read whole. -/
def ofJson? (j : Json) : Option Rejection :=
  match if j.isUsable then j else .unusable with
  | .object fields =>
    match fields.filter (·.1 = "type") with
    | [(_, .string kind)] => ofKind? kind (.object (fields.filter (·.1 ≠ "type")))
    | _ => none
  | .array (.string kind :: rest) => ofKind? kind (.array rest)
  | _ => none

def toJson : Rejection → Json
  | .constraint v => .object [("type", .string "constraint"), ("violation", v.toJson)]
  | .patchApply m out err =>
    .object [("type", .string "patch_apply"), ("message", .string m), ("stdout", .string out),
      ("stderr", .string err)]

end Rejection

/-- The run of a candidate's steps, or its rejection. -/
structure CandidateRun (α : Type) where
  candidateId : String
  steps : List StepRun
  succeeded : Bool
  error : Option String
  measurement : Option (Measurement α)
  rejection : Option Rejection
  /-- Whether the patch was taken back, or never applied. -/
  treeClean : Bool
  deriving BEq

namespace CandidateRun

variable {α : Type}

/-- A candidate that was turned away before the tree was touched. -/
def rejected (id : String) (r : Rejection) : CandidateRun α :=
  ⟨id, [], false, some r.message, none, some r, true⟩

/-- A candidate whose steps were run. -/
def ofRun (id : String) (r : PipelineRun α) : CandidateRun α :=
  ⟨id, r.steps, r.succeeded, r.error, r.measurement, none, true⟩

/-- The first entry of a step. -/
def step? (r : CandidateRun α) (s : Step) : Option StepRun := r.steps.find? (·.step = s.name)

def ofJson? (j : Json) : Option (CandidateRun Float) := do
  let r ← j.record? ["candidate_id", "steps", "is_success", "error", "bench_result", "rejection",
    "tree_clean"]
  return {
    candidateId := ← r.required "candidate_id" Json.string?
    steps := ← r.required "steps" (Json.list? StepRun.ofJson?)
    succeeded := ← r.required "is_success" Json.bool?
    error := ← r.optional "error" Json.string?
    measurement := ← r.optional "bench_result" Measurement.ofJson?
    rejection := ← r.optional "rejection" Rejection.ofJson?
    treeClean := ← r.withDefault "tree_clean" Json.bool? true }

def toJson (r : CandidateRun Float) : Json :=
  .object [("candidate_id", .string r.candidateId),
    ("steps", .array (r.steps.map StepRun.toJson)), ("is_success", .bool r.succeeded),
    ("error", Json.orNull .string r.error),
    ("bench_result", Json.orNull Measurement.toJson r.measurement),
    ("rejection", Json.orNull Rejection.toJson r.rejection), ("tree_clean", .bool r.treeClean)]

end CandidateRun

end PatchTrial
