import PatchTrial.Acceptance
import PatchTrial.Failure.Reason
import PatchTrial.Plan

/-!
The events of a run, for its log.
-/
namespace PatchTrial

inductive Level where
  | debug
  | info
  | warn
  | error
  deriving DecidableEq, Repr

namespace Level

def name : Level → String
  | .debug => "DEBUG"
  | .info => "INFO"
  | .warn => "WARN"
  | .error => "ERROR"

/-- How much a level matters. -/
def severity : Level → Nat
  | .debug => 1
  | .info => 2
  | .warn => 3
  | .error => 4

end Level

inductive Event where
  | runStarted (runId language : String) (candidates : Nat)
  | runFinished (runId : String) (durationMs accepted : Nat) (cancelled : Bool)
  | attemptStarted (attempt : UInt32) (mode : Mode) (reason : String)
  /-- The failed step and the reason are there if the attempt failed. -/
  | attemptFinished (attempt : UInt32) (success : Bool) (durationMs : Nat)
      (failure : Option (String × Reason))
  | stepFinished (attempt : UInt32) (run : StepRun)
  | candidateRejected (candidateId reason : String)
  | candidateEvaluated (candidateId : String) (accepted : Bool) (confidence : Confidence)
      (riskScore : Float32)
  | revertFailed (candidateId error : String)
  /-- The revert after a step that blew up failed as well. -/
  | revertFailedInPanic (error : String)
  | limitsDegraded (detail : String)
  deriving DecidableEq

namespace Event

def level : Event → Level
  | .stepFinished .. => .debug
  | .limitsDegraded .. => .warn
  | .revertFailed .. => .error
  | .revertFailedInPanic .. => .error
  | _ => .info

def name : Event → String
  | .runStarted .. => "run.started"
  | .runFinished .. => "run.finished"
  | .attemptStarted .. => "attempt.started"
  | .attemptFinished .. => "attempt.finished"
  | .stepFinished .. => "step.finished"
  | .candidateRejected .. => "candidate.rejected"
  | .candidateEvaluated .. => "candidate.evaluated"
  | .revertFailed .. => "patch.revert_failed"
  | .revertFailedInPanic .. => "patch.revert_failed"
  | .limitsDegraded .. => "limits.degraded"

/-- The part of the program that an event comes from. -/
def source : Event → String
  | .revertFailedInPanic .. => "autotune_core::validator"
  | _ => "autotune_core::obs"

/-- The fields of an event, besides its name and level. -/
def details : Event → List (String × Json)
  | .runStarted runId language candidates =>
    [("run_id", .string runId), ("language", .string language), ("candidates", Json.nat candidates)]
  | .runFinished runId durationMs accepted cancelled =>
    [("run_id", .string runId), ("duration_ms", Json.nat durationMs),
      ("accepted", Json.nat accepted), ("cancelled", .bool cancelled)]
  | .attemptStarted attempt mode reason =>
    [("attempt", Json.nat attempt.toNat), ("mode", mode.toJson), ("reason", .string reason)]
  | .attemptFinished attempt success durationMs failure =>
    [("attempt", Json.nat attempt.toNat), ("success", .bool success),
      ("duration_ms", Json.nat durationMs)] ++
    match failure with
    | none => []
    | some (step, reason) => [("failed_step", .string step), ("reason", reason.toJson)]
  | .stepFinished attempt run =>
    [("attempt", Json.nat attempt.toNat), ("step", .string run.step),
      ("exit_code", Json.int run.exitCode.toInt), ("duration_ms", Json.nat run.durationMs.toNat),
      ("timed_out", .bool run.timedOut)]
  | .candidateRejected id reason => [("candidate_id", .string id), ("reason", .string reason)]
  | .candidateEvaluated id accepted confidence risk =>
    [("candidate_id", .string id), ("accepted", .bool accepted),
      ("confidence", .string confidence.title), ("risk_score", Json.single risk)]
  | .revertFailed id error => [("candidate_id", .string id), ("error", .string error)]
  | .revertFailedInPanic error =>
    [("error", .string error), ("message", .string "revert after panic failed")]
  | .limitsDegraded detail => [("detail", .string detail)]

/-- The start of an attempt, with the reason that its plan states for itself. -/
def ofPlan (p : Plan) : Event :=
  let reason := ((p.metadata.field? "reason").bind Json.string?).getD "initial"
  .attemptStarted p.attempt p.mode reason

def ofVerdict (id : String) (v : Verdict Float) : Event :=
  .candidateEvaluated id v.accepted v.confidence v.riskScore

def toJson (e : Event) : Json :=
  .object (("event", .string e.name) :: ("level", .string e.level.name) :: e.details)

end Event

end PatchTrial
