import PatchTrial.Json.Decode

/-!
Why an attempt failed.

A reason is one of a closed list; it decides whether and how the next plan differs.
-/
namespace PatchTrial

inductive Reason where
  | oom
  | concurrencyOom
  | lockfileDrift
  | missingDevDependencies
  | wrapperMissing
  | commandNotFound
  | engineMismatch
  | installFailed
  | buildFailed
  | typecheckFailed
  | testFailed
  | unknown
  deriving DecidableEq, Repr

namespace Reason

def name : Reason → String
  | .oom => "oom"
  | .concurrencyOom => "concurrency_oom"
  | .lockfileDrift => "lockfile_drift"
  | .missingDevDependencies => "missing_dev_dependencies"
  | .wrapperMissing => "wrapper_missing"
  | .commandNotFound => "command_not_found"
  | .engineMismatch => "engine_mismatch"
  | .installFailed => "install_failed"
  | .buildFailed => "build_failed"
  | .typecheckFailed => "typecheck_failed"
  | .testFailed => "test_failed"
  | .unknown => "unknown"

def all : List Reason := [
  .oom, .concurrencyOom, .lockfileDrift, .missingDevDependencies, .wrapperMissing,
  .commandNotFound, .engineMismatch, .installFailed, .buildFailed, .typecheckFailed, .testFailed,
  .unknown]

theorem mem_all (r : Reason) : r ∈ all := by cases r <;> decide

theorem name_injective {r s : Reason} (h : r.name = s.name) : r = s := by
  cases r <;> cases s <;> first | rfl | exact absurd h (by decide)

def ofJson? : Json → Option Reason := Json.name? fun s => all.find? (·.name = s)

def toJson (r : Reason) : Json := .string r.name

end Reason

/-- The failure of an attempt: the step, the reason, and the ends of the step's output. -/
structure Failure where
  step : String
  reason : Reason
  stdoutExcerpt : String
  stderrExcerpt : String
  deriving DecidableEq, Repr

namespace Failure

/-- The failure of an attempt none of whose steps failed. -/
def unknown : Failure := ⟨"unknown", .unknown, "", ""⟩

def ofJson? (j : Json) : Option Failure := do
  let r ← j.record? ["step", "reason", "stdout_excerpt", "stderr_excerpt"]
  return {
    step := ← r.required "step" Json.string?
    reason := ← r.required "reason" Reason.ofJson?
    stdoutExcerpt := ← r.required "stdout_excerpt" Json.string?
    stderrExcerpt := ← r.required "stderr_excerpt" Json.string? }

def toJson (f : Failure) : Json :=
  .object [("step", .string f.step), ("reason", f.reason.toJson),
    ("stdout_excerpt", .string f.stdoutExcerpt), ("stderr_excerpt", .string f.stderrExcerpt)]

end Failure

end PatchTrial
