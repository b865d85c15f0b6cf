import PatchTrial.Step

/-!
What one step did when it ran.

A step passed if its exit code is zero. The code -1 stands for a step that never exited by
itself: it timed out, or could not be started.
-/
namespace PatchTrial

structure StepRun where
  step : String
  command : String
  exitCode : Int32
  durationMs : UInt64
  stdout : String
  stderr : String
  timedOut : Bool
  deriving DecidableEq, Repr, Inhabited

namespace StepRun

/-- The exit code of a step that gave none. -/
def noExitCode : Int32 := -1

def passed (r : StepRun) : Bool := r.exitCode = 0

/-- The step of the pipeline that this was, if it has the name of one. -/
def pipelineStep? (r : StepRun) : Option Step := Step.ofName? r.step

/-- Both output streams, a line break between them if neither is empty. -/
def combinedOutput (r : StepRun) : String :=
  if r.stdout.isEmpty || r.stderr.isEmpty then r.stdout ++ r.stderr
  else r.stdout ++ "\n" ++ r.stderr

def ofJson? (j : Json) : Option StepRun := do
  let r ← j.record? ["step", "command", "exit_code", "duration_ms", "stdout", "stderr", "timed_out"]
  return {
    step := ← r.required "step" Json.string?
    command := ← r.required "command" Json.string?
    exitCode := ← r.required "exit_code" Json.int32?
    durationMs := ← r.required "duration_ms" Json.uint64?
    stdout := ← r.required "stdout" Json.string?
    stderr := ← r.required "stderr" Json.string?
    timedOut := ← r.withDefault "timed_out" Json.bool? false }

def toJson (r : StepRun) : Json :=
  .object [("step", .string r.step), ("command", .string r.command),
    ("exit_code", Json.int r.exitCode.toInt), ("duration_ms", Json.nat r.durationMs.toNat),
    ("stdout", .string r.stdout), ("stderr", .string r.stderr), ("timed_out", .bool r.timedOut)]

end StepRun

end PatchTrial
