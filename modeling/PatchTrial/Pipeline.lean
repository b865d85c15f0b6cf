import PatchTrial.Host

/-!
Running the steps of a plan, one after another.

Steps without a command are passed over. A run ends at the first step that fails, and between two
steps when it is cancelled. A benchmark is read off the last step if that is the bench step and
it passed.
-/
namespace PatchTrial

/-- What came of running one step. -/
structure StepOutcome (σ : Type) where
  run : StepRun
  events : List Event
  /-- Whether the whole run was cancelled in the meantime. -/
  cancels : Bool
  after : σ

/-- A way to run one step: its command with its environment. What came of it is filed under the
step's name, together with the command. -/
structure StepRunner (σ : Type) where
  run : Step → String → Option Env → σ → StepOutcome σ
  run_step : ∀ x command env s, (run x command env s).run.step = x.name
  run_command : ∀ x command env s, (run x command env s).run.command = command

namespace Pipeline

variable {σ : Type}

/-- The measurement of a run with these steps. -/
def measurement? (runs : List StepRun) : Option (Measurement Float) :=
  match runs.getLast? with
  | some r => if r.passed && r.pipelineStep? = some .bench then some (.ofStepRun r) else none
  | none => none

/-- A run that came to its end by itself. -/
def finished (runs : List StepRun) : PipelineRun Float := .ofSteps runs (measurement? runs)

/-- The steps that a plan has commands for, with these. -/
def runnable (plan : Plan) (steps : List Step) : List (Step × String) :=
  steps.filterMap fun x => (plan.command x).map (x, ·)

/-- Run steps that have commands, after those in `runs`. -/
def continueWith (step : StepRunner σ) (plan : Plan) :
    List (Step × String) → List StepRun → (cancelled cancels : Bool) → σ → Ran σ
  | [], runs, _, cancels, s => ⟨.ok (finished runs), [], cancels, s⟩
  | (x, command) :: rest, runs, cancelled, cancels, s =>
    if cancelled then
      ⟨.ok (.interrupted runs s!"cancelled before {x.name}"), [], cancels, s⟩
    else
      let o := step.run x command (plan.envFor x) s
      let runs := runs ++ [o.run]
      let events := o.events ++ [.stepFinished plan.attempt o.run]
      let next :=
        if o.run.passed then
          continueWith step plan rest runs o.cancels (cancels || o.cancels) o.after
        else ⟨.ok (finished runs), [], cancels || o.cancels, o.after⟩
      { next with events := events ++ next.events }

/-- Run the steps that a plan has commands for. -/
def runSteps (step : StepRunner σ) (plan : Plan) (steps : List Step) (cancelled : Bool) (s : σ) :
    Ran σ :=
  if (runnable plan steps).isEmpty then
    ⟨.ok (.interrupted [] "no runnable pipeline steps in plan"), [], false, s⟩
  else continueWith step plan (runnable plan steps) [] cancelled false s

def executor (step : StepRunner σ) : Executor σ := ⟨runSteps step⟩

end Pipeline

end PatchTrial
