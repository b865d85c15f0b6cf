import PatchTrial.Config
import PatchTrial.Machine.Basic
import PatchTrial.Pipeline

/-!
Steps in a sandbox.

A step is a command line for the shell. It runs in the working tree, without input, under ceilings
on its resources and for a limited time; whatever it leaves running ends with it. Nothing that
happens to a step is an error: a step that could not be started, timed out or was killed is a
step that failed, with a note on its standard error.
-/
namespace PatchTrial.Sandbox

/-- A ceiling that keeps below the highest one, and an event if that made it lower. -/
def clamp (name : String) (hard : Option Nat) (wanted : Nat) : Nat × List Event :=
  match hard with
  | none => (wanted, [])
  | some hard =>
    if hard < wanted then
      (hard, [.limitsDegraded
        s!"requested {name} limit {wanted} exceeds hard limit {hard}; clamping"])
    else (wanted, [])

/-- The ceilings of a step, and the events of setting them. -/
structure Ceilings where
  cpuSeconds : Option Nat
  addressSpaceBytes : Option Nat
  events : List Event

/-- A ceiling as the system takes it, to which the largest number means that there is none. -/
def ceilingOf (n : Nat) : Option Nat := if n = 0x10000000000000000 - 1 then none else some n

def ceilings (limits : Limits) (m : Machine) : Ceilings :=
  if limits.enabled then
    let (cpu, cpuEvents) := clamp "cpu" m.hardCpuSeconds limits.cpuSeconds.toNat
    let (space, spaceEvents) :=
      clamp "address_space" m.hardAddressSpaceBytes limits.addressSpaceBytes.toNat
    ⟨ceilingOf cpu, ceilingOf space, cpuEvents ++ spaceEvents⟩
  else ⟨m.hardCpuSeconds, m.hardAddressSpaceBytes, []⟩

/-- A note at the end of the standard error, on a line of its own. -/
def withNote (stderr note : String) : String :=
  (if stderr.isEmpty || stderr.endsWith "\n" then stderr else stderr ++ "\n") ++ note

/-- How a step came to its end. -/
inductive Ending where
  | exited (code : Nat)
  | killed (signal : Nat)
  | timedOut
  deriving DecidableEq, Repr

/-- The end of a step that was started, and when it came. Endless work ends with the processor time
or with the time for the step, whichever is used up first. -/
def endingOf (timeoutMs : Nat) (cpuSeconds : Option Nat) (s : Machine.Started) : Ending × Nat :=
  match s.finish with
  | none =>
    match cpuSeconds with
    | some cpu =>
      if cpu * 1000 < timeoutMs then (.killed Shell.Signal.kill, cpu * 1000)
      else (.timedOut, timeoutMs)
    | none => (.timedOut, timeoutMs)
  | some f =>
    if timeoutMs ≤ s.elapsed then (.timedOut, timeoutMs)
    else
      match f with
      | .exited n => (.exited n, s.elapsed)
      | .killed signal => (.killed signal, s.elapsed)

/-- Run a command line as a step. -/
def runStep (limits : Limits) (timeoutMs : Nat) (name command directory : String)
    (env : Option Env) (m : Machine) : StepOutcome Machine :=
  let c := ceilings limits m
  let run (code : Int32) (ms : Nat) (stdout stderr : String) (timedOut : Bool) : StepRun :=
    ⟨name, command, code, UInt64.ofNat ms, stdout, stderr, timedOut⟩
  let request : Machine.Request := {
    program := "sh"
    args := ["-c", command]
    directory := directory
    bindings := ("CI", "true") :: (env.map SortedMap.entries).getD []
    cpuSeconds := c.cpuSeconds
    addressSpaceBytes := c.addressSpaceBytes }
  match m.start request with
  | .error e =>
    ⟨run StepRun.noExitCode 0 "" s!"failed to spawn '{command}': {e.message}" false, c.events,
      false, m⟩
  | .ok started =>
    let (ending, time) := endingOf timeoutMs c.cpuSeconds started
    let s := started.upTo time
    let result := match ending with
      | .exited n => run (Int32.ofNat n) time s.stdout s.stderr false
      | .killed signal => run (Int32.ofNat (128 + signal)) time s.stdout
          (withNote s.stderr s!"process killed by signal {signal}") false
      | .timedOut => run StepRun.noExitCode time s.stdout
          (withNote s.stderr s!"step '{name}' timed out after {timeoutMs / 1000}s") true
    ⟨result, c.events, false, { m with files := s.files }⟩

theorem runStep_label (limits : Limits) (timeoutMs : Nat) (name command directory : String)
    (env : Option Env) (m : Machine) :
    (runStep limits timeoutMs name command directory env m).run.step = name ∧
      (runStep limits timeoutMs name command directory env m).run.command = command := by
  simp only [runStep]
  split
  · exact ⟨rfl, rfl⟩
  · split <;> exact ⟨rfl, rfl⟩

/-- The steps of a plan, run in a directory. -/
def runner (timeouts : Timeouts) (limits : Limits) (directory : String) : StepRunner Machine where
  run step command env m :=
    runStep limits ((timeouts.get step).toNat * 1000) step.name command directory env m
  run_step step command env m := (runStep_label limits _ step.name command directory env m).1
  run_command step command env m := (runStep_label limits _ step.name command directory env m).2

/-- Run the steps of a plan in a directory. -/
def executor (timeouts : Timeouts) (limits : Limits) (directory : String) : Executor Machine :=
  Pipeline.executor (runner timeouts limits directory)

end PatchTrial.Sandbox
