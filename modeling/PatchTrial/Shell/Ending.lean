import PatchTrial.Shell.Expand

/-!
Ends of processes.

Whatever an action comes to that runs as a process, the process ends with a status or by a signal;
only what never comes to an end, and a signal to a process outside of it, go beyond it.
-/
namespace PatchTrial.Shell

/-- The status of a shell that cannot go on. -/
def faultStatus : Nat := 2

/-- Run a shell to its end, and then what it has set its trap on that end to. -/
def withExitTrap (r : Interpreter) (run : Act Nat) : Act Nat := do
  let status ← try run catch
    | .exit n => pure n
    | .fault => pure faultStatus
    | .returned n => pure n
    | .leave _ => pure 0
    | .again _ => pure 0
    | e => throw e
  match (← Act.process).traps.lookup "EXIT" with
  | none => return status
  | some script =>
    Act.modifyProcess fun p => { p with traps := [], status := status }
    try
      discard (runText r false script)
      return status
    catch
      | .exit n => return n
      | .fault => return faultStatus
      | .returned _ => return status
      | e => throw e

/-- What a new process keeps of the one that starts it. -/
def Process.child (p : Process) (pid : Nat) : Process :=
  { name := p.name
    args := []
    bindings := p.environment.map fun (n, v) => (n, { value := some v, exported := true })
    here := p.here
    channels := p.channels
    status := 0
    pid := pid
    level := 0
    lastJob := none
    functions := []
    traps := p.traps.filter (·.2.isEmpty)
    line := 1
    ceilings := p.ceilings
    creationMask := p.creationMask }

/-- How a process has ended whose action came to this; none if the end lies beyond it. -/
def finishOf? (pid : Nat) : Except Stop Nat → Option Finish
  | .ok n => some (.exited n)
  | .error (.exit n) => some (.exited n)
  | .error .fault => some (.exited faultStatus)
  | .error (.returned n) => some (.exited n)
  | .error (.leave _) => some (.exited 0)
  | .error (.again _) => some (.exited 0)
  | .error (.killed p signal) => if p = pid then some (.killed signal) else none
  | .error .spinning => none

/-- Run something in a process of its own. Only exported variables are handed on. -/
def asProcess (pid : Nat) (run : Act Nat) : Act Finish := do
  let before ← Act.process
  Act.modifyProcess (·.child pid)
  let outcome : Except Stop Nat ← try (do return .ok (← run)) catch e => pure (.error e)
  Act.modifyProcess fun _ => before
  match finishOf? pid outcome, outcome with
  | some f, _ => return f
  | none, .error e => throw e
  | none, .ok n => return .exited n

/-- A number for a new process. -/
def newPid : Act Nat := do
  let w ← Act.world
  Act.setWorld { w with nextPid := w.nextPid + 1 }
  return w.nextPid

/-- Whether a shell tells that a signal has ended a program. -/
def isTold (signal : Nat) : Bool := signal ≠ Signal.interrupt && signal ≠ Signal.pipe

/-- What a shell makes of the end of a program: it tells of most signals. -/
def conclude (f : Finish) : Act Nat := do
  match f with
  | .exited n => return n
  | .killed signal => do
    if isTold signal then Act.warn (Signal.description signal)
    return f.status

/-- End as another process has ended. -/
def endAs (f : Finish) : Act Nat := do
  match f with
  | .exited n => return n
  | .killed signal => throw (.killed (← Act.process).pid signal)

end PatchTrial.Shell
