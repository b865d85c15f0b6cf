import PatchTrial.Shell.Ending
import PatchTrial.Shell.Tools.Basic

/-!
Jobs in the background.
-/
namespace PatchTrial.Shell

/-- A time that never comes. -/
def never : Nat := Nat.pow 10 15

/-- What tells the shells of one process apart. -/
def Process.owner (p : Process) : Nat := p.pid * 1000 + p.level

/-- Start something in the background. It works on a world of its own; what it does there at once
is done here too, and the rest is left for later. -/
def startJob (run : Act Nat) : Act Unit := do
  let s ← get
  let p := s.process
  let w := s.world
  let pid := w.nextPid
  let inside : Session := {
    process := { p with level := p.level + 1, traps := [], lastJob := none }
    world := { w with nextPid := pid + 1, jobs := [] } }
  let (result, after) := ((inSubshell run).run.run inside : Except Stop Nat × Session)
  let (status, signal, endless) : Nat × Option Nat × Bool := match result with
    | .ok n => (n, none, false)
    | .error (.killed _ sig) => (128 + sig, some sig, false)
    | .error .spinning => (0, none, true)
    | .error _ => (0, none, false)
  let done := World.doneSince w after.world
  let job : Job := {
    pid := pid
    owner := p.owner
    endsAt := if endless then never else after.world.clock
    status := status
    signal := signal
    later := done.filter (w.clock < ·.1)
    holds := p.channels.filterMap fun
      | (_, .slot n) => some n
      | _ => none }
  let w := { w.withSlotsOf after.world with nextPid := after.world.nextPid }
  let w := (done.filter (·.1 ≤ w.clock)).foldl (fun (w : World) x => w.perform x.2) w
  Act.setWorld { w with jobs := w.jobs ++ job :: after.world.jobs }
  Act.modifyProcess fun p => { p with lastJob := some pid }

/-- Wait for jobs to end. -/
def awaitJobs (js : List Job) : Act Unit := do
  let w ← Act.world
  let latest := js.foldl (fun t j => max t j.endsAt) w.clock
  if never ≤ latest then throw .spinning
  Act.setWorld (w.advanceTo latest)

/-- The jobs that a shell has started. -/
def ownJobs : Act (List Job) := do
  let owner := (← Act.process).owner
  return (← Act.world).jobs.filter (·.owner = owner)

/-- The job that an argument such as `%1` names. -/
def namedJob? (arg : String) : Act (Option Job) := do
  let jobs ← ownJobs
  match arg with
  | "%" => return jobs.getLast?
  | "%%" => return jobs.getLast?
  | "%+" => return jobs.getLast?
  | "%-" => return jobs.dropLast.getLast?
  | arg =>
    match Tools.natural? (arg.drop 1).toString with
    | some n => return if n = 0 then none else jobs[n - 1]?
    | none => return none

end PatchTrial.Shell
