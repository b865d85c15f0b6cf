import PatchTrial.Shell.Builtin.Basic
import PatchTrial.Shell.Job

/-!
Commands about signals and about jobs in the background.
-/
namespace PatchTrial.Shell.Builtin

/-! ### Traps -/

/-- Set what is done about signals, or reset it. -/
def setTraps (script : Option String) : List String → Act Nat
  | [] => return 0
  | s :: signals => do
    match Signal.number? s with
    | none =>
      Act.warn s!"trap: {s}: bad trap"
      return 1
    | some n =>
      let name := Signal.name n
      let script := if script = some "-" then none else script
      Act.modifyProcess fun p =>
        let others := p.traps.filter (·.1 != name)
        { p with traps := match script with
            | some text => (name, text) :: others
            | none => others }
      setTraps script signals

def trap (args : List String) : Act Nat :=
  withFlags "trap" "" args fun f => do
    match f.operands with
    | [] =>
      let traps := (← Act.process).traps
      for n in List.range 65 do
        if let some script := traps.lookup (Signal.name n) then
          Act.print s!"trap -- {quoted script} {Signal.name n}\n"
      return 0
    | [only] => setTraps none [only]
    | script :: signals =>
      let isNumber := (Tools.natural? script).any (· ≤ 64)
      if isNumber then setTraps none (script :: signals) else setTraps (some script) signals

/-! ### Sending signals -/

/-- A signal reaches the shell. -/
def receive (r : Interpreter) (pid signal : Nat) : Act Unit := do
  let p ← Act.process
  if signal = 0 then return
  match if signal = Signal.kill then none else p.traps.lookup (Signal.name signal) with
  | some script =>
    if p.pid = pid && !script.isEmpty then
      let status := p.status
      discard (runText r false script)
      Act.setStatus status
  | none =>
    if Signal.isHarmless signal then return
    else if Signal.isHalting signal then throw .spinning
    else throw (.killed pid signal)

/-- End a job by a signal. -/
def endJob (signal : Nat) (j : Job) : Act Unit := do
  if signal ≠ 0 && !Signal.isHarmless signal then
    let w ← Act.world
    Act.setWorld { w with jobs := w.jobs.map fun k =>
      if k.pid = j.pid then
        { k with endsAt := w.clock, status := 128 + signal, signal := some signal, later := [],
                 holds := [] }
      else k }

/-- What is asked of the command that sends signals. -/
inductive SignalOrder where
  | send (signal : Nat) (targets : List String)
  | list (number : Option String)
  | fault (text : String)
  | misuse

/-- Read an order. Only what is no signal as a whole is read as an option. -/
def SignalOrder.ofArguments (args : List String) : SignalOrder :=
  let order (signal : Nat) (targets : List String) : SignalOrder :=
    let targets := if targets.head? = some "--" then targets.tail else targets
    if targets.isEmpty then .misuse else .send signal targets
  let named (name : String) (rest : List String) : SignalOrder :=
    match Signal.number? name with
    | some n => order n rest
    | none => .fault s!"invalid signal number or name: {name}"
  match args with
  | [] => .misuse
  | arg :: rest =>
    match arg.toList with
    | ['-', '-'] => order Signal.terminate args
    | '-' :: name =>
      match Signal.number? (String.ofList name), name, rest with
      | some n, _, _ => order n rest
      | none, ['s'], [] => .fault "No arg for -s option"
      | none, ['s'], name :: rest => named name rest
      | none, 's' :: name, rest => named (String.ofList name) rest
      | none, ['l'], [] => .list none
      | none, ['l'], number :: _ => .list (some number)
      | none, c :: _, _ => .fault s!"Illegal option -{c}"
      | none, [], _ => .fault "Illegal number: -"
    | _ => order Signal.terminate args

/-- Send a signal to what an argument names. -/
def sendTo (r : Interpreter) (signal : Nat) (target : String) : Act Nat := do
  let p ← Act.process
  if target.startsWith "%" then
    match ← namedJob? target with
    | none => fatalAs "kill" s!"No such job: {target}"
    | some j =>
      if (← Act.world).clock < j.endsAt then
        endJob signal j
        return 0
      else
        Act.complainAs "kill" "No such process\n"
        return 1
  else
    let digits := if target.startsWith "-" then (target.drop 1).toString else target
    match Tools.natural? digits with
    | none => fatalAs "kill" s!"Illegal number: {target}"
    | some pid =>
      if pid = 0 then
        receive r p.pid signal
        return 0
      else if pid ≤ p.pid then
        receive r pid signal
        return 0
      else
        let w ← Act.world
        match w.jobs.find? fun j => j.pid = pid with
        | some j =>
          if w.clock < j.endsAt then endJob signal j
          return 0
        | none =>
          Act.complainAs "kill" "No such process\n"
          return 1

/-- The signals that have names, and those in between. -/
def signalNames : List String :=
  let real (n : Nat) : String :=
    if n = 34 then "RTMIN" else if n ≤ 49 then s!"RTMIN+{n - 34}"
    else if n < 64 then s!"RTMAX-{64 - n}" else "RTMAX"
  "0" :: (List.range 64).map fun i =>
    let n := i + 1
    if n ≤ 31 then Signal.name n else if n < 34 then toString n else real n

def kill (r : Interpreter) (args : List String) : Act Nat := do
  match SignalOrder.ofArguments args with
  | .send signal targets =>
    let mut status := 0
    for target in targets do
      let s ← sendTo r signal target
      if s ≠ 0 then status := s
    return status
  | .list none =>
    Act.print (String.join (signalNames.map (· ++ "\n")))
    return 0
  | .list (some number) =>
    let n := (Tools.natural? number).getD 0
    Act.print (Signal.name (if 128 < n then n - 128 else n) ++ "\n")
    return 0
  | .fault text => fatalAs "kill" text
  | .misuse =>
    Act.complainAs "kill" "Usage: kill [-s sigspec | -signum | -sigspec] [pid | job]... or"
    Act.warn "kill -l [exitstatus]"
    return 2

/-! ### Jobs -/

/-- Wait for one job, and tell how it ended. -/
def waitFor (j : Job) : Act Nat := do
  awaitJobs [j]
  if let some signal := j.signal then
    if isTold signal then Act.warn (Signal.description signal)
  return j.status

def wait (args : List String) : Act Nat :=
  withFlags "wait" "" args fun f => do
    if f.operands.isEmpty then
      awaitJobs (← ownJobs)
      return 0
    let mut status := 0
    for arg in f.operands do
      if arg.startsWith "%" then
        match ← namedJob? arg with
        | none => fatalAs "wait" s!"No such job: {arg}"
        | some j => status ← waitFor j
      else
        let pid ← numberArgument "wait" arg
        match (← ownJobs).find? (·.pid = pid) with
        | none => status := 127
        | some j => status ← waitFor j
    return status

/-- List the jobs that have not been listed as ended before. -/
def jobs (args : List String) : Act Nat :=
  withFlags "jobs" "lp" args fun f => do
    let clock := (← Act.world).clock
    let jobs ← ownJobs
    for (j, i) in jobs.zipIdx do
      if f.has 'p' then Act.print s!"{j.pid}\n"
      else
        let mark := if i + 1 = jobs.length then "+" else if i + 2 = jobs.length then "-" else " "
        let state := if clock < j.endsAt then "Running" else match j.signal with
          | some signal => Signal.description signal
          | none => if j.status = 0 then "Done" else s!"Done({j.status})"
        let pid := if f.has 'l' then s!"{j.pid} " else ""
        Act.print (Tools.left 33 s!"[{i + 1}] {mark} {pid}{state}" ++ "\n")
    return 0

/-- Bring a job to the foreground or the background, which a shell without a terminal cannot. -/
def moveJob (command : String) (args : List String) : Act Nat :=
  withFlags command "" args fun f => do
    match f.operands with
    | arg :: _ => fatalAs command s!"No such job: {arg}"
    | [] =>
      if (← ownJobs).isEmpty then fatalAs command "No current job"
      else fatalAs command "job (null) not created under job control"

end PatchTrial.Shell.Builtin
