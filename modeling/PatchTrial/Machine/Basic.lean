import PatchTrial.Shell.Run

/-!
A machine on which programs are run.

It has a tree of files, a working directory and an environment, and its own processes are under
ceilings that a program may not exceed. A program is started in a world of its own, which it leaves
behind when it ends. In that world all texts are octet texts, as they are for the programs.
-/
namespace PatchTrial

structure Machine where
  files : FileTree
  here : FileTree.Place
  environment : List (String × String)
  /-- The highest ceilings that may be set. -/
  hardCpuSeconds : Option Nat := none
  hardAddressSpaceBytes : Option Nat := none

namespace Machine

/-- A program that is to be started. -/
structure Request where
  program : String
  args : List String
  /-- The working directory, as seen from that of the machine. -/
  directory : String
  /-- Variables on top of the machine's environment, the last ones of a name counting. -/
  bindings : List (String × String) := []
  input : ByteArray := .empty
  cpuSeconds : Option Nat
  addressSpaceBytes : Option Nat

/-- A program that was started. -/
structure Started where
  /-- How it ended; none if it never does. -/
  finish : Option Shell.Finish
  /-- The world before. -/
  start : Shell.World
  /-- The world in which it ended. -/
  world : Shell.World

namespace Started

/-- The milliseconds that it took. -/
def elapsed (s : Started) : Nat := s.world.clock

def stdout (s : Started) : String := Text.decodeLossy (s.world.slot 0)

def stderr (s : Started) : String := Text.decodeLossy (s.world.slot 1)

/-- The files that it left, with their names as texts. -/
def files (s : Started) : FileTree := s.world.files.mapNames Octets.toText

/-- What was done until a deadline. -/
def upTo (s : Started) (deadline : Nat) : Started :=
  { s with world := Shell.World.cutOff s.start deadline s.world }

end Started

/-- The numbers of the outputs of a program: its standard output and its standard error. -/
def outputSlot : Nat := 0
def errorSlot : Nat := 1

/-- The place of a working directory. -/
def directoryAt (m : Machine) (path : String) : Except OsError FileTree.Place := do
  let p ← m.files.follow m.here path
  match m.files.entry? p with
  | some .directory => return p
  | some _ => .error .notDirectory
  | none => .error .notFound

/-- Whether a program can be started; a file needs an interpreter that it names. -/
def checkStart (t : FileTree) (here : FileTree.Place) (program : Shell.Program) :
    Except OsError Unit := do
  Shell.checkedProgram t here program
  if let .file path := program then
    if (Shell.interpreter? (Octets.ofBytes (← t.read here path))).isNone then throw .badFormat

/-- The process that a request asks for. -/
def processOf (m : Machine) (q : Request) (here : FileTree.Place) (pid : Nat) : Shell.Process :=
  let given := m.environment ++ ("PWD", FileTree.textOf here) :: q.bindings
  let bindings := given.foldl (fun (vs : List (String × Shell.Variable)) (n, v) =>
    (n, { value := some v, exported := true }) :: vs.filter (·.1 != n)) []
  { name := q.program
    args := []
    bindings := (bindings.mergeSort fun a b => decide (a.1 ≤ b.1)).map fun (n, v) =>
      (Octets.ofText n, { v with value := v.value.map Octets.ofText })
    here := here.map Octets.ofText
    channels := [(0, .stream 0 false), (1, .slot outputSlot), (2, .slot errorSlot)]
    status := 0
    pid := pid
    level := 0
    lastJob := none
    functions := []
    traps := []
    line := 1
    ceilings := [('t', ⟨q.cpuSeconds, q.cpuSeconds⟩),
      ('v', ⟨q.addressSpaceBytes, q.addressSpaceBytes⟩),
      ('s', ⟨some (8192 * 1024), none⟩)] }

/-- How a process ended whose action came to this; a signal to another one ends that, and with it
this one. -/
def finishOf (pid : Nat) (outcome : Except Shell.Stop Nat) : Option Shell.Finish :=
  match Shell.finishOf? pid outcome, outcome with
  | some f, _ => some f
  | none, .error (.killed _ signal) => some (.exited (128 + signal))
  | none, _ => none

/-- Start a program and follow it to its end. -/
def start (m : Machine) (q : Request) : Except OsError Started := do
  let nul := Char.ofNat 0
  if q.program.contains nul || q.args.any (·.contains nul) || q.directory.contains nul ||
      q.bindings.any fun (n, v) => n.contains nul || v.contains nul then
    throw .nulByte
  let here ← m.directoryAt q.directory
  let files := m.files.mapNames Octets.ofText
  let world := Shell.World.ofFiles files (Octets.ofBytes q.input)
  let pid := world.nextPid
  let world := { world with nextPid := pid + 1 }
  let process := m.processOf q here pid
  let called := Octets.ofText q.program
  let path := (process.value? "PATH").getD Shell.defaultPath
  let program := Shell.findProgram files process.here path called
  checkStart files process.here program
  let session : Shell.Session := ⟨process, world⟩
  let r := Shell.interpreter Shell.maxDepth
  let run := Shell.runProgram r Shell.programDepth program called (q.args.map Octets.ofText)
  let (result, after) := (run.run.run session : Except Shell.Stop Nat × Shell.Session)
  return ⟨finishOf pid result, world, after.world⟩

end Machine

end PatchTrial
