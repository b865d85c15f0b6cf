import PatchTrial.Shell.Command
import PatchTrial.Shell.Signal
import PatchTrial.Shell.World
import PatchTrial.Text.Utf8

/-!
A shell at work in its world.

An action may change the shell and the world, and may end early: commands that leave a loop or a
function, and those that end the process, do so from any depth.
-/
namespace PatchTrial.Shell

/-- What a descriptor stands for. -/
inductive Channel where
  /-- What is written is lost, and there is nothing to read. -/
  | nowhere
  | slot (n : Nat)
  /-- What is written goes to the end of a file. -/
  | file (p : FileTree.Place)
  /-- A text to read. What is read of a file, but not of what another process writes, can be given
  back. -/
  | stream (n : Nat) (ofFile : Bool)
  /-- A directory, of which nothing can be read. -/
  | directory
  /-- A device that has no room. -/
  | full
  deriving DecidableEq, Repr

structure Variable where
  /-- None for a variable that is marked but not set. -/
  value : Option String
  exported : Bool := false
  readOnly : Bool := false

/-- A ceiling on a resource; none is no ceiling. -/
structure Ceiling where
  soft : Option Nat := none
  hard : Option Nat := none

structure Process where
  /-- What it was called by; messages start with that. -/
  name : String
  /-- Whether it is a shell, and not a tool. -/
  isShell : Bool := false
  args : List String
  /-- In the order in which they came to be. -/
  bindings : List (String × Variable)
  here : FileTree.Place
  channels : List (Nat × Channel)
  status : Nat
  /-- The number that the shell knows itself by; the shells within it share that. -/
  pid : Nat
  /-- What tells a shell within another one from it. -/
  level : Nat
  lastJob : Option Nat
  functions : List (String × Command)
  aliases : List (String × String) := []
  traps : List (String × String)
  line : Nat
  /-- The command whose argument or file is being run as a script, such as a dot. -/
  scriptOf : Option String := none
  /-- The letters of the flags that are set. -/
  flags : List Char := []
  /-- How many loops are being run. -/
  loops : Nat := 0
  /-- How many functions are being run, each called by the one before it. -/
  calls : Nat := 0
  /-- Variables as they were before a function made them its own; none outside of functions. -/
  locals : Option (List (String × Option Variable)) := none
  /-- The flags as they were before a function made them its own. -/
  localFlags : Option (List Char) := none
  /-- The status of the last commands whose output was put into a word. -/
  outputStatus : Option Nat := none
  /-- The number of the argument to be read next for options. -/
  nextOption : Nat := 1
  /-- How many characters of the argument before that have been read as options. -/
  lettersRead : Nat := 0
  /-- Ceilings by the letters of their resources. -/
  ceilings : List (Char × Ceiling) := []
  /-- The permissions that new files do not get. -/
  creationMask : Nat := 18
  /-- Why something could not be written to the standard output, if so. -/
  unwritten : Option OsError := none

namespace Process

/-- Whether a flag is set. -/
def has (p : Process) (flag : Char) : Bool := p.flags.contains flag

/-- The value of a variable that is set. -/
def value? (p : Process) (name : String) : Option String :=
  (p.bindings.lookup name).bind (·.value)

/-- Put a variable in the stead of the one with its name, or after all others. -/
def withVariable (p : Process) (name : String) (v : Variable) : Process :=
  if (p.bindings.lookup name).isSome then
    { p with bindings := p.bindings.map fun x => if x.1 = name then (name, v) else x }
  else { p with bindings := p.bindings ++ [(name, v)] }

def withoutVariable (p : Process) (name : String) : Process :=
  { p with bindings := p.bindings.filter (·.1 != name) }

def ceiling (p : Process) (resource : Char) : Ceiling := (p.ceilings.lookup resource).getD {}

def withCeiling (p : Process) (resource : Char) (c : Ceiling) : Process :=
  { p with ceilings := (resource, c) :: p.ceilings.filter (·.1 != resource) }

/-- A shell keeps variables in buckets, and lists them bucket by bucket. -/
def bucketOf (name : String) : Nat :=
  name.toList.foldl (fun n c => n + c.toNat) (16 * (name.toList.headD ' ').toNat) % 39

/-- What programs get to see of the variables. -/
def environment (p : Process) : List (String × String) :=
  let shown := p.bindings.filterMap fun (n, v) =>
    if v.exported then v.value.map (n, ·) else none
  if p.isShell then shown.mergeSort fun a b => decide (bucketOf a.1 ≤ bucketOf b.1) else shown

end Process

/-- How a process ended. -/
inductive Finish where
  | exited (status : Nat)
  | killed (signal : Nat)
  deriving DecidableEq, Repr

/-- The status that a shell gives to an end. -/
def Finish.status : Finish → Nat
  | .exited n => n
  | .killed s => 128 + s

/-- Why an action ended early. -/
inductive Stop where
  | exit (status : Nat)
  /-- Something that the shell cannot go on from, unless it was in a command. -/
  | fault
  | killed (pid signal : Nat)
  /-- The commands go on for ever. -/
  | spinning
  | leave (levels : Nat)
  | again (levels : Nat)
  | returned (status : Nat)
  deriving DecidableEq, Repr

structure Session where
  process : Process
  world : World

abbrev Act := ExceptT Stop (StateM Session)

namespace Act

def process : Act Process := return (← get).process

def world : Act World := return (← get).world

def setWorld (w : World) : Act Unit := modify fun s => { s with world := w }

def modifyProcess (f : Process → Process) : Act Unit :=
  modify fun s => { s with process := f s.process }

def perform (e : Effect) : Act Unit := do setWorld ((← world).perform e)

/-- Try an operation on the files. -/
def change (op : FileTree → Except OsError FileTree) : Act (Except OsError Unit) := do
  match op (← world).files with
  | .error e => return .error e
  | .ok _ =>
    perform (.files fun t =>
      match op t with
      | .ok t => t
      | .error _ => t)
    return .ok ()

def channel? (fd : Nat) : Act (Option Channel) := return (← process).channels.lookup fd

/-! ### Writing -/

/-- Add bytes to the end of a file, if it is still there. -/
def extend (p : FileTree.Place) (bytes : ByteArray) (t : FileTree) : FileTree :=
  match t.entry? p with
  | some (.file content mode number) => t.put p (.file (content ++ bytes) mode number)
  | _ => t

/-- How much a file may still grow. -/
def room (p : FileTree.Place) : Act (Option Nat) := do
  match ((← process).ceiling 'f').soft, (← world).files.entry? p with
  | some most, some (.file content ..) => return some (most - content.size)
  | _, _ => return none

/-- Note why something could not be written; the answer is that it was not possible. -/
def missWrite (fd : Nat) (e : OsError) : Act Bool := do
  if fd = 1 then modifyProcess fun p => { p with unwritten := some e }
  return false

/-- Write to a descriptor. The answer is whether that was possible. A program that writes more than
its files may hold is ended. -/
def write (fd : Nat) (bytes : ByteArray) : Act Bool := do
  if bytes.isEmpty then return true
  match ← channel? fd with
  | none => missWrite fd .badDescriptor
  | some .nowhere => return true
  | some (.slot n) => do
    perform (.output n bytes)
    return true
  | some (.file p) => do
    match ← room p with
    | some room =>
      if room < bytes.size then
        perform (.files (extend p (bytes.extract 0 room)))
        throw (.killed (← process).pid Signal.fileSize)
    | none => pure ()
    perform (.files (extend p bytes))
    return true
  | some (.stream ..) => missWrite fd .badDescriptor
  | some .directory => missWrite fd .badDescriptor
  | some .full => missWrite fd .noSpace

def print (text : String) : Act Unit := discard (write 1 (Octets.toBytes text.toList))

def warn (text : String) : Act Unit := discard (write 2 (Octets.toBytes (text ++ "\n").toList))

/-- A message of a command that the shell carries out by itself. -/
def complainAs (command text : String) : Act Unit := do
  let p ← process
  warn s!"{p.name}: {p.line}: {command}: {text}"

/-- A message of the shell itself. It names the command that has handed it a script, if any. -/
def complain (text : String) : Act Unit := do
  let p ← process
  match p.scriptOf with
  | none => warn s!"{p.name}: {p.line}: {text}"
  | some command => complainAs command text

/-- Go on at a line of the script. -/
def atLine (n : Nat) : Act Unit := modifyProcess fun p => { p with line := n }

/-! ### Reading -/

/-- All that is left to read from a descriptor; none if it is not open for reading. -/
def readAll (fd : Nat) : Act (Option (List Char)) := do
  match ← channel? fd with
  | some (.stream n _) => do
    let w ← world
    setWorld { w with streams := w.streams.set n [] }
    return some (w.streams[n]?.getD [])
  | some .nowhere => return some []
  | _ => return none

/-- The next line to read from a descriptor, and whether a line break ended it. -/
def readLine (fd : Nat) : Act (List Char × Bool) := do
  match ← channel? fd with
  | some (.stream n _) => do
    let w ← world
    let (line, rest) := (w.streams[n]?.getD []).span (· != '\n')
    setWorld { w with streams := w.streams.set n (rest.drop 1) }
    return (line, !rest.isEmpty)
  | _ => return ([], false)

/-- What is left to read from a descriptor, without reading it. -/
def peek (fd : Nat) : Act (List Char) := do
  match ← channel? fd with
  | some (.stream n _) => return (← world).streams[n]?.getD []
  | _ => return []

/-- Read so many characters. Of what another process writes, whole blocks are taken. -/
def consume (fd count block : Nat) : Act Unit := do
  match ← channel? fd with
  | some (.stream n ofFile) => do
    let w ← world
    let taken := if ofFile then count else (count + block - 1) / block * block
    setWorld { w with streams := w.streams.modify n (·.drop taken) }
  | _ => return

/-! ### Variables -/

def valueOf (name : String) : Act (Option String) := return (← process).value? name

def setVariable (name : String) (v : Variable) : Act Unit :=
  modifyProcess (·.withVariable name v)

/-- Give a variable a value and leave the rest of it as it is. -/
def assign (name value : String) : Act Unit := do
  let p ← process
  let old := (p.bindings.lookup name).getD ⟨none, false, false⟩
  if old.readOnly then
    complain s!"{name}: is read only"
    throw .fault
  setVariable name { old with value := some value, exported := old.exported || p.has 'a' }
  if name = "OPTIND" then
    let n := if value.all Char.isDigit then Nat.ofDigitChars 10 value.toList 0 else 1
    modifyProcess fun p => { p with nextOption := max 1 n, lettersRead := 0 }

/-- Bring a variable back to what it was. -/
def restoreVariable (name : String) (old : Option Variable) : Act Unit :=
  modifyProcess fun p => match old with
    | some v => p.withVariable name v
    | none => p.withoutVariable name

def setStatus (n : Nat) : Act Unit := modifyProcess fun p => { p with status := n }

/-- Run an action and put back what it changed about the process. -/
def within {α : Type} (change : Process → Process) (a : Act α) : Act α := do
  let before ← process
  modifyProcess change
  try
    let x ← a
    modifyProcess fun _ => before
    return x
  catch e =>
    modifyProcess fun _ => before
    throw e

end Act

end PatchTrial.Shell
