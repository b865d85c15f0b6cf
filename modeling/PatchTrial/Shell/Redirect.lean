import PatchTrial.Shell.Expand
import PatchTrial.Shell.Tools.Basic

/-!
Redirections.

Redirections are made in their order, up to the first that is not possible. What a descriptor stood
for is put back when the command has ended.
-/
namespace PatchTrial.Shell

/-- The descriptor that a path stands for. -/
def descriptorAt? (path : String) : Option Nat :=
  match path with
  | "/dev/stdin" => some 0
  | "/dev/stdout" => some 1
  | "/dev/stderr" => some 2
  | path =>
    if path.startsWith "/dev/fd/" then Tools.natural? (path.drop 8).toString else none

/-- What a file that cannot be opened for reading is said to be. -/
def openFailure : OsError → String
  | .notFound => "No such file"
  | .notDirectory => "No such file"
  | e => e.words

/-- What is said of a file that cannot be made. -/
def createFailure : OsError → String
  | .notFound => "Directory nonexistent"
  | .notDirectory => "Directory nonexistent"
  | e => e.words

/-- What an open file is for reading. -/
def openForReading (path : String) : Act (Except String Channel) := do
  let refused (e : OsError) : Except String Channel :=
    .error s!"cannot open {path}: {openFailure e}"
  if path = "/dev/null" then return .ok .nowhere
  if path = "/dev/tty" then return refused .noDevice
  if let some fd := descriptorAt? path then
    match ← Act.channel? fd with
    | some c => return .ok c
    | none => return refused .notFound
  match ← Tools.fileContent path with
  | .ok text => do
    let (w, n) := (← Act.world).addStream text
    Act.setWorld w
    return .ok (.stream n true)
  | .error .isDirectory => return .ok .directory
  | .error e => return refused e

/-- How a file is opened for writing. -/
inductive WriteMode where
  | replace
  | append
  /-- The file must not be there yet. -/
  | create
  | keep
  deriving DecidableEq, Repr

/-- What an open file is for writing; it is made if it is not there. -/
def openForWriting (path : String) (mode : WriteMode) : Act (Except String Channel) := do
  let refused (e : OsError) : Except String Channel :=
    .error s!"cannot create {path}: {createFailure e}"
  if path = "/dev/full" then return .ok .full
  if path = "/dev/null" || path = "/dev/zero" then return .ok .nowhere
  if path = "/dev/tty" then return refused .noDevice
  if let some fd := descriptorAt? path then
    match ← Act.channel? fd with
    | some c => return .ok c
    | none => return refused .notFound
  let p ← Act.process
  let here := p.here
  let newMode := 0o666 - (0o666 &&& p.creationMask)
  let opened ← Act.change fun t => do
    let keeps := mode = .append || mode = .keep
    match t.follow here path with
    | .ok place =>
      if t.isFile place && mode = .create then .error .exists
      else if t.isFile place && keeps then .ok t
      else t.write here path .empty newMode
    | .error _ => t.write here path .empty newMode
  match opened, (← Act.world).files.follow here path with
  | .ok (), .ok place => return .ok (.file place)
  | .error e, _ => return refused e
  | _, .error e => return refused e

/-- What a file is that is opened for both: if it is empty it is written to, but for the standard
input; else it is read. -/
def openForBoth (fd : Nat) (path : String) : Act (Except String Channel) := do
  match ← openForWriting path .keep with
  | .error text => return .error text
  | .ok (.file place) => do
    match (← Act.world).files.entry? place with
    | some (.file content ..) =>
      if content.isEmpty && fd ≠ 0 then return .ok (.file place) else openForReading path
    | _ => return .ok (.file place)
  | .ok c => return .ok c

/-- Change a descriptor as a redirection says, or tell why that is not possible. -/
def applyRedirect (r : Interpreter) (d : Redirect) : Act (Option String) := do
  let target ← textOf r d.target
  let use (opened : Except String Channel) : Act (Option String) := do
    match opened with
    | .ok c =>
      setChannel d.descriptor (some c)
      return none
    | .error text => return some text
  match d.kind with
  | .input => use (← openForReading target)
  | .readWrite => use (← openForBoth d.descriptor target)
  | .output forced => do
    let keeps := (← Act.process).has 'C' && !forced
    use (← openForWriting target (if keeps then .create else .replace))
  | .append => use (← openForWriting target .append)
  | .hereText => do
    let (w, n) := (← Act.world).addStream target.toList
    Act.setWorld w
    use (.ok (.stream n false))
  | .copy _ =>
    if target = "-" then
      setChannel d.descriptor none
      return none
    else
      match Tools.natural? target with
      | none => fatal "Syntax error: Bad fd number"
      | some n =>
        match ← Act.channel? n with
        | some c => use (.ok c)
        | none => return some s!"{n}: Bad file descriptor"

/-- Apply redirections in order, up to the first that is not possible. -/
def applyRedirects (r : Interpreter) (ds : List Redirect) : Act (Option String) := do
  for d in ds do
    if let some text ← applyRedirect r d then return some text
  return none

/-- Run something with descriptors that are put back afterwards. -/
def keepingChannels (run : Act Nat) : Act Nat := do
  let channels := (← Act.process).channels
  let restore : Act Unit := Act.modifyProcess fun p => { p with channels := channels }
  try
    let status ← run
    restore
    return status
  catch e =>
    restore
    throw e

end PatchTrial.Shell
