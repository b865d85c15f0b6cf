import PatchTrial.Calendar
import PatchTrial.CommandLine.Commands
import PatchTrial.Machine.System

/-!
The program.

It takes what is below the working directory into a machine, carries out its command there, puts
back what has changed, and prints what came of it. Tools and shells are those of the machine.
-/
namespace PatchTrial.Program

/-- The variableNames that count. -/
def variableNames : List String := [
  "PATH", "HOME", "LANG", "TMPDIR", CommandLine.configVariable, CommandLine.modeVariable,
  CommandLine.budgetVariable, CommandLine.filterVariable]

def environment : IO (List (String × String)) :=
  variableNames.filterMapM fun name => do
    return (← IO.getEnv name).map fun value => (name, value)

/-- A place with all places above it but the root. -/
def lineage (p : FileTree.Place) : List FileTree.Place :=
  (List.range p.length).map fun n => p.take (n + 1)

/-- A file that says what is to run it can be run. -/
def modeOf (content : ByteArray) : Nat :=
  if content.extract 0 2 == "#!".toUTF8 then FileTree.programMode else FileTree.plainMode

/-- What is below a directory. Files that cannot be read are left out; a link is taken for what it
leads to. -/
partial def entriesBelow (place : FileTree.Place) :
    IO (List (FileTree.Place × FileTree.Entry)) := do
  let mut found := []
  let directory := FileTree.textOf place
  for item in ← ((← IO.FS.realPath directory).readDir) do
    let p := place ++ [item.fileName]
    if ← item.path.isDir then
      found := found ++ (p, .directory) :: (← entriesBelow p)
    else
      try
        let content ← IO.FS.readBinFile item.path
        found := found ++ [(p, .file content (modeOf content))]
      catch _ => pure ()
  return found

/-- Put back what has changed below a place. -/
def putBack (here : FileTree.Place) (before after : FileTree) : IO Unit := do
  for (p, e) in after.entries do
    if here.isPrefixOf p then
      match e, before.entry? p with
      | .directory, none => IO.FS.createDirAll (FileTree.textOf p)
      | .file content .., some (.file old ..) =>
        if content != old then IO.FS.writeBinFile (FileTree.textOf p) content
      | .file content mode _, _ =>
        IO.FS.writeBinFile (FileTree.textOf p) content
        if FileTree.isRunnable mode then
          IO.setAccessRights (FileTree.textOf p) ⟨⟨true, true, true⟩, ⟨true, false, true⟩,
            ⟨true, false, true⟩⟩
      | _, _ => pure ()
  for (p, e) in before.entries.reverse do
    if here.isPrefixOf p && (after.entry? p).isNone then
      match e with
      | .directory => IO.FS.removeDirAll (FileTree.textOf p)
      | _ => IO.FS.removeFile (FileTree.textOf p)

/-- The present, which is when a new file was written last. -/
def present : IO Timestamp := do
  let (handle, path) ← IO.FS.createTempFile
  handle.putStr " "
  handle.flush
  let time := (← path.metadata).modified
  IO.FS.removeFile path
  return Timestamp.ofSeconds time.sec time.nsec.toNat

/-- So many random hexadecimal digits. -/
def randomDigits (n : Nat) : IO String := do
  let mut out := ""
  for _ in [0:n] do
    out := out.push (Nat.digitChar (← IO.rand 0 15))
  return out

/-- A new name for a run. -/
def newRunId : IO String := do
  let first ← randomDigits 8
  let second ← randomDigits 4
  let third ← randomDigits 3
  let variant := ["8", "9", "a", "b"].getD (← IO.rand 0 3) "8"
  let fourth ← randomDigits 3
  let last ← randomDigits 12
  return "-".intercalate [first, second, "4" ++ third, variant ++ fourth, last]

/-- An event as a line of the log. -/
def logLine (time : Timestamp) (e : Event) : String :=
  (Json.object [("timestamp", .string time.toText), ("level", .string e.level.name),
    ("fields", .object (("event", .string e.name) :: e.details))]).compact

def run (args : List String) : IO UInt32 := do
  let directory := (← IO.currentDir).toString
  let here := (directory.splitOn "/").filter (!·.isEmpty)
  let below ← entriesBelow here
  let above := (lineage here).map fun p => (p, FileTree.Entry.directory)
  let system := FileTree.system.entries.filter fun x =>
    !here.isPrefixOf x.1 && !x.1.isPrefixOf here
  let files : FileTree := ⟨system ++ above ++ below⟩
  let now ← present
  let stamp : RunStamp := ⟨← newRunId, now, now, 0⟩
  let x := CommandLine.execute stamp args ⟨files, here, ← environment, none, none⟩
  putBack here files x.after.files
  for e in x.log do
    IO.eprintln (logLine now e)
  IO.print x.stdout
  if let some text := x.error then
    IO.eprintln s!"Error: {text}"
  return x.code.toUInt32

end PatchTrial.Program

def main (args : List String) : IO UInt32 := PatchTrial.Program.run args
