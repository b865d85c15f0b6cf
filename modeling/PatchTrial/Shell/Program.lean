import PatchTrial.Shell.Startup
import PatchTrial.Shell.Tools.Awk
import PatchTrial.Shell.Tools.Blocks
import PatchTrial.Shell.Tools.Columns
import PatchTrial.Shell.Tools.Compare
import PatchTrial.Shell.Tools.Count
import PatchTrial.Shell.Tools.Date
import PatchTrial.Shell.Tools.Dump
import PatchTrial.Shell.Tools.Exchange
import PatchTrial.Shell.Tools.Expr
import PatchTrial.Shell.Tools.Find
import PatchTrial.Shell.Tools.Grep
import PatchTrial.Shell.Tools.Install
import PatchTrial.Shell.Tools.Links
import PatchTrial.Shell.Tools.Listing
import PatchTrial.Shell.Tools.Numbers
import PatchTrial.Shell.Tools.Owners
import PatchTrial.Shell.Tools.Print
import PatchTrial.Shell.Tools.Sed
import PatchTrial.Shell.Tools.Show
import PatchTrial.Shell.Tools.Sort
import PatchTrial.Shell.Tools.Split
import PatchTrial.Shell.Tools.Starting
import PatchTrial.Shell.Tools.System
import PatchTrial.Shell.Tools.Test

/-!
Programs and how they are started.

A program is a known tool or an executable file in the tree, which names the interpreter that runs
it or else is a script of the shell.
-/
namespace PatchTrial.Shell

/-- Tools that work by themselves. -/
def plainTools : List (String × Tool) := [
  ("[", Tools.test "["),
  ("arch", Tools.arch),
  ("base32", Tools.encoder "base32" Tools.Letters.base32),
  ("base64", Tools.encoder "base64" Tools.Letters.base64),
  ("basename", Tools.basename),
  ("cat", Tools.cat),
  ("chgrp", Tools.chgrp),
  ("chmod", Tools.chmod),
  ("chown", Tools.chown),
  ("cksum", Tools.cksum),
  ("cmp", Tools.cmp),
  ("comm", Tools.comm),
  ("cp", Tools.cp),
  ("cut", Tools.cut),
  ("date", Tools.date),
  ("dd", Tools.dd),
  ("diff", Tools.diff),
  ("dirname", Tools.dirname),
  ("echo", Tools.echo),
  ("egrep", Tools.egrep),
  ("expand", Tools.expand),
  ("expr", Tools.expr),
  ("factor", Tools.factor),
  ("false", Tools.idle 1),
  ("fgrep", Tools.fgrep),
  ("fold", Tools.fold),
  ("grep", Tools.grep),
  ("groups", Tools.groups),
  ("head", Tools.head),
  ("hostname", Tools.hostname),
  ("id", Tools.id),
  ("install", Tools.install),
  ("join", Tools.join),
  ("link", Tools.link),
  ("ln", Tools.ln),
  ("logname", Tools.logname),
  ("ls", Tools.ls),
  ("mkdir", Tools.mkdir),
  ("mktemp", Tools.mktemp),
  ("mv", Tools.mv),
  ("nl", Tools.nl),
  ("nproc", Tools.nproc),
  ("od", Tools.od),
  ("paste", Tools.paste),
  ("printenv", Tools.printenv),
  ("printf", Tools.printf),
  ("pwd", Tools.pwd),
  ("readlink", Tools.readlink),
  ("realpath", Tools.realpath),
  ("rev", Tools.rev),
  ("rm", Tools.rm),
  ("rmdir", Tools.rmdir),
  ("seq", Tools.seq),
  ("sleep", Tools.sleep),
  ("sort", Tools.sort),
  ("split", Tools.split),
  ("stat", Tools.stat),
  ("sum", Tools.sum),
  ("sync", Tools.sync),
  ("tac", Tools.tac),
  ("tail", Tools.tail),
  ("tee", Tools.tee),
  ("test", Tools.test "test"),
  ("touch", Tools.touch),
  ("tr", Tools.tr),
  ("true", Tools.idle 0),
  ("truncate", Tools.truncate),
  ("tty", Tools.tty),
  ("uname", Tools.uname),
  ("unexpand", Tools.unexpand),
  ("uniq", Tools.uniq),
  ("unlink", Tools.unlink),
  ("wc", Tools.wc),
  ("whoami", Tools.whoami),
  ("yes", Tools.yes)]

/-- Tools that start other programs. -/
def startingTools (start : Starter) : List (String × Tool) := [
  ("awk", Tools.awk start),
  ("env", Tools.env start),
  ("find", Tools.find start),
  ("mawk", Tools.awk start),
  ("nice", Tools.nice start),
  ("nohup", Tools.nohup start),
  ("sed", Tools.sed start),
  ("setsid", Tools.setsid start),
  ("stdbuf", Tools.stdbuf start),
  ("timeout", Tools.timeout start),
  ("xargs", Tools.xargs start)]

/-- Tools that compute the digest of a text. -/
def digestTools : List (String × Tool) :=
  Tools.digestKinds.map fun k => (k.tool, Tools.digestTool k)

/-- What tools of the system are called and what they do. -/
def toolNamed? (start : Starter) (name : String) : Option Tool :=
  (plainTools ++ digestTools ++ startingTools start).lookup name

/-- The names of the shell. -/
def shellNames : List String := ["sh", "dash", "bash"]

def isShell (name : String) : Bool := shellNames.contains name

/-- A starter that finds no program. -/
def noStarter : Starter := fun _ _ => return .error .notFound

/-- The name of the tool that looks programs up. -/
def lookupTool : String := "which"

/-- Whether a tool of the system has this name. -/
def isTool (name : String) : Bool :=
  isShell name || name = lookupTool || (toolNamed? noStarter name).isSome

/-- What a name of a program leads to. -/
inductive Program where
  | tool (path name : String)
  | file (path : String)
  | missing
  | denied
  deriving DecidableEq, Repr

/-- The program at a path. -/
def programAt (t : FileTree) (here : FileTree.Place) (path : String) : Program :=
  let name := Tools.baseName path
  if ["/bin/" ++ name, "/usr/bin/" ++ name].contains path && isTool name then .tool path name
  else
    match t.follow here path with
    | .ok p =>
      match t.entry? p with
      | some (.file _ mode _) => if FileTree.isRunnable mode then .file path else .denied
      | some _ => .denied
      | none => .missing
    | .error _ => .missing

/-- Whether a program can run. -/
def Program.runs : Program → Bool
  | .tool .. => true
  | .file _ => true
  | _ => false

/-- What a name may stand for in each of the directories of `path`. -/
def candidates (t : FileTree) (here : FileTree.Place) (path name : String) : List Program :=
  if name.contains '/' then [programAt t here name]
  else if name.isEmpty then []
  else (path.splitOn ":").map fun dir =>
    programAt t here (if dir.isEmpty then name else Path.join dir name)

/-- The program that a name stands for, looked up in the directories of `path`. -/
def findProgram (t : FileTree) (here : FileTree.Place) (path name : String) : Program :=
  if name.contains '/' then programAt t here name
  else
    let found := candidates t here path name
    match found.find? Program.runs with
    | some program => program
    | none => if found.contains .denied then .denied else .missing

/-- The interpreter that the first line of a file names, with its argument if there is one. -/
def interpreter? (text : List Char) : Option (String × List String) :=
  match text with
  | '#' :: '!' :: rest =>
    let isBlank (c : Char) : Bool := c == ' ' || c == '\t'
    let line := (rest.takeWhile (· != '\n')).dropWhile isBlank
    let line := (line.reverse.dropWhile isBlank).reverse
    let (path, args) := line.span (!isBlank ·)
    let args := args.dropWhile isBlank
    if path.isEmpty then none
    else some (String.ofList path, if args.isEmpty then [] else [String.ofList args])
  | _ => none

/-- The file that runs a program: its interpreter, if it names one. -/
def checkedProgram (t : FileTree) (here : FileTree.Place) (program : Program) :
    Except OsError Unit :=
  match program with
  | .missing => .error .notFound
  | .denied => .error .permissionDenied
  | .tool .. => .ok ()
  | .file path =>
    match t.read here path with
    | .error e => .error e
    | .ok bytes =>
      match interpreter? (Octets.ofBytes bytes) with
      | none => .ok ()
      | some (interpreter, _) =>
        match programAt t here interpreter with
        | .missing => .error .notFound
        | .denied => .error .permissionDenied
        | _ => .ok ()

/-- Tell where programs are. -/
def which : Tool := fun args => do
  let (all, names) := match args with
    | "-a" :: names => (true, names)
    | names => (false, names)
  if names.isEmpty then return 1
  let path ← Act.valueOf "PATH"
  Tools.forOperands names fun name => do
    let found := (candidates (← Act.world).files (← Act.process).here (path.getD "") name).filter
      Program.runs
    for program in if all then found else found.take 1 do
      match program with
      | .tool path _ => Act.print (path ++ "\n")
      | .file path => Act.print (path ++ "\n")
      | _ => pure ()
    return if found.isEmpty then 1 else 0

mutual
/-- Run a program in the current process. -/
def runProgram (r : Interpreter) (fuel : Nat) (p : Program) (calledBy : String)
    (args : List String) : Act Nat :=
  match fuel with
  | 0 => throw .spinning
  | fuel + 1 => do
    match p with
    | .missing => return 127
    | .denied => return 126
    | .file path => runFile r fuel path args
    | .tool _ name =>
      Act.modifyProcess fun p => { p with name := calledBy }
      if isShell name then runShell r calledBy args
      else if name = lookupTool then which args
      else
        match toolNamed? (startProgram r fuel) name with
        | some tool => do
          let status ← tool args
          match (← Act.process).unwritten with
          | none => return status
          | some e => Tools.reportUnwritten name e
        | none => return 127

/-- Run an executable file with the interpreter that it names. -/
def runFile (r : Interpreter) (fuel : Nat) (path : String) (args : List String) : Act Nat :=
  match fuel with
  | 0 => throw .spinning
  | fuel + 1 => do
    let text := (← Tools.fileContent path).toOption.getD []
    match interpreter? text with
    | none => runShell r "sh" (path :: args)
    | some (interpreter, extra) =>
      let p ← Act.process
      let program := programAt (← Act.world).files p.here interpreter
      runProgram r fuel program interpreter (extra ++ path :: args)

/-- Start a program by its name. -/
def startProgram (r : Interpreter) (fuel : Nat) (name : String) (args : List String) :
    Act (Except OsError Finish) :=
  match fuel with
  | 0 => throw .spinning
  | fuel + 1 => do
    let p ← Act.process
    let t := (← Act.world).files
    let path ← Act.valueOf "PATH"
    let program := findProgram t p.here (path.getD "/bin:/usr/bin") name
    match checkedProgram t p.here program with
    | .error e =>
      match if name.contains '/' then t.follow p.here name else .error e with
      | .error reason => return .error reason
      | .ok _ => return .error e
    | .ok () => return .ok (← asProcess (← newPid) (runProgram r fuel program name args))
end

/-- How many programs may start one another. -/
def programDepth : Nat := 64

/-- The program that a name stands for in a shell. -/
def programOf (name : String) : Act Program := do
  let path ← Act.valueOf "PATH"
  return findProgram (← Act.world).files (← Act.process).here (path.getD defaultPath) name

/-- Start a program from a shell, whose descriptors are those of the program. -/
def launch (r : Interpreter) (pid : Nat) (name : String) (args : List String) : Act Finish := do
  let program ← programOf name
  match checkedProgram (← Act.world).files (← Act.process).here program with
  | .error .permissionDenied => do
    Act.complain s!"{name}: Permission denied"
    return .exited 126
  | .error _ => do
    Act.complain (if name.isEmpty then ": Permission denied" else s!"{name}: not found")
    return .exited 127
  | .ok () => asProcess pid (runProgram r programDepth program name args)

end PatchTrial.Shell
