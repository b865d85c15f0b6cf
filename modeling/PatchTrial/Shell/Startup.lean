import PatchTrial.Shell.Ending
import PatchTrial.Shell.Tools.Basic

/-!
The shell as a program: its flags, its variables and where its script comes from.
-/
namespace PatchTrial.Shell

/-- The flags among which only one is set at a time. -/
def editingFlags : List Char := ['V', 'E']

/-- Set or reset a flag. -/
def setFlag (on : Bool) (flags : List Char) (c : Char) : List Char :=
  let others := flags.filter (· ≠ c)
  if !on then others
  else (if editingFlags.contains c then others.filter (!editingFlags.contains ·) else others) ++ [c]

/-- Set or reset flags by their letters; none if there is no such flag. -/
def setFlags? (on : Bool) (letters : List Char) (p : Process) : Option Process :=
  if letters.all flagLetters.contains then
    some { p with flags := letters.foldl (setFlag on) p.flags }
  else none

/-- Turn the control of jobs off again, which takes a terminal. -/
def controlJobs (complain : String → Act Unit) : Act Unit := do
  if (← Act.process).has 'm' then
    complain "can't access tty; job control turned off"
    Act.modifyProcess fun p => { p with flags := setFlag false p.flags 'm' }

/-- The names of the flags with their letters, in the order in which they are listed. -/
def flagNames : List (String × Char) := [
  ("errexit", 'e'), ("noglob", 'f'), ("ignoreeof", 'I'), ("interactive", 'i'), ("monitor", 'm'),
  ("noexec", 'n'), ("stdin", 's'), ("xtrace", 'x'), ("verbose", 'v'), ("vi", 'V'), ("emacs", 'E'),
  ("noclobber", 'C'), ("allexport", 'a'), ("notify", 'b'), ("nounset", 'u'),
  ("privileged", 'p')]

/-- The search path of a shell that has been given none. -/
def defaultPath : String :=
  "/usr/local/sbin:/usr/local/bin:/usr/sbin:/usr/bin:/sbin:/bin"

def isName (s : String) : Bool :=
  match s.toList with
  | c :: cs => isNameStart c && cs.all isNameChar
  | [] => false

/-- The variables of a new shell: those that it sets by itself, and of those that it is given the
ones that have a name. -/
def startVariables (p : Process) : List (String × Variable) :=
  let own (value : String) : Variable := { value := some value }
  let blank : Process := { p with bindings := [
    ("IFS", own " \t\n"), ("PATH", own defaultPath), ("PS1", own "# "), ("PS2", own "> "),
    ("PS4", own "+ "), ("OPTIND", own "1")] }
  let given := p.bindings.filter fun (n, _) => isName n && n != "IFS" && n != "OPTIND"
  let filled := given.foldl (fun q (n, v) => q.withVariable n v) blank
  let here : Variable := { value := some (FileTree.textOf p.here), exported := true }
  ((filled.withVariable "PPID" (own "1")).withVariable "PWD" here).bindings

/-- Run a script as a shell of its own. -/
def runScript (r : Interpreter) (name : String) (args : List String) (script : String) :
    Act Nat := do
  Act.modifyProcess fun p =>
    { p with name := name, isShell := true, args := args, bindings := startVariables p }
  withExitTrap r (runText r false script)

/-- Report a fault in how a shell is started. -/
def startFault {α : Type} (name text : String) : Act α := do
  Act.modifyProcess fun p => { p with name := name, line := 0 }
  fatal text

/-- What a shell is started with. -/
structure StartOrder where
  flags : List (Bool × List Char) := []
  fromArgument : Bool := false
  rest : List String := []

/-- Read the flags of a shell. -/
def StartOrder.read : List String → StartOrder → Except String StartOrder
  | [], o => .ok o
  | arg :: rest, o =>
    match arg.toList with
    | ['-'] => .ok { o with rest := rest }
    | ['-', '-'] => .ok { o with rest := rest }
    | sign :: letters =>
      if sign = '-' || sign = '+' then
        let flags := letters.filter fun c => c != 'c' && c != 'l' && c != 'o'
        let o := { o with
          flags := o.flags ++ [(sign == '-', flags)]
          fromArgument := o.fromArgument || letters.contains 'c' }
        if !flags.all flagLetters.contains then
          let bad := (flags.find? fun c => !flagLetters.contains c).getD ' '
          .error s!"Illegal option {sign}{bad}"
        else if letters.contains 'o' then
          match rest with
          | [] => .ok o
          | name :: rest =>
            match flagNames.lookup name with
            | some c => read rest { o with flags := o.flags ++ [(sign == '-', [c])] }
            | none => .error s!"Illegal option -o {name}"
        else read rest o
      else .ok { o with rest := arg :: rest }
    | [] => .ok { o with rest := arg :: rest }

/-- A shell with its arguments: a script in an argument, in a file or on the standard input. -/
def runShell (r : Interpreter) (name : String) (args : List String) : Act Nat := do
  match StartOrder.read args {} with
  | .error text => startFault name text
  | .ok o =>
    for (on, letters) in o.flags do
      Act.modifyProcess fun p => (setFlags? on letters p).getD p
    let before ← Act.process
    Act.modifyProcess fun p => { p with name := name, line := 0 }
    controlJobs Act.complain
    Act.modifyProcess fun p => { p with name := before.name, line := before.line }
    let fromInput (args : List String) : Act Nat := do
      runScript r name args (String.ofList ((← Act.readAll 0).getD []))
    if o.fromArgument then
      match o.rest with
      | [] => startFault name "-c requires an argument"
      | [script] => runScript r name [] script
      | script :: name :: args => runScript r name args script
    else if (← Act.process).has 's' then fromInput o.rest
    else
      match o.rest with
      | [] => fromInput []
      | path :: args =>
        match ← Tools.fileContent path with
        | .ok text => runScript r path args (String.ofList text)
        | .error .isDirectory => return 0
        | .error e =>
          let what := if e = .notFound || e = .notDirectory then "No such file" else e.words
          startFault name s!"cannot open {path}: {what}"

end PatchTrial.Shell
