import PatchTrial.Shell.Builtin.Control
import PatchTrial.Shell.Builtin.Limits
import PatchTrial.Shell.Builtin.Lookup
import PatchTrial.Shell.Builtin.Print
import PatchTrial.Shell.Builtin.Signals
import PatchTrial.Shell.Builtin.Variables

/-!
Commands that run scripts and programs, and the table of all commands of the shell.

Special commands keep the assignments in front of them, and a fault in one of them ends the shell.
-/
namespace PatchTrial.Shell.Builtin

def eval (r : Interpreter) (tested : Bool) (args : List String) : Act Nat :=
  runText r tested (" ".intercalate args)

/-- Run the script in a file; nothing can be read from a directory. -/
def dot (r : Interpreter) (args : List String) : Act Nat :=
  withFlags "." "" args fun f => do
    match f.operands with
    | [] => return 0
    | path :: _ =>
      let dirs := ((← Act.valueOf "PATH").getD defaultPath).splitOn ":"
      let places := if path.contains '/' then [path] else dirs.map fun d => Path.join d path
      let mut found : Option String := none
      for place in places do
        if found.isNone then
          match ← Tools.fileContent place with
          | .ok text => found := some (String.ofList text)
          | .error .isDirectory => if path.contains '/' then found := some ""
          | .error _ => pure ()
      match found with
      | none =>
        if path.contains '/' then fatalAs "." s!"cannot open {path}: No such file"
        else fatalAs "." s!"{path}: not found"
      | some text =>
        try runFor path (runText r false text)
        catch
          | .returned n => return n
          | e => throw e

/-- Put a program in the place of the shell. -/
def exec (r : Interpreter) (args : List String) : Act Nat :=
  withFlags "exec" "" args fun f => do
    match f.operands with
    | [] => return 0
    | name :: args => do
      let p ← Act.process
      Act.modifyProcess fun p => { p with traps := p.traps.filter (·.2.isEmpty) }
      let program ← programOf name
      match checkedProgram (← Act.world).files p.here program with
      | .error .permissionDenied =>
        Act.complainAs "exec" s!"{name}: Permission denied"
        throw (.exit 126)
      | .error _ =>
        Act.complainAs "exec" s!"{name}: not found"
        throw (.exit 127)
      | .ok () =>
        match ← asProcess p.pid (runProgram r programDepth program name args) with
        | .exited n => throw (.exit n)
        | .killed s => if p.level = 0 then throw (.killed p.pid s) else throw (.exit (128 + s))

/-- Carry out a special command; `none` if there is none of this name. -/
def special? (r : Interpreter) (tested : Bool) (name : String) (args : List String) :
    Option (Act Nat) :=
  match name with
  | ":" => some (return 0)
  | "." => some (dot r args)
  | "break" => some (leaveLoop name .leave args)
  | "continue" => some (leaveLoop name .again args)
  | "eval" => some (eval r tested args)
  | "exec" => some (exec r args)
  | "exit" => some (exit args)
  | "export" => some (export_ args)
  | "local" => some (local_ args)
  | "readonly" => some (readonly args)
  | "return" => some (return_ args)
  | "set" => some (set args)
  | "shift" => some (shift args)
  | "times" => some do
    Act.print "0m0.000000s 0m0.000000s\n0m0.000000s 0m0.000000s\n"
    return 0
  | "trap" => some (trap args)
  | "unset" => some (unset args)
  | _ => none

/-- Carry out a command of the shell that is not special; `none` if there is none of this name. -/
def regular? (r : Interpreter) (name : String) (args : List String) : Option (Act Nat) :=
  match name with
  | "true" => some (return 0)
  | "false" => some (return 1)
  | "echo" => some (echo args)
  | "printf" => some (printf args)
  | "test" => some (Tools.test name args)
  | "[" => some (Tools.test name args)
  | "cd" => some (cd args)
  | "chdir" => some (cd args)
  | "pwd" => some (pwd args)
  | "read" => some (read args)
  | "kill" => some (kill r args)
  | "wait" => some (wait args)
  | "ulimit" => some (ulimit args)
  | "type" => some (describeAll true args)
  | "umask" => some (umask args)
  | "alias" => some (defineAliases args)
  | "unalias" => some (unalias args)
  | "hash" => some (hash args)
  | "jobs" => some (jobs args)
  | "fg" => some (moveJob name args)
  | "bg" => some (moveJob name args)
  | "getopts" => some (getopts args)
  | _ => none

end PatchTrial.Shell.Builtin
