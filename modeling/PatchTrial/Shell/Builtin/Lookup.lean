import PatchTrial.Shell.Builtin.Print
import PatchTrial.Shell.Program

/-!
Commands about what names of commands stand for, and about working directories.
-/
namespace PatchTrial.Shell.Builtin

/-- Commands that functions can take the place of. -/
def regularNames : List String :=
  ["alias", "bg", "cd", "chdir", "command", "echo", "false", "fg", "getopts", "hash", "jobs",
    "kill", "printf", "pwd", "read", "test", "[", "true", "type", "ulimit", "umask", "unalias",
    "wait"]

/-! ### Aliases -/

/-- Tell of an alias. -/
def printAlias (x : String × String) : Act Unit := Act.print s!"{x.1}={quoted x.2}\n"

def defineAliases (args : List String) : Act Nat := do
  if args.isEmpty then
    let known := (← Act.process).aliases.mergeSort fun a b =>
      decide (Process.bucketOf a.1 ≤ Process.bucketOf b.1)
    known.forM printAlias
    return 0
  Tools.forOperands args fun arg => do
    match arg.toList with
    | [] => return 0
    | c :: cs =>
      match Text.splitAt? '=' cs with
      | some (name, value) =>
        let x := (String.ofList (c :: name), String.ofList value)
        Act.modifyProcess fun p =>
          { p with aliases :=
              if p.aliases.any (·.1 = x.1) then p.aliases.map fun y => if y.1 = x.1 then x else y
              else p.aliases ++ [x] }
        return 0
      | none =>
        match (← Act.process).aliases.find? (·.1 = arg) with
        | some x =>
          printAlias x
          return 0
        | none =>
          Act.warn s!"alias: {arg} not found"
          return 1

def unalias (args : List String) : Act Nat :=
  withFlags "unalias" "a" args fun f => do
    if f.has 'a' then
      Act.modifyProcess fun p => { p with aliases := [] }
      return 0
    Tools.forOperands f.operands fun name => do
      if (← Act.process).aliases.any (·.1 = name) then
        Act.modifyProcess fun p => { p with aliases := p.aliases.filter (·.1 != name) }
        return 0
      else
        Act.warn s!"unalias: {name} not found"
        return 1

/-! ### Names -/

/-- What a name stands for, in a text; a path stands for anything that is at it. -/
def whatIs (verbose : Bool) (name : String) : Act (Option String) := do
  let p ← Act.process
  let say (short long : String) : Option String := some (if verbose then long else short)
  if reserved.contains name then return say name s!"{name} is a shell keyword"
  if let some (_, value) := p.aliases.find? (·.1 = name) then
    return say s!"alias {name}={quoted value}" s!"{name} is an alias for {value}"
  if specialNames.contains name then return say name s!"{name} is a special shell builtin"
  if (p.functions.lookup name).isSome then return say name s!"{name} is a shell function"
  if regularNames.contains name then return say name s!"{name} is a shell builtin"
  if name.contains '/' then
    if (← Tools.entryAt name).isSome then return say name s!"{name} is {name}"
  match ← programOf name with
  | .tool path _ => return say path s!"{name} is {path}"
  | .file path => return say path s!"{name} is {path}"
  | _ => return none

def describeAll (verbose : Bool) (names : List String) : Act Nat := do
  let mut status := 0
  for n in names do
    match ← whatIs verbose n with
    | some text => Act.print (text ++ "\n")
    | none =>
      if verbose then Act.print s!"{n}: not found\n"
      status := 127
  return status

/-- Look programs up ahead of their use; a path needs no search. -/
def hash (args : List String) : Act Nat :=
  withFlags "hash" "r" args fun f => do
    Tools.forOperands f.operands fun name => do
      if name.isEmpty then
        Act.complainAs "hash" ": Permission denied"
        return 1
      let found ← if reserved.contains name then pure none else whatIs true name
      if name.contains '/' || found.isSome then return 0
      Act.complainAs "hash" s!"{name}: not found"
      return 1

/-! ### Working directories -/

/-- The place of a directory that is looked up in a list of directories first. -/
def directoryOf (path : String) : Act (Option (FileTree.Place × Bool)) := do
  let p ← Act.process
  let t := (← Act.world).files
  let at? (path : String) : Option FileTree.Place :=
    if path.isEmpty then some p.here
    else
      match t.follow p.here path with
      | .ok place => if t.isDirectory place then some place else none
      | .error _ => none
  let isPlain := !path.startsWith "/" && !(["." , ".."].contains ((path.splitOn "/").headD ""))
  let listed := (← Act.valueOf "CDPATH").getD ""
  if isPlain && !listed.isEmpty then
    for dir in listed.splitOn ":" do
      if let some place := at? (Path.join dir path) then return some (place, !dir.isEmpty)
  return (at? path).map (·, false)

def cd (args : List String) : Act Nat :=
  withFlags "cd" "LP" args fun f => do
    let old := (← Act.valueOf "PWD").getD (FileTree.textOf (← Act.process).here)
    let (target, tells) ← match f.operands with
      | [] => pure (← Act.valueOf "HOME", false)
      | "-" :: _ => pure (some ((← Act.valueOf "OLDPWD").getD old), true)
      | path :: _ => pure (some path, false)
    match target with
    | none => return 0
    | some path =>
      match ← directoryOf path with
      | none => fatalAs "cd" s!"can't cd to {path}"
      | some (place, found) =>
        Act.modifyProcess fun p => { p with here := place }
        Act.setVariable "OLDPWD" { value := some old, exported := true }
        let text := FileTree.textOf place
        Act.setVariable "PWD" { value := some text, exported := true }
        if tells || found then Act.print (text ++ "\n")
        return 0

def pwd (args : List String) : Act Nat :=
  withFlags "pwd" "LP" args fun _ => do
    Act.print (FileTree.textOf (← Act.process).here ++ "\n")
    return 0

end PatchTrial.Shell.Builtin
