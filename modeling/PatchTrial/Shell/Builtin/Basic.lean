import PatchTrial.Shell.Ending
import PatchTrial.Shell.Startup

/-!
What the commands that a shell carries out by itself have in common.

A fault in one of them ends the command, and with a special one the shell.
-/
namespace PatchTrial.Shell.Builtin

/-- A natural number as an argument. -/
def numberArgument (command arg : String) : Act Nat := do
  match Tools.natural? arg with
  | some n => if n < 0x80000000 then return n else fatalAs command s!"Illegal number: {arg}"
  | none => fatalAs command s!"Illegal number: {arg}"

/-- Options of a command, which come before its operands, with their values. -/
structure Flags where
  given : List (Char × String) := []
  operands : List String := []

def Flags.has (f : Flags) (c : Char) : Bool := f.given.any (·.1 = c)

/-- Read the letters of an argument; those before a colon in `forms` need a value. -/
def readFlagLetters (command : String) (forms : List Char) :
    List Char → List String → Flags → Act (List String × Flags)
  | [], rest, f => return (rest, f)
  | c :: cs, rest, f => do
    if c = ':' || !forms.contains c then fatalAs command s!"Illegal option -{c}"
    let wantsValue := (forms.dropWhile (· != c))[1]? = some ':'
    if !wantsValue then
      readFlagLetters command forms cs rest { f with given := f.given ++ [(c, "")] }
    else if !cs.isEmpty then
      return (rest, { f with given := f.given ++ [(c, String.ofList cs)] })
    else
      match rest with
      | value :: rest => return (rest, { f with given := f.given ++ [(c, value)] })
      | [] => fatalAs command s!"No arg for -{c} option"

/-- Read options up to the first argument that is none. -/
def readFlags (command : String) (forms : List Char) : Nat → List String → Flags → Act Flags
  | 0, args, f => return { f with operands := args }
  | fuel + 1, args, f => do
    match args with
    | [] => return f
    | "--" :: rest => return { f with operands := rest }
    | arg :: rest =>
      match arg.toList with
      | '-' :: c :: cs => do
        let (rest, f) ← readFlagLetters command forms (c :: cs) rest f
        readFlags command forms fuel rest f
      | _ => return { f with operands := arg :: rest }

/-- Run a command with its options. -/
def withFlags (command forms : String) (args : List String) (run : Flags → Act Nat) : Act Nat := do
  run (← readFlags command forms.toList (args.length + 1) args {})

/-- Run something on behalf of a command, which is named in messages. The status is odd if not all
of its output could be written. -/
def runFor (command : String) (run : Act Nat) : Act Nat := do
  let before := (← Act.process).scriptOf
  let restore : Act Unit := Act.modifyProcess fun p =>
    { p with scriptOf := before, unwritten := none }
  Act.modifyProcess fun p => { p with scriptOf := some command, unwritten := none }
  try
    let status ← run
    let unwritten := (← Act.process).unwritten
    restore
    if unwritten.isNone then return status
    Act.complainAs command s!"{command}: I/O error"
    return if status % 2 = 0 then status + 1 else status
  catch e =>
    restore
    throw e

/-- A text in quotes, so that a shell reads it as it is. -/
def quoted (s : String) : String :=
  let rec go : Nat → List Char → List Char
    | 0, _ => []
    | fuel + 1, cs =>
      let (plain, rest) := cs.span (· != '\'')
      let (quotes, rest) := rest.span (· == '\'')
      '\'' :: plain ++ '\'' :: (if quotes.isEmpty then [] else
        '"' :: quotes ++ '"' :: (if rest.isEmpty then [] else go fuel rest))
  String.ofList (go (s.length + 1) s.toList)

/-- Split an argument into a name and a value, if it has one. -/
def assignmentOf (arg : String) : String × Option String :=
  match Text.splitAt? '=' arg.toList with
  | some (name, value) => (String.ofList name, some (String.ofList value))
  | none => (arg, none)

/-- Fail unless a text can be the name of a variable. -/
def requireName (name : String) : Act Unit := do
  if !isName name then fatal s!"{name}: bad variable name"

/-- Give a variable a value on behalf of a command. -/
def assignNamed (name value : String) : Act Unit := do
  requireName name
  Act.assign name value

/-- Tell a name and, where there is one, a value. -/
def assignmentText (name : String) (value : Option String) : String :=
  match value with
  | some v => s!"{name}={quoted v}"
  | none => name

end PatchTrial.Shell.Builtin
