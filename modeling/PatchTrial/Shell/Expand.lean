import PatchTrial.Shell.Arith
import PatchTrial.Shell.Fields
import PatchTrial.Shell.Parse
import PatchTrial.Shell.Session

/-!
Expansion of words.

Parameters, the output of commands and arithmetic are put into a word first. Then what came from
them unquoted is split into fields, and fields are matched against file names. Commands inside a
word are run by an interpreter that is given, as are words inside of words.
-/
namespace PatchTrial.Shell

/-- Ways to run what is nested in a command. -/
structure Interpreter where
  /-- Run a command. A failure that is looked at does not end a shell that ends on errors. -/
  run : (tested : Bool) → Command → Act Nat
  expand : Word → Act (List Mark)

namespace Interpreter

/-- An interpreter for what is nested too deeply: it never comes to an end. -/
def exhausted : Interpreter := ⟨fun _ _ => throw .spinning, fun _ => throw .spinning⟩

end Interpreter

/-- Report a fault of the script, which ends the shell. -/
def fatal {α : Type} (text : String) : Act α := do
  Act.complain text
  throw .fault

/-- Report a fault in the use of a command of the shell, which ends the shell. -/
def fatalAs {α : Type} (command text : String) : Act α := do
  Act.complainAs command text
  throw .fault

/-! ### Parameters -/

/-- The characters that separate fields. -/
def separators : Act (List Char) :=
  return ((← Act.valueOf "IFS").map String.toList).getD [' ', '\t', '\n']

/-- The letters of all flags, in the order in which they are shown. -/
def flagLetters : List Char := "pubaCEVvxsnmiIfe".toList

/-- The flags of the shell as a text. -/
def flagText (p : Process) : String := String.ofList (flagLetters.filter p.has)

/-- The value of a parameter; none if it is not set. -/
def paramValue (name : String) : Act (Option String) := do
  let p ← Act.process
  match name with
  | "#" => return some (toString p.args.length)
  | "?" => return some (toString p.status)
  | "$" => return some (toString p.pid)
  | "!" => return p.lastJob.map toString
  | "-" => return some (flagText p)
  | "0" => return some p.name
  | "@" => return if p.args.isEmpty then none else some (" ".intercalate p.args)
  | "*" =>
    let glue := match ← Act.valueOf "IFS" with
      | none => " "
      | some s => (s.take 1).toString
    return if p.args.isEmpty then none else some (glue.intercalate p.args)
  | name =>
    match name.toNat? with
    | some n => return p.args[n - 1]?
    | none => Act.valueOf name

/-- The marks of a value that was put in. -/
def valueMarks (quoted : Bool) (s : String) : List Mark :=
  s.toList.map fun c => .char c quoted (!quoted)

/-- The text of marks. -/
def marksText (ms : List Mark) : String :=
  String.ofList (ms.filterMap fun
    | .char c _ _ => some c
    | .fieldEnd => some ' '
    | .softEnd => some ' '
    | .presence => none)

/-- The characters of marks as a pattern. -/
def marksPattern (ms : List Mark) : List Glyph :=
  ms.filterMap fun
    | .char c q _ => some (c, q)
    | _ => none

/-- Marks of a word that stands in place of a value: unquoted, it can be split. -/
def replacing (quoted : Bool) (ms : List Mark) : List Mark :=
  ms.map fun
    | .char c q s => .char c q (s || (!quoted && !q))
    | m => m

/-! ### Commands in words -/

/-- Run a script line by line from a text in which lines are counted up to `total`. -/
def runLines (r : Interpreter) (tested : Bool) (total : Nat) : Nat → List Char → Nat → Act Nat
  | 0, _, _ => throw .spinning
  | fuel + 1, cs, status => do
    match readLine total (← Act.process).aliases cs with
    | .error m => do
      Act.modifyProcess fun p => { p with line := m.line }
      fatal m.fault.message
    | .ok (none, _) => return status
    | .ok (some c, rest) => do
      let s ← if (← Act.process).has 'n' then pure status else r.run tested c
      if (skipAll rest).isEmpty then return s else runLines r tested total fuel rest s

/-- Run a script. -/
def runText (r : Interpreter) (tested : Bool) (script : String) : Act Nat :=
  let cs := script.toList
  runLines r tested (cs.count '\n') (cs.length + 1) cs 0

/-- Run something in a shell of its own, which what it does to itself does not leave. -/
def inSubshell (run : Act Nat) : Act Nat := do
  let before ← Act.process
  Act.modifyProcess fun p => { p with level := p.level + 1, traps := [] }
  let restore : Act Unit := Act.modifyProcess fun _ => before
  try
    let status ← run
    restore
    return status
  catch
    | .exit n => restore; return n
    | .fault => restore; return 2
    | .returned n => restore; return n
    | .leave _ => restore; return 0
    | .again _ => restore; return 0
    | e => restore; throw e

/-- Set what a descriptor stands for. -/
def setChannel (fd : Nat) (c : Option Channel) : Act Unit :=
  Act.modifyProcess fun p =>
    let others := p.channels.filter (·.1 != fd)
    { p with channels := match c with
        | some c => (fd, c) :: others
        | none => others }

/-- Run something and collect what it writes to its standard output. -/
def collecting (run : Act Nat) : Act (Nat × ByteArray) := do
  let (w, n) := (← Act.world).addSlot
  Act.setWorld w
  let status ← inSubshell do
    setChannel 1 (some (.slot n))
    run
  let w := (← Act.world).drain n
  Act.setWorld w
  return (status, w.slot n)

/-- The output of commands as a value: line breaks at its end are left out. -/
def outputOf (r : Interpreter) (commands : Command) : Act String := do
  let (status, bytes) ← collecting (r.run false commands)
  Act.modifyProcess fun p => { p with status := status, outputStatus := some status }
  let cs := (Octets.ofBytes bytes).filter (· != Char.ofNat 0)
  return String.ofList (cs.reverse.dropWhile (· == '\n')).reverse

/-! ### Parts of words -/

/-- The value of an arithmetic expression. -/
def sumOf (text : String) : Act Int := do
  let p ← Act.process
  match Arith.evaluate p.value? text.toList with
  | .error e => fatal (e.message text)
  | .ok (n, assigned) => do
    for (name, v) in assigned.reverse do
      Act.assign name (toString v)
    return n

/-- Marks of all arguments of the shell. -/
def argumentMarks (quoted : Bool) : Act (List Mark) := do
  let args := (← Act.process).args
  if quoted then
    let each := args.map fun a => Mark.presence :: valueMarks true a
    return [Mark.fieldEnd].intercalate each
  else return [Mark.softEnd].intercalate (args.map (valueMarks false))

/-- Complain about a parameter that is not set. -/
def notSet {α : Type} (name what : String) : Act α := fatal s!"{name}: {what}"

/-- Marks of a parameter. -/
def paramMarks (r : Interpreter) (name : String) (use : ParamUse) (arg : Word) (quoted : Bool) :
    Act (List Mark) := do
  let value ← paramValue name
  let missing (orEmpty : Bool) : Bool := match value with
    | none => true
    | some v => orEmpty && v.isEmpty
  let requireSet : Act Unit := do
    if value.isNone && (← Act.process).has 'u' && !(["@", "*"].contains name) then
      notSet name "parameter not set"
  let plain : Act (List Mark) := do
    requireSet
    if name = "@" || (name = "*" && !quoted) then argumentMarks quoted
    else return valueMarks quoted (value.getD "")
  let cut (f : List Glyph → List Char → List Char) : Act (List Mark) := do
    requireSet
    let pattern := marksPattern (← r.expand arg)
    return valueMarks quoted (String.ofList (f pattern (value.getD "").toList))
  match use with
  | .plain => plain
  | .length =>
    requireSet
    return valueMarks quoted (toString (value.getD "").length)
  | .orElse e => if missing e then return replacing quoted (← r.expand arg) else plain
  | .assign e =>
    if missing e then do
      let text := marksText (← r.expand arg)
      Act.assign name text
      return valueMarks quoted text
    else plain
  | .require e =>
    if missing e then do
      let text := marksText (← r.expand arg)
      notSet name (if !text.isEmpty then text
        else if e then "parameter not set or null" else "parameter not set")
    else plain
  | .ifSet e => if missing e then return [] else return replacing quoted (← r.expand arg)
  | .cutEnd longest => cut fun p => cutEnd p longest
  | .cutStart longest => cut fun p => cutStart p longest
  | .invalid => fatal "Bad substitution"

def partMarks (r : Interpreter) : Part → Act (List Mark)
  | .text s quoted =>
    return (if quoted then [Mark.presence] else []) ++ s.map fun c => .char c quoted false
  | .param name use arg quoted => paramMarks r name use arg quoted
  | .output commands quoted => do return valueMarks quoted (← outputOf r commands)
  | .sum expr quoted => do
    let n ← sumOf (marksText (← r.expand expr))
    return valueMarks quoted (toString n)

/-- The home directory that a tilde with the name of a user stands for. -/
def homeOf (user : String) : Act (Option String) := do
  match user with
  | "" => Act.valueOf "HOME"
  | "root" => return some "/root"
  | _ => return none

/-- Put home directories in the place of tildes at the start of a word and, in the value of a
variable, behind a colon. -/
def expandTildes (ofVariable : Bool) : Nat → Bool → Word → Act Word
  | 0, _, w => return w
  | fuel + 1, atStart, w =>
    match w with
    | [] => return []
    | .text ['~'] false :: rest => do
      let name := rest.takeWhile fun
        | .text [c] false => isNameChar c || c == '-' || c == '.'
        | _ => false
      let after := rest.drop name.length
      let user := String.ofList (name.flatMap fun
        | .text cs _ => cs
        | _ => [])
      let ends : Bool := match after with
        | [] => true
        | .text ['/'] _ :: _ => true
        | .text [':'] false :: _ => ofVariable
        | _ => false
      let home ← if atStart && ends then homeOf user else pure none
      match home with
      | some home => return .text home.toList true :: (← expandTildes ofVariable fuel false after)
      | none => return .text ['~'] false :: (← expandTildes ofVariable fuel false rest)
    | .text [':'] false :: rest =>
      return .text [':'] false :: (← expandTildes ofVariable fuel ofVariable rest)
    | p :: rest => return p :: (← expandTildes ofVariable fuel false rest)

/-- Whether a part is all the arguments in quotes. -/
def isAllArguments : Part → Bool
  | .param "@" .plain _ true => true
  | _ => false

/-- Marks of a word in which tildes have been dealt with. Quotes around all arguments give nothing
if there are none. -/
def expandParts (r : Interpreter) (w : Word) : Act (List Mark) := do
  let mut found : List (List Mark) := []
  for p in w do
    found := (← partMarks r p) :: found
  let marks := found.reverse.flatten
  let onlyPresence := marks.all fun
    | .presence => true
    | _ => false
  if onlyPresence && w.any isAllArguments && (← Act.process).args.isEmpty then return []
  return marks

/-- Marks of a word. -/
def expandWord (r : Interpreter) (w : Word) : Act (List Mark) := do
  expandParts r (← expandTildes false w.length true w)

/-! ### Whole words -/

/-- The fields of a word. -/
def fieldsOfWord (r : Interpreter) (w : Word) : Act (List String) := do
  let marks ← r.expand w
  let found := splitFields (← separators) marks
  let p ← Act.process
  let t := (← Act.world).files
  return if p.has 'f' then found.map plainText else found.flatMap (matchFiles t p.here)

/-- The fields of words. -/
def fieldsOf (r : Interpreter) (ws : List Word) : Act (List String) := do
  let mut fields : List (List String) := []
  for w in ws do
    fields := (← fieldsOfWord r w) :: fields
  return fields.reverse.flatten

/-- A word as one text. -/
def textOf (r : Interpreter) (w : Word) : Act String := do return marksText (← r.expand w)

/-- The value that an assignment gives. -/
def assignedText (r : Interpreter) (w : Word) : Act String := do
  return marksText (← expandParts r (← expandTildes true w.length true w))

/-- The parts of a word before and after its first equals sign, if a name stands before that. -/
def assignmentParts? (w : Word) : Option (Word × Word) :=
  let name := w.takeWhile fun
    | .text [c] false => c != '='
    | _ => false
  let text := name.flatMap fun
    | .text cs _ => cs
    | _ => []
  match text, w.drop name.length with
  | c :: cs, .text ['='] false :: value =>
    if isNameStart c && cs.all isNameChar then some (name ++ [.text ['='] false], value) else none
  | _, _ => none

/-- The fields of the arguments of a command that gives values to variables: what looks like an
assignment is expanded as one. -/
def assigningFieldsOf (r : Interpreter) (ws : List Word) : Act (List String) := do
  let mut fields : List (List String) := []
  for w in ws do
    match assignmentParts? w with
    | some (name, value) =>
      fields := [(← textOf r name) ++ (← assignedText r value)] :: fields
    | none => fields := (← fieldsOfWord r w) :: fields
  return fields.reverse.flatten

/-- The commands whose arguments can be assignments. -/
def assigningNames : List String := ["alias", "export", "local", "readonly"]

/-- The fields of the words of a command. -/
def fieldsOfCommand (r : Interpreter) : List Word → Act (List String)
  | [] => return []
  | w :: ws => do
    match ← fieldsOfWord r w with
    | [] => fieldsOfCommand r ws
    | ["command"] => return "command" :: (← fieldsOfCommand r ws)
    | name :: more =>
      let others ← if assigningNames.contains name then assigningFieldsOf r ws else fieldsOf r ws
      return name :: more ++ others

/-- A word as a pattern. -/
def patternOf (r : Interpreter) (w : Word) : Act (List Glyph) := do
  return marksPattern (← r.expand w)

end PatchTrial.Shell
