import PatchTrial.Shell.Builtin.Basic
import PatchTrial.Shell.Fields

/-!
Commands that set variables: those that mark them, and those that read lines and arguments.
-/
namespace PatchTrial.Shell.Builtin

/-- Mark variables, and give them values where there are some. Without names those that are marked
are listed. -/
def markVariables (command : String) (mark : Variable → Variable) (isMarked : Variable → Bool)
    (args : List String) : Act Nat :=
  withFlags command "p" args fun f => do
    if f.has 'p' || f.operands.isEmpty then
      let marked := (← Act.process).bindings.filter fun x => isMarked x.2
      for (n, v) in marked.mergeSort fun a b => decide (a.1 ≤ b.1) do
        Act.print s!"{command} {assignmentText n v.value}\n"
    else
      for arg in f.operands do
        let (name, value) := assignmentOf arg
        requireName name
        if let some v := value then Act.assign name v
        let old := ((← Act.process).bindings.lookup name).getD { value := none }
        Act.setVariable name (mark old)
    return 0

def export_ : List String → Act Nat :=
  markVariables "export" (fun v => { v with exported := true }) (·.exported)

def readonly : List String → Act Nat :=
  markVariables "readonly" (fun v => { v with readOnly := true }) (·.readOnly)

def unset (args : List String) : Act Nat :=
  withFlags "unset" "vf" args fun f => do
    for name in f.operands do
      if (f.given.getLast?.map (·.1)) = some 'f' then
        Act.modifyProcess fun p => { p with functions := p.functions.filter (·.1 != name) }
      else
        requireName name
        if ((← Act.process).bindings.lookup name).any (·.readOnly) then
          fatal s!"{name}: is read only"
        Act.restoreVariable name none
    return 0

/-- Make variables, or the flags, a function's own. -/
def local_ (args : List String) : Act Nat := do
  match (← Act.process).locals with
  | none => fatalAs "local" "not in a function"
  | some _ =>
    for arg in args do
      if arg = "-" then
        Act.modifyProcess fun p => { p with localFlags := some (p.localFlags.getD p.flags) }
      else
        let (name, value) := assignmentOf arg
        requireName name
        let old := (← Act.process).bindings.lookup name
        Act.modifyProcess fun p => { p with locals := p.locals.map ((name, old) :: ·) }
        if let some v := value then Act.assign name v
    return 0

/-! ### Reading lines -/

/-- The characters of a line, those that were protected by a backslash marked as quoted. -/
def protectedChars : List Char → List Glyph
  | '\\' :: c :: cs => (c, true) :: protectedChars cs
  | ['\\'] => []
  | c :: cs => (c, false) :: protectedChars cs
  | [] => []

/-- A line that is being shared out among variables. -/
structure Sharing where
  done : List (List Char) := []
  /-- The field that is being read, the latest character first. -/
  field : List Char := []
  /-- Whether white space has just been passed over. -/
  white : Bool := false
  /-- How many fields may still be ended. -/
  left : Nat
  /-- How long the field is without what may have to be cut off at its end. -/
  cut : Option Nat := none

namespace Sharing

/-- Go on with a character. -/
def add (separators : List Char) (s : Sharing) (g : Glyph) : Sharing :=
  let (c, isProtected) := g
  let separates := separators.contains c
  let white := separates && Fields.isWhite c
  let taken := { s with field := c :: s.field }
  if isProtected then { taken with white := false }
  else if s.left = 0 then
    if white then { taken with cut := some (s.cut.getD s.field.length) }
    else { taken with cut := if separates && s.white then s.cut else none, white := false }
  else if s.white && separates then { s with field := [], white := white }
  else if separates then
    if s.field.isEmpty && white then { s with white := true }
    else if s.left = 1 then
      { taken with left := 0, cut := some s.field.length, white := white }
    else
      let done := s.done ++ [s.field.reverse]
      { s with done := done, field := [], left := s.left - 1, white := white }
  else { taken with white := false }

/-- The values for the variables. -/
def values (s : Sharing) : List String :=
  let last := match s.cut with
    | some n => s.field.reverse.take n
    | none => s.field.reverse
  (s.done ++ (if last.isEmpty then [] else [last])).map String.ofList

end Sharing

/-- A line, with the ones behind it that backslashes join to it. -/
def readJoined (raw : Bool) : Nat → List Char → Act (List Char × Bool)
  | 0, sofar => return (sofar, true)
  | fuel + 1, sofar => do
    let (line, ended) ← Act.readLine 0
    let line := line.filter (· != Char.ofNat 0)
    let backslashes := (line.reverse.takeWhile (· == '\\')).length
    if !raw && ended && backslashes % 2 = 1 then
      readJoined raw fuel (sofar ++ line.dropLast)
    else return (sofar ++ line, ended)

def read (args : List String) : Act Nat :=
  withFlags "read" "p:r" args fun f => do
    if f.operands.isEmpty then fatalAs "read" "arg count"
    let raw := f.has 'r'
    let (line, ended) ← readJoined raw ((← Act.peek 0).length + 1) []
    let glyphs := if raw then line.map (·, false) else protectedChars line
    let shared := glyphs.foldl (Sharing.add (← separators)) { left := f.operands.length }
    let values := shared.values
    for (name, i) in f.operands.zipIdx do
      assignNamed name (values.getD i "")
    return if ended then 0 else 1

/-! ### Reading options -/

/-- Read the next option of arguments into a variable. -/
def nextOption (letters name : String) (args : List String) : Act Nat := do
  let p ← Act.process
  let index := p.nextOption
  let current := if 2 ≤ index then args[index - 2]? else none
  let rest : List Char := match current with
    | some arg => if 0 < p.lettersRead then arg.toList.drop p.lettersRead else []
    | none => []
  let finish (index lettersRead : Nat) (value : String) (status : Nat) : Act Nat := do
    Act.assign "OPTIND" (toString index)
    assignNamed name value
    Act.modifyProcess fun p => { p with nextOption := index, lettersRead := lettersRead }
    return status
  let quiet := letters.startsWith ":"
  /- The letters at hand, and the argument that comes after them. -/
  let found : Option (List Char × Nat) := match rest with
    | _ :: _ => some (rest, index)
    | [] =>
      match (args[index - 1]?).map String.toList with
      | some ['-', '-'] => none
      | some ('-' :: c :: cs) => some (c :: cs, index + 1)
      | _ => none
  match found with
  | none =>
    let skips := rest.isEmpty && args[index - 1]? = some "--"
    finish (if skips then index + 1 else index) 0 "?" 1
  | some ([], _) => finish index 0 "?" 1
  | some (c :: cs, index) =>
    let lettersRead := ((args[index - 2]?).getD "").length - cs.length
    let here := if cs.isEmpty then 0 else lettersRead
    let form := (letters.toList.dropWhile (· == ':')).dropWhile (· != c)
    let known := c != ':' && !form.isEmpty
    if !known then
      if quiet then assignNamed "OPTARG" (String.singleton c)
      else
        Act.warn s!"Illegal option -{c}"
        Act.restoreVariable "OPTARG" none
      finish index here "?" 0
    else if form[1]? = some ':' then
      if !cs.isEmpty then
        assignNamed "OPTARG" (String.ofList cs)
        finish index 0 (String.singleton c) 0
      else
        match args[index - 1]? with
        | some value =>
          assignNamed "OPTARG" value
          finish (index + 1) 0 (String.singleton c) 0
        | none =>
          if quiet then
            assignNamed "OPTARG" (String.singleton c)
            finish index 0 ":" 0
          else
            Act.warn s!"No arg for -{c} option"
            Act.restoreVariable "OPTARG" none
            finish index 0 "?" 0
    else
      assignNamed "OPTARG" ""
      finish index here (String.singleton c) 0

def getopts (args : List String) : Act Nat := do
  match args with
  | letters :: name :: rest =>
    let own := (← Act.process).args
    let args := if rest.isEmpty then own else rest
    if args.length + 1 < (← Act.process).nextOption then
      Act.modifyProcess fun p => { p with nextOption := 1, lettersRead := 0 }
    nextOption letters name args
  | _ => fatalAs "getopts" "Usage: getopts optstring var [arg...]"

end PatchTrial.Shell.Builtin
