import PatchTrial.Shell.Builtin.Basic

/-!
Commands that leave loops, functions and the shell, and those that set its flags and arguments.
-/
namespace PatchTrial.Shell.Builtin

def exit (args : List String) : Act Nat := do
  match args with
  | [] => throw (.exit (← Act.process).status)
  | arg :: _ => do
    let n ← numberArgument "exit" arg
    throw (.exit (n % 256))

def return_ (args : List String) : Act Nat := do
  match args with
  | [] => throw (.returned (← Act.process).status)
  | arg :: _ => do throw (.returned (← numberArgument "return" arg))

/-- Leave loops, or go on with the next round of one; without a loop nothing happens. -/
def leaveLoop (name : String) (stop : Nat → Stop) (args : List String) : Act Nat := do
  let n ← match args with
    | [] => pure 1
    | arg :: _ => numberArgument name arg
  if n = 0 then fatalAs name "Illegal number: 0"
  let loops := (← Act.process).loops
  if loops = 0 then return 0
  throw (stop (min n loops))

def shift (args : List String) : Act Nat := do
  let n ← match args with
    | [] => pure 1
    | arg :: _ => numberArgument "shift" arg
  if (← Act.process).args.length < n then fatalAs "shift" "can't shift that many"
  Act.modifyProcess fun p =>
    { p with args := p.args.drop n, nextOption := 1, lettersRead := 0 }
  return 0

/-! ### Flags and arguments -/

/-- List the variables that are set, by their names. -/
def listVariables : Act Nat := do
  let set := (← Act.process).bindings.filterMap fun (n, v) => v.value.map (n, ·)
  for (n, v) in set.mergeSort fun a b => decide (a.1 ≤ b.1) do
    Act.print (assignmentText n (some v) ++ "\n")
  return 0

/-- All flags with their names; those at the end have no letters and are never set. -/
def listedFlags (p : Process) : List (String × Bool) :=
  (flagNames.map fun (name, c) => (name, p.has c)) ++ [("nolog", false), ("debug", false)]

/-- List the flags, as a table or as commands that set them. -/
def listFlags (asTable : Bool) : Act Nat := do
  let p ← Act.process
  if asTable then Act.print "Current option settings\n"
  for (name, on) in listedFlags p do
    if asTable then
      Act.print (Tools.left 16 name ++ (if on then "on" else "off") ++ "\n")
    else
      let sign := if on then "-" else "+"
      Act.print s!"set {sign}o {name}\n"
  return 0

/-- Set flags and arguments of the shell. -/
def setAll : Nat → List String → Act Nat
  | 0, _ => return 0
  | _ + 1, [] => return 0
  | fuel + 1, arg :: rest => do
    let replaceArgs (args : List String) : Act Nat := do
      Act.modifyProcess fun p => { p with args := args, nextOption := 1, lettersRead := 0 }
      return 0
    let flags (on : Bool) (letters : List Char) (rest : List String) : Act Nat := do
      match setFlags? on letters (← Act.process) with
      | some p =>
        Act.modifyProcess fun _ => p
        controlJobs (Act.complainAs "set")
        if rest.isEmpty then return 0 else setAll fuel rest
      | none =>
        let bad := (letters.find? fun c => !flagLetters.contains c).getD ' '
        let sign := if on then "-" else "+"
        fatalAs "set" s!"Illegal option {sign}{bad}"
    match arg.toList with
    | ['-', '-'] => replaceArgs rest
    | ['-'] =>
      Act.modifyProcess fun p => { p with flags := p.flags.filter fun c => c != 'x' && c != 'v' }
      if rest.isEmpty then return 0 else replaceArgs rest
    | ['+'] => if rest.isEmpty then return 0 else replaceArgs rest
    | sign :: letters =>
      if sign = '-' || sign = '+' then
        if letters.getLast? = some 'o' then
          match rest with
          | [] => do
            let s ← if letters.length = 1 then pure 0 else flags (sign == '-') letters.dropLast []
            if s ≠ 0 then return s
            listFlags (sign == '-')
          | name :: rest =>
            match flagNames.lookup name with
            | some c => flags (sign == '-') (letters.dropLast ++ [c]) rest
            | none => fatalAs "set" s!"Illegal option -o {name}"
        else flags (sign == '-') letters rest
      else replaceArgs (arg :: rest)
    | [] => replaceArgs (arg :: rest)

def set (args : List String) : Act Nat :=
  if args.isEmpty then listVariables else setAll (args.length + 1) args

end PatchTrial.Shell.Builtin
