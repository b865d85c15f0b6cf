import PatchTrial.Settings

/-!
The arguments of the command line.

General options may stand before or after the name of the command, the others only after it. What
is given as an argument counts before what the environment says, and that before the default.
-/
namespace PatchTrial.CommandLine

def programName : String := "autotune"

def version : String := "0.1.0"

/-- What is to be done. -/
inductive Command where
  | probe
  | baseline (repo detection : String) (settings : Settings)
  | check (patch : String)
  | run (repo detection candidates : String) (settings : Settings) (reportDir : Option String)
  | report (runId reportDir : String)
  deriving DecidableEq

structure Invocation where
  verbose : Bool
  json : Bool
  config : Option String
  command : Command
  deriving DecidableEq

/-- What arguments come to. -/
inductive Parsed where
  | invocation (i : Invocation)
  | version
  | help
  /-- They make no sense. -/
  | misuse
  deriving DecidableEq

/-! ### Reading arguments -/

/-- A path, which must not be empty. -/
def path? (s : String) : Option String := if s.isEmpty then none else some s

/-- A number of attempts. -/
def budget? (s : String) : Option Nat :=
  let (negative, ds) := match s.toList with
    | '-' :: ds => (true, ds)
    | '+' :: ds => (false, ds)
    | ds => (false, ds)
  if ds.isEmpty || !ds.all Char.isDigit then none
  else
    let n := Nat.ofDigitChars 10 ds 0
    if (negative && n ≠ 0) || 0x100000000 ≤ n then none else some n

/-- Whether an option takes a value. -/
def accepts (option value : String) : Bool :=
  match option with
  | "mode" => (Mode.parse value).toOption.isSome
  | "max-attempts" => (budget? value).isSome
  | _ => (path? value).isSome

/-- The arguments of one level: before the name of the command, or after it. -/
structure Given where
  flags : List String := []
  values : List (String × String) := []
  operands : List String := []
  /-- The latest option and its value, if that has not been looked at. -/
  pending : Option (String × String) := none

/-- Why reading came to an end before the last argument. -/
inductive Break where
  | version
  | help
  | misuse
  deriving DecidableEq, Repr

/-- What a level of arguments admits. -/
structure Admits where
  /-- Options with a value. -/
  valued : List String
  /-- How many operands there may be. -/
  operands : Nat
  /-- Whether the version can be asked for. -/
  version : Bool

def generalFlags : List String := ["verbose", "json"]

/-- Note the value of an option, which must not be repeated. -/
def addValue (name value : String) (g : Given) : Except Break Given :=
  if (g.values.lookup name).isSome || !accepts name value then .error .misuse
  else .ok { g with values := (name, value) :: g.values }

/-- Look at the value that was put off. -/
def settle (g : Given) : Except Break Given :=
  match g.pending with
  | none => .ok g
  | some (name, value) => addValue name value { g with pending := none }

/-- Note a flag, which must not be repeated. -/
def addFlag (name : String) (g : Given) : Except Break Given := do
  let g ← settle g
  if g.flags.contains name then .error .misuse else .ok { g with flags := name :: g.flags }

/-- Note an operand, if there may be one more. -/
def addOperand (admits : Admits) (g : Given) (arg : String) : Except Break Given := do
  let g ← settle g
  if g.operands.length < admits.operands then .ok { g with operands := g.operands ++ [arg] }
  else .error .misuse

/-- End with what was asked for, unless a value before that makes no sense. -/
def stop {α : Type} (g : Given) (b : Break) : Except Break α := do
  let _ ← settle g
  .error b

/-- Read flags of one letter each. -/
def readShort (admits : Admits) (g : Given) : List Char → Except Break Given
  | [] => .ok g
  | 'v' :: cs => do readShort admits (← addFlag "verbose" g) cs
  | 'h' :: _ => stop g .help
  | 'V' :: _ => stop g (if admits.version then .version else .misuse)
  | _ => .error .misuse

/-- Whether an argument can be the value of the option before it. -/
def canBeValue (arg : String) : Bool := arg = "-" || !arg.startsWith "-"

/-- Read the arguments of one level. With `command` the first operand is the name of a command and
ends the level; the answer then has the arguments from that name on, and a value before it may be
left to be looked at. -/
def readLevel (admits : Admits) (command : Bool) : Given → List String →
    Except Break (Given × List String)
  | g, [] => do return (← settle g, [])
  | g, arg :: rest =>
    if arg = "--" then
      if command then .error .misuse
      else do return (← settle (← rest.foldlM (addOperand admits) g), [])
    else
      match arg.toList with
      | '-' :: '-' :: long =>
        let name := String.ofList (long.takeWhile (· != '='))
        let attached := match long.dropWhile (· != '=') with
          | _ :: value => some (String.ofList value)
          | [] => none
        if admits.valued.contains name then
          match attached, rest with
          | some value, rest => do
            readLevel admits command (← addValue name value (← settle g)) rest
          | none, value :: rest =>
            if canBeValue value then do
              readLevel admits command { ← settle g with pending := some (name, value) } rest
            else .error .misuse
          | none, [] => .error .misuse
        else if attached.isSome then .error .misuse
        else if generalFlags.contains name then do
          readLevel admits command (← addFlag name g) rest
        else if name = "help" then stop g .help
        else if name = "version" && admits.version then stop g .version
        else .error .misuse
      | '-' :: c :: cs => do readLevel admits command (← readShort admits g (c :: cs)) rest
      | _ =>
        if command then .ok (g, arg :: rest)
        else do readLevel admits command (← addOperand admits g arg) rest
  termination_by _ args => args.length

/-- The options of a command, besides the general ones, and its operands. -/
def admitted? (command : String) : Option Admits :=
  let strategy := ["mode", "max-attempts"]
  match command with
  | "probe" => some ⟨["config"], 0, false⟩
  | "baseline" => some ⟨["config", "repo", "detection"] ++ strategy, 0, false⟩
  | "check" => some ⟨["config", "patch"], 0, false⟩
  | "run" =>
    some ⟨["config", "repo", "detection", "candidates", "report-dir"] ++ strategy, 0, false⟩
  | "report" => some ⟨["config", "report-dir"], 1, false⟩
  | _ => none

/-! ### Values -/

/-- The value of an option, as it was given or as the environment or the default has it. -/
def valueOf? {α : Type} (g : Given) (environment : List (String × String)) (name : String)
    (variable_ : Option String) (read : String → Option α) (default : Option α) : Option α :=
  match (g.values.lookup name).or (variable_.bind fun v => environment.lookup v) with
  | some text => read text
  | none => default

def modeVariable : String := "AUTOTUNE_MODE"
def budgetVariable : String := "AUTOTUNE_MAX_ATTEMPTS"
def configVariable : String := "AUTOTUNE_CONFIG"

def settings? (g : Given) (environment : List (String × String)) : Option Settings := do
  let mode ← valueOf? g environment "mode" (some modeVariable)
    (fun s => (Mode.parse s).toOption) (some .adaptive)
  let budget ← valueOf? g environment "max-attempts" (some budgetVariable) budget?
    (some attemptCap)
  return .clamped mode budget

/-- The command of a name with its options. -/
def command? (name : String) (g : Given) (environment : List (String × String)) :
    Option Command := do
  let path (option : String) (default : Option String) : Option String :=
    valueOf? g environment option none path? default
  match name with
  | "probe" => return .probe
  | "baseline" =>
    return .baseline (← path "repo" (some ".")) (← path "detection" none)
      (← settings? g environment)
  | "check" => return .check (← path "patch" none)
  | "run" =>
    let reportDir ← match g.values.lookup "report-dir" with
      | some dir => some <$> path? dir
      | none => some none
    return .run (← path "repo" (some ".")) (← path "detection" none) (← path "candidates" none)
      (← settings? g environment) reportDir
  | "report" => return .report (← g.operands.head?) (← path "report-dir" (some ".autotune/runs"))
  | _ => none

/-- The configuration file: named after the command, before it, or by the environment. Wherever it
can be named and is not, the environment has to name one that makes sense or none. -/
def config? (before after : Given) (environment : List (String × String)) :
    Option (Option String) := do
  let level (g : Given) : Option (Option String) :=
    match (g.values.lookup "config").or (environment.lookup configVariable) with
    | some text => (path? text).map some
    | none => some none
  let outer ← level before
  let inner ← level after
  match after.values.lookup "config", before.values.lookup "config" with
  | some _, _ => return inner
  | none, some _ => return outer
  | none, none => return inner

/-- Whether help can be given on what these arguments name. -/
def isTopic : List String → Bool
  | [] => true
  | [name] => name = "help" || (admitted? name).isSome
  | _ => false

/-- What arguments come to. -/
def parse (args : List String) (environment : List (String × String)) : Parsed :=
  let read : Except Break Invocation := do
    match ← readLevel ⟨["config"], 0, true⟩ true {} args with
    | (_, []) => throw .misuse
    | (before, name :: rest) =>
      if name = "help" then throw (if isTopic rest then .help else .misuse)
      match admitted? name with
      | none => throw .misuse
      | some admits =>
        let (after, _) ← readLevel admits false {} rest
        let before ← settle before
        match command? name after environment, config? before after environment with
        | some command, some config =>
          let flag (f : String) : Bool := before.flags.contains f || after.flags.contains f
          return ⟨flag "verbose", flag "json", config, command⟩
        | _, _ => throw .misuse
  match read with
  | .ok i => .invocation i
  | .error .version => .version
  | .error .help => .help
  | .error .misuse => .misuse

end PatchTrial.CommandLine
