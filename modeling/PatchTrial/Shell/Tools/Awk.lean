import PatchTrial.Shell.Tools.Awk.Run

/-!
The tool that runs programs on records.
-/
namespace PatchTrial.Shell.Tools

namespace Awk

/-- What is given before the operands. -/
structure Call where
  separator : Option String := none
  assignments : List (String × String) := []
  files : List String := []
  operands : List String := []

inductive CallFault where
  | lacksArgument (letter : Char)
  | unknown (text : String)
  | improperAssignment (text : String)

def CallFault.message : CallFault → String
  | .lacksArgument c => s!"option -{c} lacks argument"
  | .unknown text => s!"not an option: {text}"
  | .improperAssignment text => s!"improper assignment: -v {text}"

/-- Read the options; the first operand ends them. -/
def Call.read : Nat → Call → List String → Except CallFault Call
  | 0, c, args => .ok { c with operands := args }
  | _ + 1, c, [] => .ok c
  | _ + 1, c, "--" :: rest => .ok { c with operands := rest }
  | fuel + 1, c, arg :: rest =>
    match arg.toList with
    | '-' :: letter :: attached => do
      if !(['F', 'v', 'f', 'W'].contains letter) then throw (.unknown arg)
      let (value, rest) ← match attached, rest with
        | [], [] => throw (.lacksArgument letter)
        | [], value :: rest => pure (value, rest)
        | attached, rest => pure (String.ofList attached, rest)
      match letter with
      | 'F' => read fuel { c with separator := some value } rest
      | 'f' => read fuel { c with files := c.files ++ [value] } rest
      | 'v' =>
        match assignment? value with
        | some a => read fuel { c with assignments := c.assignments ++ [a] } rest
        | none => throw (.improperAssignment value)
      | _ => read fuel c rest
    | _ => .ok { c with operands := arg :: rest }

/-- The variables that a program starts with. -/
def firstGlobals (environment : List (String × String)) (arguments : List String) :
    List (String × Cell) × Array Table :=
  let texts : List (String × String) := [("FS", " "), ("OFS", " "), ("ORS", "\n"), ("RS", "\n"),
    ("CONVFMT", "%.6g"), ("OFMT", "%.6g"), ("SUBSEP", String.singleton (Char.ofNat 28)),
    ("FILENAME", "")]
  let numbers : List (String × Nat) := [("NR", 0), ("FNR", 0), ("RSTART", 0),
    ("ARGC", arguments.length)]
  let argv := (List.range arguments.length).zip arguments |>.foldl
    (fun (t : Table) (i, a) => t.insert (.number i) (outside a)) {}
  let env := environment.foldl (fun (t : Table) (n, v) => t.insert (.text n) (outside v)) {}
  (texts.map (fun (n, s) => (n, .scalar (.text s))) ++
    numbers.map (fun (n, k) => (n, .scalar (.ofNat k))) ++
    [("RLENGTH", .scalar (.number (-1))), ("ARGV", .table 0), ("ENVIRON", .table 1)], #[argv, env])

/-- The text of a program: what is in its files, or the first operand. -/
def programText (files : List String) : Act (Except String String) := do
  let mut out := ""
  for path in files do
    match ← contentOf path with
    | .error e => return .error s!"cannot open \"{path}\" ({e.words})"
    | .ok text => out := out ++ String.ofList text
  return .ok out

end Awk

def awk (start : Starter) : Tool := fun args => do
  match Awk.Call.read (args.length + 1) {} args with
  | .error f =>
    warnAs "awk" f.message
    return 2
  | .ok call =>
    let source ← match call.files, call.operands with
      | [], [] => do
        warnAs "awk" "usage: awk [Options] [Program] [file ...]"
        return 2
      | [], text :: rest => pure (.ok (text, rest, ""))
      | files, rest => do
        let file := files.getLastD ""
        let lead := s!"{file}: "
        pure ((← Awk.programText files).map fun text => (text, rest, lead))
    match source with
    | .error text =>
      warnAs "awk" text
      return 2
    | .ok (text, operands, lead) =>
      match Awk.readProgram text with
      | .error (f, line) =>
        let message := f.message
        match f with
        | .badCharacter _ => warnAs "awk" s!"{line}: {message}"
        | _ => warnAs "awk" s!"{lead}line {line}: {message}"
        return 2
      | .ok program =>
        let (globals, tables) :=
          Awk.firstGlobals (← Act.process).environment ("awk" :: operands)
        let given := call.assignments ++
          (call.separator.map fun s => ("FS", Awk.unescaped s)).toList
        let globals := given.reverse.map (fun (n, v) => (n, .scalar (Awk.outside v))) ++ globals
        Awk.run ⟨program, start⟩ {
          globals := globals
          tables := tables
          ranges := program.rules.map fun _ => false }

end PatchTrial.Shell.Tools
