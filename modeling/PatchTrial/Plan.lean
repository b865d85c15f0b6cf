import PatchTrial.Detection
import PatchTrial.Settings

/-!
The commands of one attempt.

A plan holds a command for some of the steps and environment variables per step. A revised plan
is a copy with the next attempt number; its metadata says what was changed and why, and which
failure reasons have been answered so far.
-/
namespace PatchTrial

/-- Environment variables by name. -/
abbrev Env := SortedMap String

structure Plan where
  attempt : UInt32
  mode : Mode
  commands : PerStep (Option String)
  env : PerStep (Option Env)
  metadata : Json
  deriving BEq

namespace Plan

/-- A command without the blanks around it, if anything is left. -/
def meaningful (command : Option String) : Option String :=
  (command.map trimmed).filter fun c => !c.isEmpty

/-- The plan of the first attempt: the detected commands as they are. -/
def ofDetection (d : Detection) (mode : Mode) : Plan where
  attempt := 1
  mode := mode
  commands := d.commands.map meaningful
  env := .const none
  metadata := .object [("source", .string "detection")]

/-- The plan of the next attempt, before anything is changed. -/
def revise (p : Plan) : Plan :=
  { p with attempt := p.attempt + 1, mode := .adaptive, metadata := .null }

/-- The command of a step. A blank command is none. -/
def command (p : Plan) (s : Step) : Option String :=
  (p.commands.get s).filter fun c => !isBlankText c

def setCommand (p : Plan) (s : Step) (c : Option String) : Plan :=
  { p with commands := p.commands.set s c }

def envFor (p : Plan) (s : Step) : Option Env := p.env.get s

def setEnv (p : Plan) (s : Step) (key value : String) : Plan :=
  { p with env := p.env.set s (some (((p.env.get s).getD .empty).insert key value)) }

/-- The steps among `steps` that have a command. -/
def runnable (p : Plan) (steps : List Step) : List Step :=
  steps.filter fun s => (p.command s).isSome

/-- Whether two plans run the same commands with the same environment. -/
def sameExecution (p q : Plan) : Bool :=
  Step.all.all (fun s => p.command s = q.command s) && p.env = q.env

/-- The failure reasons answered on the way to this plan. -/
def appliedRemediations (p : Plan) : List String :=
  match p.metadata.field? "remediations" with
  | some (.array items) => items.filterMap Json.string?
  | _ => []

def commandFields (p : Plan) : List (String × Json) :=
  Step.all.map fun s => (Detection.commandField s, Json.orNull .string (p.commands.get s))

def envJson (e : Env) : Json := .object (e.entries.map fun (k, v) => (k, .string v))

/-- Environments by step. -/
def envTable (t : PerStep (Option Env)) : Json :=
  .object (Step.all.filterMap fun s => (t.get s).map fun e => (s.name, envJson e))

def toJson (p : Plan) : Json :=
  .object ([("attempt", Json.nat p.attempt.toNat), ("mode", p.mode.toJson)] ++ p.commandFields ++
    [("env", envTable p.env), ("metadata", p.metadata)])

/-- Read environments by step, the last one given for a step counting. -/
def envTable? : Json → Option (PerStep (Option Env))
  | .object fields =>
    fields.foldlM (fun (t : PerStep (Option Env)) (k, j) => do
      return t.set (← Step.ofName? k) (some (← Json.sortedMap? Json.string? j))) (.const none)
  | _ => none

def ofJson? (j : Json) : Option Plan := do
  let r ← j.record? (["attempt", "mode"] ++ Step.all.map Detection.commandField ++
    ["env", "metadata"])
  let command (s : Step) := r.nullable (Detection.commandField s) Json.string?
  return {
    attempt := ← r.required "attempt" Json.uint32?
    mode := ← r.required "mode" Mode.ofJson?
    commands := {
      install := ← command .install
      build := ← command .build
      typecheck := ← command .typecheck
      test := ← command .test
      bench := ← command .bench }
    env := ← r.withDefault "env" envTable? (.const none)
    metadata := ← r.withDefault "metadata"
      (fun j => if j.isUsable then some j.canonical else none) .null }

end Plan

end PatchTrial
