import PatchTrial.Step
import PatchTrial.Text.Basic

/-!
What is known about a repository before any step is run.

A detection names the language, the package manager and the commands of the pipeline. Every part
may be missing; a language that is not known by name is `unknown`.
-/
namespace PatchTrial

inductive Language where
  | node
  | python
  | go
  | jvm
  | ruby
  | rust
  | cpp
  | unknown
  deriving DecidableEq, Repr, Inhabited

namespace Language

def name : Language → String
  | .node => "node"
  | .python => "python"
  | .go => "go"
  | .jvm => "jvm"
  | .ruby => "ruby"
  | .rust => "rust"
  | .cpp => "cpp"
  | .unknown => "unknown"

def all : List Language := [.node, .python, .go, .jvm, .ruby, .rust, .cpp, .unknown]

def ofName (s : String) : Language := (all.find? (·.name = s)).getD .unknown

def ofJson? : Json → Option Language := Json.name? (some ∘ ofName)

def toJson (l : Language) : Json := .string l.name

end Language

structure Detection where
  language : Language := .unknown
  packageManager : Option String := none
  commands : PerStep (Option String) := .const none
  framework : Option String := none
  confidence : Float32 := 0
  evidence : List String := []
  deriving BEq

namespace Detection

instance : Inhabited Detection := ⟨{}⟩

/-- Whether the package manager is `name`, ASCII case apart. -/
def uses (d : Detection) (name : String) : Bool :=
  match d.packageManager with
  | none => false
  | some pm => Text.asciiLower pm.toList == Text.asciiLower name.toList

/-- The field that holds the command of a step. -/
def commandField (s : Step) : String := s.name ++ "_cmd"

def fieldNames : List String :=
  ["language", "package_manager"] ++ Step.all.map commandField ++
    ["framework", "confidence", "evidence"]

def ofJson? (j : Json) : Option Detection := do
  let r ← j.record? fieldNames
  let command (s : Step) := r.optional (commandField s) Json.string?
  return {
    language := ← r.withDefault "language" Language.ofJson? .unknown
    packageManager := ← r.optional "package_manager" Json.string?
    commands := {
      install := ← command .install
      build := ← command .build
      typecheck := ← command .typecheck
      test := ← command .test
      bench := ← command .bench }
    framework := ← r.optional "framework" Json.string?
    confidence := ← r.withDefault "confidence" Json.float32? 0
    evidence := ← r.withDefault "evidence" (Json.list? Json.string?) [] }

def toJson (d : Detection) : Json :=
  .object ([("language", d.language.toJson),
      ("package_manager", Json.orNull .string d.packageManager)] ++
    Step.all.map (fun s => (commandField s, Json.orNull .string (d.commands.get s))) ++
    [("framework", Json.orNull .string d.framework),
      ("confidence", Json.single d.confidence),
      ("evidence", Json.strings d.evidence)])

end Detection

end PatchTrial
