import PatchTrial.Remedy.Compiled

/-!
Revising a plan after a failure.

The ecosystem of the detected language supplies the remedy. A reason that was answered before on
the way to a plan is not answered again, and a remedy that would run the same commands in the same
environment is none. Languages can be given other ecosystems in a registry.
-/
namespace PatchTrial

inductive Ecosystem where
  | node
  | python
  | go
  | jvm
  | ruby
  | rust
  | cpp
  /-- Has no remedies. -/
  | generic
  deriving DecidableEq, Repr, Inhabited

namespace Ecosystem

def name : Ecosystem → String
  | .node => "node"
  | .python => "python"
  | .go => "go"
  | .jvm => "jvm"
  | .ruby => "ruby"
  | .rust => "rust"
  | .cpp => "cpp"
  | .generic => "generic"

def all : List Ecosystem := [.node, .python, .go, .jvm, .ruby, .rust, .cpp, .generic]

def ofJson? : Json → Option Ecosystem := Json.name? fun s => all.find? (·.name = s)

def toJson (e : Ecosystem) : Json := .string e.name

/-- The ecosystem that a language belongs to. -/
def ofLanguage : Language → Ecosystem
  | .node => .node
  | .python => .python
  | .go => .go
  | .jvm => .jvm
  | .ruby => .ruby
  | .rust => .rust
  | .cpp => .cpp
  | .unknown => .generic

/-- The plan of the first attempt. -/
def strictPlan (_ : Ecosystem) (d : Detection) : Plan := .ofDetection d .strict

/-- The remedy for a reason, applied to a revised plan. -/
def remedy? (e : Ecosystem) (d : Detection) (p : Plan) (r : Reason) : Option Remedy.Remedied :=
  match e with
  | .node => Remedy.node? d p r
  | .python => Remedy.python? d p r
  | .go => Remedy.go? p r
  | .jvm => Remedy.jvm? p r
  | .ruby => Remedy.ruby? p r
  | .rust => Remedy.rust? p r
  | .cpp => Remedy.cpp? p r
  | .generic => none

/-- What a revised plan says about itself, its keys in ascending order. -/
def revisionNotes (e : Ecosystem) (previous : Plan) (f : Failure) (remedy : String) : Json :=
  .object [
    ("adapter", .string e.name),
    ("failed_step", .string f.step),
    ("previous_attempt", Json.nat previous.attempt.toNat),
    ("reason", .string f.reason.name),
    ("remediation", .string remedy),
    ("remediations", Json.strings (previous.appliedRemediations ++ [f.reason.name]))]

/-- The plan of the next attempt after a failure, if there is something new to try. -/
def revisedPlan? (e : Ecosystem) (d : Detection) (previous : Plan) (f : Failure) : Option Plan :=
  if previous.appliedRemediations.contains f.reason.name then none
  else
    match e.remedy? d previous.revise f.reason with
    | none => none
    | some (p, remedy) =>
      if p.sameExecution previous then none
      else some { p with metadata := e.revisionNotes previous f remedy }

end Ecosystem

/-- The ecosystems of the languages; a language without one has none of the remedies. -/
structure Registry where
  ecosystems : Language → Option Ecosystem

namespace Registry

def empty : Registry := ⟨fun _ => none⟩

/-- Every known language with its own ecosystem. -/
def standard : Registry :=
  ⟨fun l => if l = .unknown then none else some (.ofLanguage l)⟩

instance : Inhabited Registry := ⟨standard⟩

def register (r : Registry) (l : Language) (e : Ecosystem) : Registry :=
  ⟨fun l' => if l' = l then some e else r.ecosystems l'⟩

def ecosystemFor (r : Registry) (l : Language) : Ecosystem := (r.ecosystems l).getD .generic

end Registry

end PatchTrial
