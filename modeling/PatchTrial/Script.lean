import PatchTrial.Host

/-!
A machine that answers from a script.

The script lists what each call will give, in order. When the list of a kind of call is used up,
running steps gives a run of nothing, and applying a diff or taking it back succeeds.
-/
namespace PatchTrial

/-- What a call to run steps gives, and whether the run is cancelled meanwhile. -/
structure ScriptedRun where
  cancels : Bool
  outcome : Except Panic (PipelineRun Float)

structure Script where
  runs : List ScriptedRun := []
  applies : List (Option (PatchDirection → PatchError)) := []
  reverts : List (Option (PatchDirection → PatchError)) := []

namespace Script

def executor : Executor Script where
  runSteps _ _ _ s :=
    match s.runs with
    | [] => ⟨.ok .nothing, [], false, s⟩
    | r :: rest => ⟨r.outcome, [], r.cancels, { s with runs := rest }⟩

/-- The result that a script lists for a call. -/
def answer (d : PatchDirection) : Option (PatchDirection → PatchError) → Except PatchError Unit
  | none => .ok ()
  | some e => .error (e d)

def applicator : Applicator Script where
  patch d _ s :=
    match d with
    | .apply => ⟨answer d s.applies.head?.join, false, { s with applies := s.applies.tail }⟩
    | .revert => ⟨answer d s.reverts.head?.join, false, { s with reverts := s.reverts.tail }⟩

def host : Host Script := ⟨executor, fun s => (.ok applicator, s)⟩

end Script

end PatchTrial
