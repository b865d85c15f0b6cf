import PatchTrial.Course
import PatchTrial.Patch.Basic

/-!
What a run needs of the machine that it works on.

An executor runs steps, an applicator changes the working tree by a diff or takes a diff back.
Both act on a state that stands for the working tree and all else on the machine. A run is
cancelled from outside, which may happen during any of their calls.
-/
namespace PatchTrial

/-- What came of running steps. -/
structure Ran (σ : Type) where
  outcome : Except Panic (PipelineRun Float)
  events : List Event
  /-- Whether the run was cancelled in the meantime. -/
  cancels : Bool
  after : σ

structure Executor (σ : Type) where
  /-- Run the steps that a plan has commands for, given whether the run is already cancelled. -/
  runSteps : Plan → List Step → Bool → σ → Ran σ

namespace Executor

variable {σ : Type}

/-- Run steps and keep a journal of it. -/
def run (x : Executor σ) (plan : Plan) (steps : List Step) (cancelled : Bool) (s : σ) :
    Course σ (PipelineRun Float) :=
  let r := x.runSteps plan steps cancelled s
  ⟨r.outcome, .ran plan steps :: r.events.map .event, cancelled || r.cancels, r.after⟩

end Executor

/-- What came of applying a diff or taking it back. -/
structure Patched (σ : Type) where
  answer : Except PatchError Unit
  /-- Whether the run was cancelled in the meantime. -/
  cancels : Bool
  after : σ

structure Applicator (σ : Type) where
  patch : PatchDirection → String → σ → Patched σ

/-! ### Parts of a state -/

/-- A part of a state that can be looked at and replaced. -/
structure StatePart (τ σ : Type) where
  get : τ → σ
  set : σ → τ → τ

namespace StatePart

variable {σ τ : Type}

def first : StatePart (σ × τ) σ := ⟨Prod.fst, fun s t => (s, t.2)⟩

def second : StatePart (σ × τ) τ := ⟨Prod.snd, fun s t => (t.1, s)⟩

/-- The executor that works on a part of the state. -/
def executor (part : StatePart τ σ) (x : Executor σ) : Executor τ :=
  ⟨fun plan steps cancelled t =>
    let r := x.runSteps plan steps cancelled (part.get t)
    ⟨r.outcome, r.events, r.cancels, part.set r.after t⟩⟩

/-- The applicator that works on a part of the state. -/
def applicator (part : StatePart τ σ) (a : Applicator σ) : Applicator τ :=
  ⟨fun d diff t =>
    let r := a.patch d diff (part.get t)
    ⟨r.answer, r.cancels, part.set r.after t⟩⟩

/-- Look for an applicator on a part of the state. -/
def finding (part : StatePart τ σ) (find : σ → Except PatchError (Applicator σ) × σ) (t : τ) :
    Except PatchError (Applicator τ) × τ :=
  let (r, s) := find (part.get t)
  (r.map part.applicator, part.set s t)

end StatePart

/-- A machine, on which the tool that applies diffs is there or is not. -/
structure Host (σ : Type) where
  executor : Executor σ
  applicator? : σ → Except PatchError (Applicator σ) × σ

end PatchTrial
