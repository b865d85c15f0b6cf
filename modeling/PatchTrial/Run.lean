import PatchTrial.Config
import PatchTrial.Report
import PatchTrial.Trial

/-!
A run: the baseline first, then every candidate in turn.

Candidates are tried only if the baseline succeeded. The first candidate that leaves the working
tree dirty is the last one tried, and so is the one during which the run is cancelled. Those that
are not tried are listed as skipped.
-/
namespace PatchTrial

/-- What tells one run from another, and when it happened. -/
structure RunStamp where
  runId : String
  startedAt : Timestamp
  finishedAt : Timestamp
  elapsedMs : Nat

/-- What came of the candidates. -/
structure Trials where
  evaluations : List Evaluation
  skipped : List String
  /-- Whether the working tree was left dirty. -/
  treeDirty : Bool

namespace Trials

/-- Nothing more is tried. -/
def skip (cs : List Candidate) (treeDirty : Bool) : Trials := ⟨[], cs.map Candidate.id, treeDirty⟩

def add (e : Evaluation) (t : Trials) : Trials := { t with evaluations := e :: t.evaluations }

end Trials

namespace Run

variable {σ : Type}

/-- What came of a candidate, judged against the baseline. -/
def judged (config : Config) (baseline : Baseline) (c : Candidate) (r : CandidateRun Float) :
    Evaluation :=
  ⟨c.id, r, Acceptance.evaluate config.acceptance c.opportunity baseline.run r⟩

/-- Try candidates until the run is cancelled or the working tree is left dirty. -/
def tryAll (x : Executor σ) (a : Applicator σ) (config : Config) (baseline : Baseline) :
    List Candidate → (treeDirty cancelled : Bool) → σ → Course σ Trials
  | [], treeDirty, cancelled, s => .done (.skip [] treeDirty) cancelled s
  | c :: cs, treeDirty, cancelled, s =>
    if cancelled || treeDirty then .done (.skip (c :: cs) treeDirty) cancelled s
    else
      (Trial.validate x a config.gate baseline.finalPlan? c cancelled s).andThen
        fun result cancelled s =>
          let e := judged config baseline c result
          let rest := tryAll x a config baseline cs (!result.treeClean) cancelled s
          (rest.map (.add e)).since [.event (.ofVerdict c.id e.verdict)]

/-- Nothing is tried on a tree that is dirty. -/
theorem tryAll_dirty (x : Executor σ) (a : Applicator σ) (config : Config) (baseline : Baseline)
    (cs : List Candidate) (cancelled : Bool) (s : σ) :
    tryAll x a config baseline cs true cancelled s = .done (.skip cs true) cancelled s := by
  cases cs with
  | nil => rfl
  | cons c cs => rw [tryAll, Bool.or_true, if_pos rfl]

/-- A missing patch tool as the error of a run. -/
def toolMissing : PatchError → TrialError
  | .toolMissing tool reason => .toolMissing tool reason
  | e => .toolMissing "patch" e.message

/-- The report of a run, with what came of the candidates. -/
def report (stamp : RunStamp) (d : Detection) (settings : Settings) (b : Baseline) (t : Trials)
    (cancelled : Bool) : Report where
  runId := stamp.runId
  startedAt := stamp.startedAt
  finishedAt := stamp.finishedAt
  language := d.language
  settings := settings
  strategy := b
  evaluations := t.evaluations
  skipped := t.skipped
  cancelled := cancelled
  treeDirty := t.treeDirty

/-- The run of a host that has an applicator. -/
def withApplicator (x : Executor σ) (a : Applicator σ) (config : Config) (registry : Registry)
    (stamp : RunStamp) (d : Detection) (settings : Settings) (cs : List Candidate)
    (cancelled : Bool) (s : σ) : Course σ Report :=
  (Baseline.establish x registry config.excerptBytes.toNat d settings cancelled s).andThen
    fun baseline cancelled s =>
      let trials :=
        if baseline.run.succeeded then tryAll x a config baseline cs false cancelled s
        else .done (.skip cs false) cancelled s
      trials.andThen fun t cancelled s =>
        let r := report stamp d settings baseline t cancelled
        (Course.done r cancelled s).log
          (.runFinished stamp.runId stamp.elapsedMs r.accepted.length cancelled)

/-- A whole run. It fails only if there is no tool to apply diffs with. -/
def execute (host : Host σ) (config : Config) (registry : Registry) (stamp : RunStamp)
    (d : Detection) (settings : Settings) (cs : List Candidate) (cancelled : Bool) (s : σ) :
    Course σ (Except TrialError Report) :=
  let (found, s') := host.applicator? s
  .since [.event (.runStarted stamp.runId d.language.name cs.length)]
    (match found with
    | .error e => .done (.error (toolMissing e)) cancelled s'
    | .ok a =>
      (withApplicator host.executor a config registry stamp d settings cs cancelled s').map .ok)

theorem reported_of_toOption {outcome : Except Panic (Except TrialError Report)} {r : Report}
    (h : outcome.toOption.bind Except.toOption = some r) : outcome = .ok (.ok r) := by
  rcases outcome with _ | _ | _
  · cases h
  · cases h
  · cases h
    rfl

end Run

end PatchTrial
