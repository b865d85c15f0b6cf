import PatchTrial.Acceptance
import PatchTrial.Baseline
import PatchTrial.Time

/-!
The report of a run.
-/
namespace PatchTrial

/-- What came of a candidate, and the verdict on it. -/
structure Evaluation where
  candidateId : String
  result : CandidateRun Float
  verdict : Verdict Float
  deriving BEq

namespace Evaluation

def ofJson? (j : Json) : Option Evaluation := do
  let r ← j.record? ["candidate_id", "result", "verdict"]
  return ⟨← r.required "candidate_id" Json.string?, ← r.required "result" CandidateRun.ofJson?,
    ← r.required "verdict" Verdict.ofJson?⟩

def toJson (e : Evaluation) : Json :=
  .object [("candidate_id", .string e.candidateId), ("result", e.result.toJson),
    ("verdict", e.verdict.toJson)]

end Evaluation

structure Report where
  runId : String
  startedAt : Timestamp
  finishedAt : Timestamp
  language : Language
  settings : Settings
  strategy : Baseline
  evaluations : List Evaluation
  /-- The candidates that were never tried. -/
  skipped : List String
  cancelled : Bool
  /-- Whether a patch could not be taken back. -/
  treeDirty : Bool
  deriving BEq

namespace Report

def accepted (r : Report) : List Evaluation := r.evaluations.filter (·.verdict.accepted)

def ofJson? (j : Json) : Option Report := do
  let r ← j.record? ["run_id", "started_at", "finished_at", "language", "settings", "strategy",
    "evaluations", "skipped", "cancelled", "tree_dirty"]
  let time (j : Json) := j.string?.bind Timestamp.parse?
  return {
    runId := ← r.required "run_id" Json.string?
    startedAt := ← r.required "started_at" time
    finishedAt := ← r.required "finished_at" time
    language := ← r.required "language" Language.ofJson?
    settings := ← r.required "settings" Settings.ofJson?
    strategy := ← r.required "strategy" Baseline.ofJson?
    evaluations := ← r.required "evaluations" (Json.list? Evaluation.ofJson?)
    skipped := ← r.withDefault "skipped" (Json.list? Json.string?) []
    cancelled := ← r.required "cancelled" Json.bool?
    treeDirty := ← r.withDefault "tree_dirty" Json.bool? false }

def toJson (r : Report) : Json :=
  .object [("run_id", .string r.runId), ("started_at", .string r.startedAt.toText),
    ("finished_at", .string r.finishedAt.toText), ("language", r.language.toJson),
    ("settings", r.settings.toJson), ("strategy", r.strategy.toJson),
    ("evaluations", .array (r.evaluations.map Evaluation.toJson)),
    ("skipped", Json.strings r.skipped), ("cancelled", .bool r.cancelled),
    ("tree_dirty", .bool r.treeDirty)]

end Report

end PatchTrial
