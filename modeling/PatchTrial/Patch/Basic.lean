import PatchTrial.Json.Decode
import PatchTrial.Patch.Diff

/-!
Patches, and the opportunities that they realise.

A patch carries its diff and a report of what it touches. The report may add files to those in
the diff; it can never hide one. An opportunity carries a risk, which every verdict repeats.
-/
namespace PatchTrial

structure Patch where
  diff : String
  touchedFiles : List String := []
  linesChanged : UInt64 := 0
  deriving DecidableEq, Repr

namespace Patch

/-- A patch whose report is read off its diff. -/
def ofDiff (diff : String) : Patch :=
  ⟨diff, Diff.touchedFiles diff, UInt64.ofNat (Diff.changedLines diff)⟩

/-- A reported path, without blanks around it and leading `./`. -/
def cleanPath (path : String) : String :=
  String.ofList (Text.dropDotSlash (Text.trim path.toList))

/-- The files that are reported or in the diff, each once. -/
def effectiveFiles (p : Patch) : List String :=
  ((p.touchedFiles.map cleanPath ++ Diff.touchedFiles p.diff).filter (!·.isEmpty)).eraseDups

def ofJson? (j : Json) : Option Patch := do
  let r ← j.record? ["diff", "touched_files", "lines_changed"]
  return {
    diff := ← r.required "diff" Json.string?
    touchedFiles := ← r.withDefault "touched_files" (Json.list? Json.string?) []
    linesChanged := ← r.withDefault "lines_changed" Json.uint64? 0 }

def toJson (p : Patch) : Json :=
  .object [("diff", .string p.diff), ("touched_files", Json.strings p.touchedFiles),
    ("lines_changed", Json.nat p.linesChanged.toNat)]

end Patch

inductive RiskLevel where
  | low
  | medium
  | high
  deriving DecidableEq, Repr

namespace RiskLevel

def name : RiskLevel → String
  | .low => "low"
  | .medium => "medium"
  | .high => "high"

/-- The risk that a level stands for. -/
def score : RiskLevel → Float32
  | .low => 0.2
  | .medium => 0.5
  | .high => 0.8

def ofJson? : Json → Option RiskLevel :=
  Json.name? fun s => [low, medium, high].find? (·.name = s)

def toJson (l : RiskLevel) : Json := .string l.name

end RiskLevel

structure Opportunity where
  id : String
  kind : String := ""
  location : String := ""
  rationale : String := ""
  riskLevel : RiskLevel := .medium
  riskScore : Option Float32 := none
  deriving BEq

namespace Opportunity

/-- The stated score, held between 0 and 1, or that of the level if none is finite. -/
def effectiveRisk (o : Opportunity) : Float32 :=
  match o.riskScore with
  | some x =>
    if x.isFinite then (if x < 0 then 0 else if x > 1 then 1 else x) else o.riskLevel.score
  | none => o.riskLevel.score

def ofJson? (j : Json) : Option Opportunity := do
  let r ← j.record? ["id", "type", "location", "rationale", "risk_level", "risk_score"]
  return {
    id := ← r.required "id" Json.string?
    kind := ← r.withDefault "type" Json.string? ""
    location := ← r.withDefault "location" Json.string? ""
    rationale := ← r.withDefault "rationale" Json.string? ""
    riskLevel := ← r.withDefault "risk_level" RiskLevel.ofJson? .medium
    riskScore := ← r.optional "risk_score" Json.float32? }

def toJson (o : Opportunity) : Json :=
  .object [("id", .string o.id), ("type", .string o.kind), ("location", .string o.location),
    ("rationale", .string o.rationale), ("risk_level", o.riskLevel.toJson),
    ("risk_score", Json.orNull Json.single o.riskScore)]

end Opportunity

/-- An opportunity together with a patch that realises it. -/
structure Candidate where
  opportunity : Opportunity
  patch : Patch
  deriving BEq

namespace Candidate

def id (c : Candidate) : String := c.opportunity.id

def ofJson? (j : Json) : Option Candidate := do
  let r ← j.record? ["opportunity", "patch"]
  return ⟨← r.required "opportunity" Opportunity.ofJson?, ← r.required "patch" Patch.ofJson?⟩

def toJson (c : Candidate) : Json :=
  .object [("opportunity", c.opportunity.toJson), ("patch", c.patch.toJson)]

end Candidate

end PatchTrial
