import PatchTrial.Main
import PatchTrial.Script
import PatchTrial.Proofs.Simulation
import PatchTrial.Proofs.Recording
import PatchTrial.Proofs.Attempts
import PatchTrial.Proofs.Visits
import PatchTrial.Proofs.RunCalls
import PatchTrial.Proofs.Pairing
import PatchTrial.Proofs.AcceptanceRule
import PatchTrial.Proofs.FailureAsError
import PatchTrial.Proofs.ExactNumbers
import PatchTrial.Proofs.CleanTree
import PatchTrial.Proofs.BaselineOutcome
import PatchTrial.Proofs.Text
import PatchTrial.Proofs.UnifiedDiff
import PatchTrial.Proofs.HeaderPaths
import PatchTrial.Proofs.StripLevel
import PatchTrial.Proofs.Gate
import PatchTrial.Proofs.Lineage
import PatchTrial.Proofs.DoubleFields
import PatchTrial.Proofs.DoubleRange
import PatchTrial.Proofs.FiniteReport
import PatchTrial.Proofs.JsonScalar
import PatchTrial.Proofs.JsonText
import PatchTrial.Proofs.JsonRecord
import PatchTrial.Proofs.JsonFree
import PatchTrial.Proofs.TimestampText
import PatchTrial.Proofs.ReportText
import PatchTrial.Proofs.WrittenFiles
import PatchTrial.Proofs.ReportFile
import PatchTrial.Proofs.AttemptBudget
import PatchTrial.Proofs.AuditTrail
import PatchTrial.Proofs.Words
import PatchTrial.Proofs.Environments
import PatchTrial.Proofs.Accumulation
import PatchTrial.Proofs.Parallelism
import PatchTrial.Proofs.PlanCommands
import PatchTrial.Proofs.QuietSteps
import PatchTrial.Proofs.Repeats
import PatchTrial.Proofs.SerialForm
import PatchTrial.Proofs.SkippedSteps
import PatchTrial.Proofs.Treatments
import PatchTrial.Proofs.AnsweredAgain
import PatchTrial.Proofs.WordEdits
import PatchTrial.Proofs.DroppedFlags
import PatchTrial.Proofs.LostSteps
import PatchTrial.Proofs.RelaxedLockfiles
import PatchTrial.Proofs.RevisionFrame
import PatchTrial.Proofs.PathSpelling
import PatchTrial.Proofs.SingleJob
import PatchTrial.Proofs.ExactVerdicts
import PatchTrial.Proofs.OutputLines
import PatchTrial.Proofs.Excerpt
import PatchTrial.Proofs.MetricLines
import PatchTrial.Proofs.BenchOutput
