import PatchTrial.Digest
import PatchTrial.Files.Tree
import PatchTrial.Json.Reader
import PatchTrial.Json.Writer
import PatchTrial.Report

/-!
Reports on disk.

A report is kept under its run's name, as a text beside the digest of that text. A report whose
text does not match its digest is never read.
-/
namespace PatchTrial.Report

def fileName : String := "report.json"

def digestName : String := "report.digest"

/-- The text of a report. -/
def text (r : Report) : String := r.toJson.pretty

/-- Read a report from the bytes of its text. -/
def ofBytes? (bytes : ByteArray) : Option Report := do
  ofJson? (← Json.read? (← String.fromUTF8? bytes))

/-- The path of the report of a run that is kept below `dir`. -/
def pathOf (runId dir : String) : String := Path.join (Path.join dir runId) fileName

/-- The path of its digest. -/
def digestPathOf (runId dir : String) : String := Path.join (Path.join dir runId) digestName

/-- Write a report and its digest below `dir`, and give the path of the report. A failure leaves
what was written before it. -/
def write (digest : ByteArray → String) (r : Report) (here : FileTree.Place) (dir : String)
    (t : FileTree) (user : User := .root) : Except TrialError String × FileTree :=
  let path := pathOf r.runId dir
  let bytes := r.text.toUTF8
  match t.createAll here (Path.join dir r.runId) with
  | (some e, t) => (.error (.io e), t)
  | (none, t) =>
    match t.write here path bytes FileTree.plainMode user with
    | .error e => (.error (.io e), t)
    | .ok t =>
      let digestPath := digestPathOf r.runId dir
      match t.write here digestPath (digest bytes).toUTF8 FileTree.plainMode user with
      | .error e => (.error (.io e), t)
      | .ok t => (.ok path, t)

/-- Read a report from below `dir` and check it against its digest. -/
def read (digest : ByteArray → String) (runId : String) (here : FileTree.Place) (dir : String)
    (t : FileTree) (user : User := .root) : Except TrialError Report := do
  let files : Except OsError (ByteArray × String) := do
    return (← t.read here (pathOf runId dir) user, ← t.readText here (digestPathOf runId dir) user)
  match files with
  | .error e => .error (.io e)
  | .ok (bytes, expected) =>
    let expected := trimmed expected
    let actual := digest bytes
    if expected ≠ actual then .error (.digestMismatch expected actual)
    else
      match ofBytes? bytes with
      | some r => .ok r
      | none => .error .serialization

end PatchTrial.Report
