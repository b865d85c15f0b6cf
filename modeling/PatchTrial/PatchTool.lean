import PatchTrial.Config
import PatchTrial.Host
import PatchTrial.Text.Basic

/-!
Patching through a tool.

The tool is first called on trial, so that a diff that does not fit changes nothing, and only then
in earnest. A blank diff is refused without calling it.
-/
namespace PatchTrial.PatchTool

/-- A way to call the tool: the direction, whether the call is on trial, and the diff. -/
abbrev Invoke (σ : Type) := PatchDirection → Bool → String → σ → Except PatchError Unit × σ

/-- The arguments of a call. -/
def arguments (c : ToolConfig) (d : PatchDirection) (dryRun : Bool) : List String :=
  [s!"-p{c.strip.toNat}", "--batch", "--forward", "--silent", s!"--fuzz={c.fuzz.toNat}",
    "--no-backup-if-mismatch", "--reject-file=-"] ++
  (if d = .revert then ["-R"] else []) ++
  (if dryRun then ["--dry-run"] else [])

/-- The standard input of a call: the diff, ended by a line break. -/
def input (diff : String) : String := if diff.endsWith "\n" then diff else diff ++ "\n"

variable {σ : Type}

/-- Apply a diff, or take it back. -/
def patch (invoke : Invoke σ) (d : PatchDirection) (diff : String) (s : σ) :
    Except PatchError Unit × σ :=
  if isBlankText diff then (.error (.emptyDiff d), s)
  else
    match invoke d true diff s with
    | (.error e, s) => (.error e, s)
    | (.ok (), s) => invoke d false diff s

/-- The tool as an applicator. It does not notice that the run is cancelled. -/
def applicator (invoke : Invoke σ) : Applicator σ :=
  ⟨fun d diff s =>
    let (answer, s) := patch invoke d diff s
    ⟨answer, false, s⟩⟩

end PatchTrial.PatchTool
