import PatchTrial.CommandLine.LogFilter
import PatchTrial.CommandLine.Options
import PatchTrial.ConfigText
import PatchTrial.Machine.Tool
import PatchTrial.ReportStore
import PatchTrial.Run
import PatchTrial.Text.Hidden

/-!
The commands.

Each one prints its result as JSON, or fails with a message that says what could not be done. A
command that judges something, the baseline or a patch, prints its result even when it fails.
-/
namespace PatchTrial.CommandLine

/-- Why a command failed. -/
inductive Failure where
  | config (path : String)
  | reading (what path : String)
  | invalid (what path : String)
  | probe
  | baseline (attempts : Nat) (error : String)
  | gate
  | run
  | writingReport (dir : String)
  | readingReport (runId : String)
  deriving DecidableEq, Repr

/-- A path as messages show it. -/
def shownPath (p : String) : String := Text.Quoted.encode p

def Failure.message : Failure → String
  | .config path => s!"Failed to load config from {shownPath path}"
  | .reading what path => s!"Failed to read {what} from {shownPath path}"
  | .invalid what path => s!"Invalid {what} JSON in {shownPath path}"
  | .probe => "Patch tool probe failed"
  | .baseline attempts error => s!"Baseline failed after {attempts} attempt(s): {error}"
  | .gate => "Patch rejected by the constraint gate"
  | .run => "Optimization run failed"
  | .writingReport dir => s!"Failed to write run report under {shownPath dir}"
  | .readingReport runId => s!"Failed to read run report {runId}"

/-- What a command did. -/
structure Outcome where
  stdout : String := ""
  failure : Option Failure := none
  events : List Event := []
  after : Machine

/-- What the program did, as others see it. -/
structure Exit where
  code : Nat
  stdout : String
  error : Option String
  log : List Event
  after : Machine

def okCode : Nat := 0
def failedCode : Nat := 1
def misuseCode : Nat := 2

def printed (j : Json) : String := j.pretty ++ "\n"

/-! ### Files -/

/-- The text of a file. -/
def readBytes (what path : String) (m : Machine) : Except Failure ByteArray :=
  match m.files.read m.here path with
  | .ok bytes => .ok bytes
  | .error _ => .error (.reading what path)

/-- Read a file that holds a JSON value of a kind. -/
def readValue {α : Type} (decode : Json → Option α) (what path : String) (m : Machine) :
    Except Failure α := do
  let bytes ← readBytes what path m
  match (String.fromUTF8? bytes).bind Json.read? |>.bind decode with
  | some x => .ok x
  | none => .error (.invalid what path)

/-- The configuration of a file, or the one by default. -/
def loadConfig (path : Option String) (m : Machine) : Except Failure Config :=
  match path with
  | none => .ok {}
  | some path =>
    match m.files.readText m.here path with
    | .error _ => .error (.config path)
    | .ok text =>
      match Config.ofToml text with
      | .ok c => .ok c
      | .error _ => .error (.config path)

/-! ### Commands -/

def failing (f : Failure) (m : Machine) : Outcome := { failure := some f, after := m }

def probe (config : Config) (m : Machine) : Outcome :=
  match PatchTool.probe config.patch m with
  | (.error _, m) => failing .probe m
  | (.ok (), m) =>
    { stdout := s!"patch tool '{config.patch.binary}' is available\n", after := m }

def readDetection (path : String) (m : Machine) : Except Failure Detection :=
  readValue Detection.ofJson? "detection result" path m

def baseline (config : Config) (repo detection : String) (settings : Settings) (m : Machine) :
    Outcome :=
  match readDetection detection m with
  | .error f => failing f m
  | .ok d =>
    let x := Sandbox.executor config.timeouts config.limits repo
    let c := Baseline.establish x .standard config.excerptBytes.toNat d settings false m
    match c.outcome with
    | .error _ => { failing .run c.after with events := c.journal.events }
    | .ok b =>
      let failure := if b.run.succeeded then none
        else some (Failure.baseline b.plans.length (b.run.error.getD "unknown error"))
      ⟨printed b.toJson, failure, c.journal.events, c.after⟩

/-- A patch as a file holds it: the JSON of one, or a diff. -/
def readPatch (path : String) (m : Machine) : Except Failure Patch :=
  match m.files.readText m.here path with
  | .error _ => .error (.reading "patch" path)
  | .ok text =>
    if (Text.trimStart text.toList).head? = some '\x7b' then
      match (Json.read? text).bind Patch.ofJson? with
      | some p => .ok p
      | none => .error (.invalid "patch" path)
    else .ok (Patch.ofDiff text)

def check (config : Config) (path : String) (m : Machine) : Outcome :=
  match readPatch path m with
  | .error f => failing f m
  | .ok patch =>
    let files := ("touched_files", Json.strings patch.effectiveFiles)
    match config.gate.check patch with
    | .ok () =>
      let fields := [("ok", .bool true), files,
        ("lines_changed", Json.nat (Diff.changedLines patch.diff))]
      { stdout := printed (Json.object fields).canonical, after := m }
    | .error v =>
      let fields := [("ok", .bool false), files, ("violation", v.toJson)]
      { stdout := printed (Json.object fields).canonical, failure := some .gate, after := m }

def runAll (stamp : RunStamp) (config : Config) (repo detection candidates : String)
    (settings : Settings) (reportDir : Option String) (m : Machine) : Outcome :=
  let input : Except Failure (Detection × List Candidate) := do
    return (← readDetection detection m,
      ← readValue (Json.list? Candidate.ofJson?) "candidate list" candidates m)
  match input with
  | .error f => failing f m
  | .ok (d, cs) =>
    let c := Run.execute (PatchTool.host config repo) config .standard stamp d settings cs false m
    let events := c.journal.events
    match c.outcome with
    | .error _ => { failing .run c.after with events := events }
    | .ok (.error _) => { failing .run c.after with events := events }
    | .ok (.ok report) =>
      match reportDir with
      | none => ⟨printed report.toJson, none, events, c.after⟩
      | some dir =>
        let m := c.after
        match report.write Digest.sha256 m.here dir m.files with
        | (.error _, t) => ⟨"", some (.writingReport dir), events, { m with files := t }⟩
        | (.ok _, t) => ⟨printed report.toJson, none, events, { m with files := t }⟩

def showReport (runId dir : String) (m : Machine) : Outcome :=
  match Report.read Digest.sha256 runId m.here dir m.files with
  | .error _ => failing (.readingReport runId) m
  | .ok r => { stdout := printed r.toJson, after := m }

def perform (stamp : RunStamp) (config : Config) (m : Machine) : Command → Outcome
  | .probe => probe config m
  | .baseline repo detection settings => baseline config repo detection settings m
  | .check patch => check config patch m
  | .run repo detection candidates settings reportDir =>
    runAll stamp config repo detection candidates settings reportDir m
  | .report runId dir => showReport runId dir m

/-! ### The program -/

def filterVariable : String := "RUST_LOG"

/-- The filter of the log: that of the environment if it has one, or else by the verbosity. -/
def logFilter (verbose : Bool) (environment : List (String × String)) : LogFilter :=
  let standard := LogFilter.ofLevel (if verbose then .debug else .info)
  match environment.lookup filterVariable with
  | some text => (LogFilter.parse? text).getD standard
  | none => standard

/-- The spans within which a command does its work. -/
def spans (stamp : RunStamp) : Command → List LogSpan
  | .run .. => [⟨"autotune.run", [("run_id", stamp.runId)]⟩]
  | _ => []

/-- Run the program with its arguments. Events are logged where they are asked for as JSON. -/
def execute (stamp : RunStamp) (args : List String) (m : Machine) : Exit :=
  match parse args m.environment with
  | .version => ⟨okCode, s!"{programName} {version}\n", none, [], m⟩
  | .help => ⟨okCode, "", none, [], m⟩
  | .misuse => ⟨misuseCode, "", none, [], m⟩
  | .invocation i =>
    let o := match loadConfig i.config m with
      | .error f => failing f m
      | .ok config => perform stamp config m i.command
    let filter := logFilter i.verbose m.environment
    let log := if i.json then o.events.filter (filter.shows (spans stamp i.command)) else []
    ⟨if o.failure.isSome then failedCode else okCode, o.stdout, o.failure.map Failure.message, log,
      o.after⟩

end PatchTrial.CommandLine
