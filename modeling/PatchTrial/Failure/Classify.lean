import PatchTrial.Failure.Reason
import PatchTrial.PipelineRun
import PatchTrial.Text.Utf8

/-!
The reason of a failure, read off what the failed step printed.

Only the first failed step counts. Its output is searched without regard to case for groups of
phrases in a fixed order: memory, lock files, missing tools, missing commands, engines. Phrases
about missing things count only on a line that also names a tool, a wrapper or a shell. If no
group is found, the reason follows from the step.

Among all characters, only the letters A to Z, the Kelvin sign and the capital I with a dot have an
ASCII letter in their lower case, so every other character may stay as it is without changing which
phrases are found.
-/
namespace PatchTrial.Text

/-- The lower case of a character whose lower case contains an ASCII letter. -/
def foldChar (c : Char) : List Char :=
  if c.toNat = 0x212A then ['k']
  else if c.toNat = 0x130 then ['i', '\u0307']
  else [c.toLower]

/-- A text with its ASCII words in lower case. -/
def fold (cs : List Char) : List Char := cs.flatMap foldChar

end PatchTrial.Text

namespace PatchTrial.Failure

open Text

def memoryPhrases : List String := [
  "out of memory", "javascript heap out of memory", "heap out of memory", "outofmemoryerror",
  "cannot allocate memory", "memory allocation failed", "memoryerror",
  "killed signal terminated program", "fatal runtime error: out of memory", "std::bad_alloc",
  "oom-kill", "oomkilled", "exit code 137"]

def lockfilePhrases : List String := [
  "lockfile needs to be updated", "lockfile would have been modified", "outdated_lockfile",
  "package-lock.json", "frozen-lockfile", "npm ci can only install", "are not in sync",
  "poetry.lock is not consistent", "pipfile.lock", "the lock file is out of date",
  "needs to be updated but --locked was passed", "cannot update the lock file", "go.sum",
  "missing go.sum entry", "updates to go.mod needed", "gemfile.lock", "frozen mode",
  "you are trying to install in deployment mode"]

/-- Tools that are installed as development dependencies. -/
def devTools : List String := [
  "jest", "vitest", "mocha", "tsc", "eslint", "pytest", "mypy", "rspec", "ts-node", "karma"]

/-- Phrases that by themselves report a missing command. -/
def missingCommandPhrases : List String := [
  "command not found", "is not recognized as an internal or external command"]

/-- Phrases that report a missing command only next to a shell, a wrapper or a tool. -/
def missingPathPhrases : List String := [
  "not found", "no such file or directory", "cannot find module", "no module named"]

/-- Shells and launchers that put their name in front of their errors. -/
def shellNames : List String := ["sh", "bash", "dash", "zsh", "ksh", "env"]

def wrapperNames : List String := ["gradlew", "mvnw"]

def enginePhrases : List String := [
  "unsupported engine", "engine \"node\" is incompatible", "the engine \"node\" is incompatible",
  "ebadengine", "requires python", "requires-python", "unsupported class file major version",
  "has been compiled by a more recent version of the java runtime", "requires rustc",
  "package requires go", "go.mod requires go", "your ruby version is",
  "requires a newer version of"]

/-- Whether one of the phrases occurs in a text. -/
def mentions (phrases : List String) (text : List Char) : Bool :=
  phrases.any fun p => occursIn p.toList text

def isNamePart (c : Char) : Bool := c.isAlphanum || c == '-' || c == '_'

/-- Whether a word stands alone in a line, between characters that are in no name. -/
def mentionsWord (word : String) (line : List Char) : Bool :=
  (pieces (fun c => !isNamePart c) line).contains word.toList

/-- Whether a line begins with the name of a shell and a colon. -/
def reportedByShell (line : List Char) : Bool :=
  match splitAt? ':' (trimStart line) with
  | none => false
  | some (head, _) =>
    shellNames.any fun s => ((pieces (· == '/') head).getLast?.getD head) == s.toList

/-- A line that reports a missing development tool. -/
def missesDevTool (line : List Char) : Bool :=
  (mentions missingCommandPhrases line || mentions missingPathPhrases line) &&
    devTools.any fun t => mentionsWord t line

/-- A line that reports a missing command or wrapper. -/
def missesCommand (line : List Char) : Bool :=
  mentions missingCommandPhrases line ||
    (mentions missingPathPhrases line && (reportedByShell line || mentions wrapperNames line))

/-- The reason for a failed step whose output says nothing. -/
def defaultReason : Option Step → Reason
  | some .install => .installFailed
  | some .build => .buildFailed
  | some .typecheck => .typecheckFailed
  | some .test => .testFailed
  | some .bench => .unknown
  | none => .unknown

/-- The reason for a failed step with this output in lower case. -/
def reasonFor (step : Option Step) (output : List Char) : Reason :=
  if mentions memoryPhrases output then
    if step = some .test then .concurrencyOom else .oom
  else if mentions lockfilePhrases output then .lockfileDrift
  else if (lines output).any missesDevTool then .missingDevDependencies
  else if (lines output).any missesCommand then
    if mentions wrapperNames output then .wrapperMissing else .commandNotFound
  else if mentions enginePhrases output then .engineMismatch
  else defaultReason step

/-- How many bytes of each output stream are kept, if nothing else is said. -/
def standardExcerpt : Nat := 4000

/-- The failure of a run. `excerpt` bounds the bytes that are kept of each stream. -/
def classify {α : Type} (excerpt : Nat) (run : PipelineRun α) : Failure :=
  match run.firstFailure? with
  | none => unknown
  | some r => {
      step := r.step
      reason := reasonFor r.pipelineStep? (fold r.combinedOutput.toList)
      stdoutExcerpt := tailOf r.stdout excerpt
      stderrExcerpt := tailOf r.stderr excerpt }

end PatchTrial.Failure
