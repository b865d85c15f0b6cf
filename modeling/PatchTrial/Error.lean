import PatchTrial.PipelineRun

/-!
Everything that can go wrong outside a pipeline, and how it is worded.
-/
namespace PatchTrial

/-- Errors of the operating system, as far as they arise here. -/
inductive OsError where
  | notFound
  | permissionDenied
  | exists
  | notDirectory
  | isDirectory
  | notEmpty
  | badFormat
  | noDevice
  | invalidArgument
  | brokenPipe
  | badDescriptor
  | noSpace
  | nameTooLong
  | tooManyLinks
  | nulByte
  | nulInPath
  | invalidUtf8
  deriving DecidableEq, Repr

namespace OsError

/-- The error in words, with its number if the system has one for it. -/
def message : OsError → String
  | .notFound => "No such file or directory (os error 2)"
  | .permissionDenied => "Permission denied (os error 13)"
  | .exists => "File exists (os error 17)"
  | .notDirectory => "Not a directory (os error 20)"
  | .isDirectory => "Is a directory (os error 21)"
  | .notEmpty => "Directory not empty (os error 39)"
  | .badFormat => "Exec format error (os error 8)"
  | .noDevice => "No such device or address (os error 6)"
  | .invalidArgument => "Invalid argument (os error 22)"
  | .brokenPipe => "Broken pipe (os error 32)"
  | .badDescriptor => "Bad file descriptor (os error 9)"
  | .noSpace => "No space left on device (os error 28)"
  | .nameTooLong => "File name too long (os error 36)"
  | .tooManyLinks => "Too many levels of symbolic links (os error 40)"
  | .nulByte => "nul byte found in provided data"
  | .nulInPath => "file name contained an unexpected NUL byte"
  | .invalidUtf8 => "stream did not contain valid UTF-8"

/-- The error in words alone, as command line tools print it. -/
def words : OsError → String
  | .notFound => "No such file or directory"
  | .permissionDenied => "Permission denied"
  | .exists => "File exists"
  | .notDirectory => "Not a directory"
  | .isDirectory => "Is a directory"
  | .notEmpty => "Directory not empty"
  | .badFormat => "Exec format error"
  | .noDevice => "No such device or address"
  | .invalidArgument => "Invalid argument"
  | .brokenPipe => "Broken pipe"
  | .badDescriptor => "Bad file descriptor"
  | .noSpace => "No space left on device"
  | .nameTooLong => "File name too long"
  | .tooManyLinks => "Too many levels of symbolic links"
  | .nulByte => "nul byte found in provided data"
  | .nulInPath => "file name contained an unexpected NUL byte"
  | .invalidUtf8 => "stream did not contain valid UTF-8"

end OsError

/-- Whether a diff was being applied or taken back. -/
inductive PatchDirection where
  | apply
  | revert
  deriving DecidableEq, Repr

def PatchDirection.name : PatchDirection → String
  | .apply => "apply"
  | .revert => "revert"

/-- Why a diff could not be applied or taken back. -/
inductive PatchError where
  | emptyDiff (direction : PatchDirection)
  | toolMissing (tool reason : String)
  | failed (direction : PatchDirection) (dryRun : Bool) (exitCode : Int32) (stdout stderr : String)
  | timeout (direction : PatchDirection) (seconds : UInt64)
  | io (text : String)
  deriving DecidableEq, Repr

namespace PatchError

def message : PatchError → String
  | .emptyDiff d => s!"refusing to {d.name} an empty diff"
  | .toolMissing tool reason => s!"patch tool '{tool}' is not available: {reason}"
  | .failed d dryRun code _ stderr =>
    s!"patch {d.name} failed (exit code {code.toInt}, dry run: {dryRun}): {stderr}"
  | .timeout d seconds => s!"patch {d.name} timed out after {seconds.toNat}s"
  | .io text => s!"io error while running patch tool: {text}"

/-- What the tool printed, if it ran to its end. -/
def toolOutput : PatchError → String × String
  | .failed _ _ _ stdout stderr => (stdout, stderr)
  | _ => ("", "")

/-- The rejection of a candidate whose patch could not be applied. -/
def rejection (e : PatchError) : Rejection :=
  .patchApply e.message e.toolOutput.1 e.toolOutput.2

end PatchError

/-- What makes a configuration unusable. -/
inductive ConfigError where
  | zeroTimeout (step : Step)
  | zeroMaxFiles
  | tolerance (value : String)
  | emptyBinary
  deriving DecidableEq, Repr

def ConfigError.message : ConfigError → String
  | .zeroTimeout s => s!"timeouts.{s.name} must be greater than zero"
  | .zeroMaxFiles => "constraints.max_files must be greater than zero"
  | .tolerance value => s!"acceptance.regression_tolerance must be in [0, 1), got {value}"
  | .emptyBinary => "patch.binary must not be empty"

/-- Why a run, a report or a configuration was not produced. -/
inductive TrialError where
  | toolMissing (tool reason : String)
  | pipeline (e : StepError)
  | config (e : ConfigError)
  | digestMismatch (expected actual : String)
  /-- A JSON text that does not hold what it should. -/
  | serialization
  /-- A TOML text that does not hold a configuration. -/
  | toml
  | io (e : OsError)
  deriving DecidableEq, Repr

def TrialError.message : TrialError → String
  | .toolMissing tool reason => s!"patch tool '{tool}' is not available on this host: {reason}"
  | .pipeline e => s!"pipeline failed: {e.message}"
  | .config e => s!"invalid configuration: {e.message}"
  | .digestMismatch expected actual => s!"digest mismatch: expected {expected}, got {actual}"
  | .serialization => "serialization error"
  | .toml => "invalid configuration"
  | .io e => s!"io error: {e.message}"

end PatchTrial
