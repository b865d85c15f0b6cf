import PatchTrial.Failure.Reason
import PatchTrial.Remedy.Command

/-!
Remedies for the scripting ecosystems.

Each takes a revised plan and gives it back edited, with a sentence on what was done, or nothing
if the reason has no remedy or the plan lacks what would be edited.
-/
namespace PatchTrial.Remedy

open Command

/-- A remedied plan and what was done to it. -/
abbrev Remedied := Plan × String

/-- Whether the install step is run by yarn. -/
def usesYarn (d : Detection) (install : String) : Bool := d.uses "yarn" || hasToken install "yarn"

def relaxNodeLockfile (d : Detection) (p : Plan) : Option Plan := do
  let install ← p.command .install
  let next := replacePair install "npm" "ci" "npm install"
  let next := removeFlag (removeFlag next "--frozen-lockfile") "--immutable"
  let next :=
    if hasToken next "pnpm" && !hasToken next "--no-frozen-lockfile" then
      appendArgs next "--no-frozen-lockfile"
    else next
  let p := p.setCommand .install (some next)
  return if usesYarn d install then
    p.setEnv .install "YARN_ENABLE_IMMUTABLE_INSTALLS" "false" else p

/-- The flag that makes the test runner use one worker. -/
def serialTestFlag (d : Detection) (p : Plan) : String :=
  let jest := d.framework.any (fun f => Text.asciiLower f.toList == "jest".toList) ||
    (p.command .test).any (Plan.mentions · "jest")
  if jest then "--runInBand" else "--maxWorkers=1"

def limitNodeMemory (d : Detection) (p : Plan) : Plan :=
  let p := p.setEnvWhereRunnable Step.all "NODE_OPTIONS" "--max-old-space-size=4096"
  let flag := serialTestFlag d p
  p.edit .test fun t => if hasToken t flag then t else appendPassthrough t flag

def installNodeDevTools (d : Detection) (p : Plan) : Plan :=
  let install := (p.command .install).getD (d.packageManager.getD "npm" ++ " install")
  let next := removeFlag (removeFlag (removeFlag install "--production") "--prod") "--omit"
  let next :=
    if hasToken next "npm" && !hasTokenStart next "--include=dev" then
      appendArgs next "--include=dev"
    else next
  ((p.setCommand .install (some next)).setEnv .install "NODE_ENV" "development").setEnv
    .install "NPM_CONFIG_PRODUCTION" "false"

def relaxNodeEngine (d : Detection) (p : Plan) : Option Plan := do
  let install ← p.command .install
  let p :=
    if usesYarn d install && !hasToken install "--ignore-engines" then
      p.setCommand .install (some (appendArgs install "--ignore-engines"))
    else p
  return p.setEnv .install "npm_config_engine_strict" "false"

def node? (d : Detection) (p : Plan) : Reason → Option Remedied
  | .lockfileDrift => (relaxNodeLockfile d p).map (·, "relax frozen lockfile install")
  | .oom | .concurrencyOom =>
    some (limitNodeMemory d p, "raise node heap limit and serialize tests")
  | .missingDevDependencies => some (installNodeDevTools d p, "install dev dependencies")
  | .engineMismatch => (relaxNodeEngine d p).map (·, "disable engine strictness")
  | _ => none

def pipInstallPytest : String := "python -m pip install pytest"

def installPytest (p : Plan) : Plan :=
  let install := match p.command .install with
    | some cmd =>
      if Plan.mentions cmd pipInstallPytest then cmd else cmd ++ " && " ++ pipInstallPytest
    | none => pipInstallPytest
  let test := match p.command .test with
    | some cmd => replaceToken cmd "pytest" "python -m pytest"
    | none => "python -m pytest"
  (p.setCommand .install (some install)).setCommand .test (some test)

def relaxPythonLockfile (d : Detection) (p : Plan) : Option Remedied :=
  let install := (p.command .install).getD ""
  if d.uses "poetry" || Plan.mentions install "poetry" then
    some (p.setCommand .install (some "poetry lock --no-update && poetry install"),
      "regenerate poetry lock without upgrades")
  else if d.uses "pipenv" || Plan.mentions install "pipenv" then
    let next := if hasToken install "--dev" then "pipenv install --dev --skip-lock"
      else "pipenv install --skip-lock"
    some (p.setCommand .install (some next), "install without the pipenv lock")
  else none

def withoutWorkers (test : String) : String :=
  appendArgs (removeFlagWithValue (removeFlagWithValue test "-n") "--numprocesses")
    "-p no:xdist"

def serializePytest (p : Plan) : Option Plan := do
  let test ← p.command .test
  guard (Plan.mentions test "pytest" && !Plan.mentions test "no:xdist")
  return p.edit .test withoutWorkers

def python? (d : Detection) (p : Plan) : Reason → Option Remedied
  | .missingDevDependencies | .commandNotFound =>
    some (installPytest p, "install pytest and run it as a module")
  | .lockfileDrift => relaxPythonLockfile d p
  | .concurrencyOom => (serializePytest p).map (·, "run pytest without xdist workers")
  | _ => none

def relaxBundler (p : Plan) : Option Plan := do
  let install ← p.command .install
  let next := removeFlag (removeFlag install "--frozen") "--deployment"
  return ((p.setCommand .install (some next)).setEnv .install "BUNDLE_FROZEN" "false").setEnv
    .install "BUNDLE_DEPLOYMENT" "false"

def throughBundler (test : String) : String :=
  if "bundle ".toList.isPrefixOf (Text.trimStart test.toList) then test
  else "bundle exec " ++ trimmed test

def installBundlerGroups (p : Plan) : Plan :=
  let p := if (p.command .install).isNone then p.setCommand .install (some "bundle install") else p
  (p.setEnv .install "BUNDLE_WITHOUT" "").edit .test throughBundler

def ruby? (p : Plan) : Reason → Option Remedied
  | .lockfileDrift => (relaxBundler p).map (·, "allow bundler to update Gemfile.lock")
  | .missingDevDependencies | .commandNotFound =>
    some (installBundlerGroups p, "install all bundler groups and run via bundle exec")
  | _ => none

end PatchTrial.Remedy
