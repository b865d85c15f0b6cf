import PatchTrial.Remedy.Parallel
import PatchTrial.Remedy.Script

/-!
Remedies for the compiled ecosystems.
-/
namespace PatchTrial.Remedy

open Command

/-- The steps that compile or run the project's own code. -/
def buildSteps : List Step := [.build, .test, .bench]

def serializeGoTest (p : Plan) : Plan :=
  match p.command .test with
  | none => p
  | some test =>
    if hasToken test "-p" then p
    else match insertAfterPair? test "go" "test" "-p 1" with
      | some next => p.setCommand .test (some next)
      | none => p

def limitGoMemory (p : Plan) : Plan :=
  ((serializeGoTest p).setEnvWhereRunnable buildSteps "GOFLAGS" "-p=1").setEnvWhereRunnable
    buildSteps "GOGC" "50"

def tidyGoModules (p : Plan) : Option Plan :=
  match p.command .install with
  | none => some (p.setCommand .install (some "go mod tidy && go mod download"))
  | some cmd =>
    if Plan.mentions cmd "go mod tidy" then none
    else some (p.setCommand .install (some (runBefore "go mod tidy" cmd)))

def go? (p : Plan) : Reason → Option Remedied
  | .oom | .concurrencyOom =>
    some (limitGoMemory p, "serialize go builds and tests, tighten gc")
  | .lockfileDrift => (tidyGoModules p).map (·, "tidy go.mod and go.sum before download")
  | _ => none

/-- A command with the system's build tools in place of the wrapper scripts. -/
def withoutWrapper (cmd : String) : String :=
  let cmd := replaceToken (replaceToken cmd "./gradlew" "gradle") "gradlew" "gradle"
  replaceToken (replaceToken cmd "./mvnw" "mvn") "mvnw" "mvn"

def limitJvmStep (p : Plan) (s : Step) : Plan :=
  match p.command s with
  | none => p
  | some cmd =>
    if Plan.mentions cmd "gradle" then
      let p := p.setEnv s "GRADLE_OPTS" "-Xmx2g"
      if hasTokenStart cmd "--max-workers" then p
      else p.setCommand s (some (appendArgs cmd "--max-workers=1"))
    else if hasToken cmd "mvn" || Plan.mentions cmd "mvnw" then
      let p := p.setEnv s "MAVEN_OPTS" "-Xmx2g"
      if s = .test ∧ !hasTokenStart cmd "-DforkCount" then
        p.setCommand s (some (appendArgs cmd "-DforkCount=1"))
      else p
    else p

def limitJvmMemory (p : Plan) : Plan := (p.runnable Step.all).foldl limitJvmStep p

def jvm? (p : Plan) : Reason → Option Remedied
  | .wrapperMissing =>
    some (p.editAll withoutWrapper, "use system gradle/maven instead of the wrapper")
  | .oom | .concurrencyOom => some (limitJvmMemory p, "cap jvm heap and run workers serially")
  | _ => none

def unlocked (cmd : String) : String := removeFlag (removeFlag cmd "--locked") "--frozen"

def serialCargoTest (test : String) : String :=
  if Plan.mentions test "cargo" && !Plan.mentions test "--test-threads" then
    if hasToken test "--" then appendArgs test "--test-threads=1"
    else appendArgs test "-- --test-threads=1"
  else test

def limitCargo (p : Plan) : Plan :=
  (p.setEnvWhereRunnable Step.all "CARGO_BUILD_JOBS" "1").edit .test serialCargoTest

def rust? (p : Plan) : Reason → Option Remedied
  | .lockfileDrift => some (p.editAll unlocked, "allow cargo to update Cargo.lock")
  | .oom | .concurrencyOom => some (limitCargo p, "single cargo job and single test thread")
  | _ => none

def serializeCpp (p : Plan) : Plan :=
  (((p.editAll Parallel.serialized).setEnvWhereRunnable
    buildSteps "CMAKE_BUILD_PARALLEL_LEVEL" "1").setEnvWhereRunnable
    buildSteps "CTEST_PARALLEL_LEVEL" "1").setEnvWhereRunnable buildSteps "MAKEFLAGS" "-j1"

def cpp? (p : Plan) : Reason → Option Remedied
  | .oom | .concurrencyOom => some (serializeCpp p, "build and test with a single job")
  | _ => none

end PatchTrial.Remedy
