import PatchTrial.Patch.Basic

/-!
The checks that a patch passes before it may touch the tree.

There are limits on the number of files and of changed lines, and paths that no patch may touch.
The checks run in this order and the first violation is reported. Paths are compared without
regard to ASCII case, the direction of slashes, leading `./` and blanks around them.
-/
namespace PatchTrial

inductive Constraint where
  | maxFiles
  | maxLines
  | forbiddenFile
  deriving DecidableEq, Repr

namespace Constraint

def name : Constraint → String
  | .maxFiles => "max_files"
  | .maxLines => "max_lines"
  | .forbiddenFile => "forbidden_file"

def ofName? (s : String) : Option Constraint :=
  [maxFiles, maxLines, forbiddenFile].find? (·.name = s)

def ofJson? : Json → Option Constraint := Json.name? ofName?

def toJson (c : Constraint) : Json := .string c.name

end Constraint

/-- A constraint that a patch violates, and how. -/
structure Violation where
  constraint : Constraint
  detail : String
  deriving DecidableEq, Repr

namespace Violation

def message (v : Violation) : String := s!"constraint {v.constraint.name} violated: {v.detail}"

/-- Read a violation whose constraint is read by `name`. -/
def read? (name : Json → Option Constraint) (j : Json) : Option Violation := do
  let r ← j.record? ["constraint", "detail"]
  return ⟨← r.required "constraint" name, ← r.required "detail" Json.string?⟩

def ofJson? : Json → Option Violation := read? Constraint.ofJson?

def toJson (v : Violation) : Json :=
  .object [("constraint", v.constraint.toJson), ("detail", .string v.detail)]

end Violation

/-- Manifests and lock files of the common package managers. -/
def manifestNames : List String := [
  "package.json", "package-lock.json", "npm-shrinkwrap.json", "yarn.lock", "pnpm-lock.yaml",
  "bun.lockb", "cargo.toml", "cargo.lock", "go.mod", "go.sum", "requirements.txt",
  "pyproject.toml", "poetry.lock", "pipfile", "pipfile.lock", "gemfile", "gemfile.lock",
  "pom.xml", "build.gradle", "build.gradle.kts", "settings.gradle", "settings.gradle.kts"]

/-- Files that configure a build. -/
def buildConfigNames : List String := [
  "cmakelists.txt", "makefile", "tsconfig.json", "webpack.config.js", "webpack.config.ts",
  "vite.config.js", "vite.config.ts", "setup.py", "setup.cfg", ".env"]

/-- Parts of the paths of tests and environment files. -/
def testFragments : List String := [
  "/.env.", "/test/", "/tests/", "/__tests__/", "/spec/", "/test_", "_test.", ".test.", ".spec."]

structure GatePolicy where
  maxFiles : UInt64 := 5
  maxLines : UInt64 := 200
  /-- Names that the last components of a path must not be. -/
  forbiddenSuffixes : List String := manifestNames ++ buildConfigNames
  /-- Texts that a path must not contain; a leading slash stands at the start of a component. -/
  forbiddenFragments : List String := testFragments
  deriving DecidableEq, Repr

namespace GatePolicy

open Text

/-- A path as it is compared: in lower case, with forward slashes and a slash in front. -/
def normalize (path : String) : List Char :=
  let slashed := (trim path.toList).map fun c => if c = '\\' then '/' else c
  let bare := dropDotSlash (asciiLower slashed)
  if bare.head? = some '/' then bare else '/' :: bare

/-- Whether the last components of a normalised path are `suffix`. -/
def endsIn (suffix : String) (path : List Char) : Bool :=
  ('/' :: (asciiLower suffix.toList).dropWhile (· == '/')).isSuffixOf path

/-- The first pattern that forbids a path, suffixes before fragments. -/
def forbiddenBy? (p : GatePolicy) (path : String) : Option String :=
  let path := normalize path
  match p.forbiddenSuffixes.find? (endsIn · path) with
  | some suffix => some suffix
  | none => p.forbiddenFragments.find? fun f => occursIn (asciiLower f.toList) path

/-- The first file that the policy forbids. -/
def forbiddenFile? (p : GatePolicy) (files : List String) : Option Violation :=
  files.findSome? fun file =>
    (p.forbiddenBy? file).map fun pattern =>
      ⟨.forbiddenFile, s!"{file} matches forbidden pattern '{pattern}'"⟩

/-- The first violation of a patch, if there is one. -/
def check (p : GatePolicy) (patch : Patch) : Except Violation Unit :=
  let files := patch.effectiveFiles
  let changed := Diff.changedLines patch.diff
  if p.maxFiles.toNat < files.length then
    .error ⟨.maxFiles, s!"{files.length} files touched, limit is {p.maxFiles.toNat}"⟩
  else if p.maxLines.toNat < changed then
    .error ⟨.maxLines, s!"{changed} lines changed, limit is {p.maxLines.toNat}"⟩
  else match p.forbiddenFile? files with
    | some v => .error v
    | none => .ok ()

def ofJson? (j : Json) : Option GatePolicy := do
  let r ← j.record? ["max_files", "max_lines", "forbidden_suffixes", "forbidden_substrings"]
  let d : GatePolicy := {}
  return {
    maxFiles := ← r.withDefault "max_files" Json.uint64? d.maxFiles
    maxLines := ← r.withDefault "max_lines" Json.uint64? d.maxLines
    forbiddenSuffixes :=
      ← r.withDefault "forbidden_suffixes" (Json.list? Json.string?) d.forbiddenSuffixes
    forbiddenFragments :=
      ← r.withDefault "forbidden_substrings" (Json.list? Json.string?) d.forbiddenFragments }

def toJson (p : GatePolicy) : Json :=
  .object [("max_files", Json.nat p.maxFiles.toNat), ("max_lines", Json.nat p.maxLines.toNat),
    ("forbidden_suffixes", Json.strings p.forbiddenSuffixes),
    ("forbidden_substrings", Json.strings p.forbiddenFragments)]

end GatePolicy

end PatchTrial
