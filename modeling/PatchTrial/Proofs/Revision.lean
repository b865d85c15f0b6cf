import PatchTrial.Remedy.Ecosystem

/-!
# What a revision keeps of a plan

Remedies give commands to some of the steps and set some variables of environments, and nothing
else. So a revised plan is the next attempt in adaptive mode, whatever the ecosystem and whatever
was edited.
-/
namespace PatchTrial

namespace Plan

/-- `q` is `p` but for its commands and environments. -/
structure Edited (p q : Plan) : Prop where
  attempt_eq : q.attempt = p.attempt
  mode_eq : q.mode = p.mode
  metadata_eq : q.metadata = p.metadata

/-- `q` comes from `p` by giving commands to some of `steps` and setting variables to the values
that `assigned` lists. -/
inductive Edits (steps : List Step) (assigned : List (String × String)) (p : Plan) : Plan → Prop
  | refl : Edits steps assigned p p
  | setCommand {q : Plan} (h : Edits steps assigned p q) {s : Step} (hs : s ∈ steps)
      (c : Option String) : Edits steps assigned p (q.setCommand s c)
  | setEnv {q : Plan} (h : Edits steps assigned p q) (s : Step) {key value : String}
      (hv : (key, value) ∈ assigned) : Edits steps assigned p (q.setEnv s key value)

section Edits

variable {steps : List Step} {assigned : List (String × String)} {p q : Plan}

theorem Edits.edited (h : p.Edits steps assigned q) : p.Edited q := by
  induction h with
  | refl => exact ⟨rfl, rfl, rfl⟩
  | setCommand h hs c ih => exact ⟨ih.attempt_eq, ih.mode_eq, ih.metadata_eq⟩
  | setEnv h s hv ih => exact ⟨ih.attempt_eq, ih.mode_eq, ih.metadata_eq⟩

theorem Edits.edit (h : p.Edits steps assigned q) {s : Step} (hs : s ∈ steps)
    (f : String → String) : p.Edits steps assigned (q.edit s f) := by
  unfold Plan.edit
  split
  · exact h
  · exact h.setCommand hs _

theorem Edits.foldl (h : p.Edits steps assigned q) {f : Plan → Step → Plan}
    (hf : ∀ q s, p.Edits steps assigned q → p.Edits steps assigned (f q s)) (todo : List Step) :
    p.Edits steps assigned (todo.foldl f q) := by
  induction todo generalizing q with
  | nil => exact h
  | cons s todo ih => exact ih (hf q s h)

theorem Edits.editAll (h : p.Edits Step.all assigned q) (f : String → String) :
    p.Edits Step.all assigned (q.editAll f) :=
  h.foldl (fun _ s hq => hq.edit s.mem_all f) _

theorem Edits.setEnvWhereRunnable (h : p.Edits steps assigned q) (todo : List Step)
    {key value : String} (hv : (key, value) ∈ assigned) :
    p.Edits steps assigned (q.setEnvWhereRunnable todo key value) :=
  h.foldl (fun _ s hq => hq.setEnv s hv) _

end Edits

end Plan

namespace Ecosystem

/-- The steps whose commands the remedy for a reason may change. -/
def targets : Ecosystem → Reason → List Step
  | .node, .oom | .node, .concurrencyOom => [.test]
  | .node, _ => [.install]
  | .python, .lockfileDrift => [.install]
  | .python, .concurrencyOom => [.test]
  | .python, _ => [.install, .test]
  | .go, .lockfileDrift => [.install]
  | .go, _ => [.test]
  | .ruby, .lockfileDrift => [.install]
  | .ruby, _ => [.install, .test]
  | .rust, .oom | .rust, .concurrencyOom => [.test]
  | _, _ => Step.all

/-- The variables that the remedy for a reason may set, with their values. -/
def assigned : Ecosystem → Reason → List (String × String)
  | .node, .lockfileDrift => [("YARN_ENABLE_IMMUTABLE_INSTALLS", "false")]
  | .node, .oom | .node, .concurrencyOom => [("NODE_OPTIONS", "--max-old-space-size=4096")]
  | .node, .missingDevDependencies =>
    [("NODE_ENV", "development"), ("NPM_CONFIG_PRODUCTION", "false")]
  | .node, .engineMismatch => [("npm_config_engine_strict", "false")]
  | .go, .oom | .go, .concurrencyOom => [("GOFLAGS", "-p=1"), ("GOGC", "50")]
  | .jvm, .oom | .jvm, .concurrencyOom => [("GRADLE_OPTS", "-Xmx2g"), ("MAVEN_OPTS", "-Xmx2g")]
  | .ruby, .lockfileDrift => [("BUNDLE_FROZEN", "false"), ("BUNDLE_DEPLOYMENT", "false")]
  | .ruby, .missingDevDependencies | .ruby, .commandNotFound => [("BUNDLE_WITHOUT", "")]
  | .rust, .oom | .rust, .concurrencyOom => [("CARGO_BUILD_JOBS", "1")]
  | .cpp, .oom | .cpp, .concurrencyOom =>
    [("CMAKE_BUILD_PARALLEL_LEVEL", "1"), ("CTEST_PARALLEL_LEVEL", "1"), ("MAKEFLAGS", "-j1")]
  | _, _ => []

end Ecosystem

namespace Remedy

open Plan (Edits)

variable {d : Detection} {p q : Plan} {r : Reason} {t : String}

/-- The plan after a remedy for a reason, as far as the tables of an ecosystem tell. -/
abbrev EditsFor (e : Ecosystem) (r : Reason) (p q : Plan) : Prop :=
  p.Edits (e.targets r) (e.assigned r) q

/-- Saying what was done leaves the plan. -/
theorem of_map_described {edited : Option Plan} {text : String}
    (h : edited.map (·, text) = some (q, t)) : edited = some q := by
  obtain ⟨q', hq, heq⟩ := Option.map_eq_some_iff.mp h
  cases heq
  exact hq

/-! ### Scripting ecosystems -/

theorem relaxNodeLockfile_edits (h : relaxNodeLockfile d p = some q) :
    EditsFor .node .lockfileDrift p q := by
  simp only [relaxNodeLockfile, Option.bind_eq_bind, Option.bind_eq_some_iff] at h
  obtain ⟨install, -, h⟩ := h
  cases h
  split
  · exact (Edits.refl.setCommand (by decide) _).setEnv _ (by decide)
  · exact Edits.refl.setCommand (by decide) _

theorem limitNodeMemory_edits (d : Detection) (p : Plan) :
    EditsFor .node .oom p (limitNodeMemory d p) :=
  (Edits.refl.setEnvWhereRunnable _ (by decide)).edit (by decide) _

theorem installNodeDevTools_edits (d : Detection) (p : Plan) :
    EditsFor .node .missingDevDependencies p (installNodeDevTools d p) :=
  ((Edits.refl.setCommand (by decide) _).setEnv _ (by decide)).setEnv _ (by decide)

theorem relaxNodeEngine_edits (h : relaxNodeEngine d p = some q) :
    EditsFor .node .engineMismatch p q := by
  simp only [relaxNodeEngine, Option.bind_eq_bind, Option.bind_eq_some_iff] at h
  obtain ⟨install, -, h⟩ := h
  cases h
  split
  · exact (Edits.refl.setCommand (by decide) _).setEnv _ (by decide)
  · exact Edits.refl.setEnv _ (by decide)

theorem node?_edits (h : node? d p r = some (q, t)) : EditsFor .node r p q := by
  unfold node? at h
  split at h
  · exact relaxNodeLockfile_edits (of_map_described h)
  · cases h
    exact limitNodeMemory_edits d p
  · cases h
    exact limitNodeMemory_edits d p
  · cases h
    exact installNodeDevTools_edits d p
  · exact relaxNodeEngine_edits (of_map_described h)
  · cases h

theorem installPytest_edits (p : Plan) :
    EditsFor .python .missingDevDependencies p (installPytest p) :=
  (Edits.refl.setCommand (by decide) _).setCommand (by decide) _

theorem relaxPythonLockfile_edits (h : relaxPythonLockfile d p = some (q, t)) :
    EditsFor .python .lockfileDrift p q := by
  simp only [relaxPythonLockfile] at h
  split at h
  · cases h
    exact Edits.refl.setCommand (by decide) _
  split at h
  · cases h
    exact Edits.refl.setCommand (by decide) _
  · cases h

theorem serializePytest_edits (h : serializePytest p = some q) :
    EditsFor .python .concurrencyOom p q := by
  obtain ⟨test, -, h⟩ := Option.bind_eq_some_iff.mp h
  obtain ⟨_, -, h⟩ := Option.bind_eq_some_iff.mp h
  cases h
  exact Edits.refl.edit (by decide) _

theorem python?_edits (h : python? d p r = some (q, t)) : EditsFor .python r p q := by
  unfold python? at h
  split at h
  · cases h
    exact installPytest_edits p
  · cases h
    exact installPytest_edits p
  · exact relaxPythonLockfile_edits h
  · exact serializePytest_edits (of_map_described h)
  · cases h

theorem relaxBundler_edits (h : relaxBundler p = some q) : EditsFor .ruby .lockfileDrift p q := by
  simp only [relaxBundler, Option.bind_eq_bind, Option.bind_eq_some_iff] at h
  obtain ⟨install, -, h⟩ := h
  cases h
  exact ((Edits.refl.setCommand (by decide) _).setEnv _ (by decide)).setEnv _ (by decide)

theorem installBundlerGroups_edits (p : Plan) :
    EditsFor .ruby .missingDevDependencies p (installBundlerGroups p) := by
  unfold installBundlerGroups
  refine Edits.edit (Edits.setEnv ?_ _ (by decide)) (by decide) _
  split
  · exact Edits.refl.setCommand (by decide) _
  · exact .refl

theorem ruby?_edits (h : ruby? p r = some (q, t)) : EditsFor .ruby r p q := by
  unfold ruby? at h
  split at h
  · exact relaxBundler_edits (of_map_described h)
  · cases h
    exact installBundlerGroups_edits p
  · cases h
    exact installBundlerGroups_edits p
  · cases h

/-! ### Compiled ecosystems -/

theorem serializeGoTest_edits (p : Plan) : EditsFor .go .oom p (serializeGoTest p) := by
  unfold serializeGoTest
  split
  · exact .refl
  split
  · exact .refl
  split
  · exact Edits.refl.setCommand (by decide) _
  · exact .refl

theorem limitGoMemory_edits (p : Plan) : EditsFor .go .oom p (limitGoMemory p) :=
  ((serializeGoTest_edits p).setEnvWhereRunnable _ (by decide)).setEnvWhereRunnable _ (by decide)

theorem tidyGoModules_edits (h : tidyGoModules p = some q) : EditsFor .go .lockfileDrift p q := by
  unfold tidyGoModules at h
  split at h
  · cases h
    exact Edits.refl.setCommand (by decide) _
  split at h
  · cases h
  · cases h
    exact Edits.refl.setCommand (by decide) _

theorem go?_edits (h : go? p r = some (q, t)) : EditsFor .go r p q := by
  unfold go? at h
  split at h
  · cases h
    exact limitGoMemory_edits p
  · cases h
    exact limitGoMemory_edits p
  · exact tidyGoModules_edits (of_map_described h)
  · cases h

theorem limitJvmStep_edits (h : EditsFor .jvm .oom p q) (s : Step) :
    EditsFor .jvm .oom p (limitJvmStep q s) := by
  have hs : s ∈ Ecosystem.jvm.targets .oom := s.mem_all
  unfold limitJvmStep
  split
  · exact h
  split
  · dsimp only
    split
    · exact h.setEnv _ (by decide)
    · exact (h.setEnv _ (by decide)).setCommand hs _
  split
  · dsimp only
    split
    · exact (h.setEnv _ (by decide)).setCommand hs _
    · exact h.setEnv _ (by decide)
  · exact h

theorem limitJvmMemory_edits (p : Plan) : EditsFor .jvm .oom p (limitJvmMemory p) :=
  Edits.refl.foldl (fun _ s hq => limitJvmStep_edits hq s) _

theorem jvm?_edits (h : jvm? p r = some (q, t)) : EditsFor .jvm r p q := by
  unfold jvm? at h
  split at h
  · cases h
    exact Edits.refl.editAll _
  · cases h
    exact limitJvmMemory_edits p
  · cases h
    exact limitJvmMemory_edits p
  · cases h

theorem limitCargo_edits (p : Plan) : EditsFor .rust .oom p (limitCargo p) :=
  (Edits.refl.setEnvWhereRunnable _ (by decide)).edit (by decide) _

theorem rust?_edits (h : rust? p r = some (q, t)) : EditsFor .rust r p q := by
  unfold rust? at h
  split at h
  · cases h
    exact Edits.refl.editAll _
  · cases h
    exact limitCargo_edits p
  · cases h
    exact limitCargo_edits p
  · cases h

theorem serializeCpp_edits (p : Plan) : EditsFor .cpp .oom p (serializeCpp p) :=
  (((Edits.refl.editAll _).setEnvWhereRunnable _ (by decide)).setEnvWhereRunnable _
    (by decide)).setEnvWhereRunnable _ (by decide)

theorem cpp?_edits (h : cpp? p r = some (q, t)) : EditsFor .cpp r p q := by
  unfold cpp? at h
  split at h
  · cases h
    exact serializeCpp_edits p
  · cases h
    exact serializeCpp_edits p
  · cases h

end Remedy

namespace Ecosystem

variable {e : Ecosystem} {d : Detection} {p q : Plan}

/-- A remedy changes only the commands of its targets and sets only the variables assigned. -/
theorem remedy?_edits {r : Reason} {t : String} (h : e.remedy? d p r = some (q, t)) :
    p.Edits (e.targets r) (e.assigned r) q := by
  cases e with
  | node => exact Remedy.node?_edits h
  | python => exact Remedy.python?_edits h
  | go => exact Remedy.go?_edits h
  | jvm => exact Remedy.jvm?_edits h
  | ruby => exact Remedy.ruby?_edits h
  | rust => exact Remedy.rust?_edits h
  | cpp => exact Remedy.cpp?_edits h
  | generic => cases h

/-- A revised plan is the next attempt, in adaptive mode, and its notes name the plan and the
failure that it answers. -/
structure Revises (e : Ecosystem) (p : Plan) (f : Failure) (q : Plan) : Prop where
  attempt_eq : q.attempt = p.attempt + 1
  mode_eq : q.mode = .adaptive
  metadata_eq : ∃ remedy, q.metadata = e.revisionNotes p f remedy
  new_reason : f.reason.name ∉ p.appliedRemediations
  changed : q.sameExecution p = false

/-- A plan is revised when its failure has a new reason, and the remedy for it changes what runs.
The revised plan is what the remedy gives, with notes of its own. -/
theorem revisedPlan?_eq_some_iff {f : Failure} :
    e.revisedPlan? d p f = some q ↔
      f.reason.name ∉ p.appliedRemediations ∧
      ∃ q' remedy, e.remedy? d p.revise f.reason = some (q', remedy) ∧
        q'.sameExecution p = false ∧ { q' with metadata := e.revisionNotes p f remedy } = q := by
  constructor
  · intro h
    unfold revisedPlan? at h
    split at h
    · cases h
    next hnew =>
    split at h
    · cases h
    next q' remedy hr =>
    split at h
    · cases h
    next hsame =>
    exact ⟨by simpa using hnew, q', remedy, hr, Bool.eq_false_iff.mpr hsame, Option.some.inj h⟩
  · rintro ⟨hnew, q', remedy, hr, hsame, rfl⟩
    simp [revisedPlan?, hnew, hr, hsame]

theorem revises_of_revisedPlan? {f : Failure} (h : e.revisedPlan? d p f = some q) :
    e.Revises p f q := by
  obtain ⟨hnew, q', remedy, hr, hsame, rfl⟩ := revisedPlan?_eq_some_iff.mp h
  have he := (remedy?_edits hr).edited
  exact {
    attempt_eq := he.attempt_eq
    mode_eq := he.mode_eq
    metadata_eq := ⟨remedy, rfl⟩
    new_reason := hnew
    changed := hsame }

end Ecosystem

end PatchTrial
