import PatchTrial.Proofs.QuietSteps
import PatchTrial.Proofs.SkippedSteps

/-!
# What a revision leaves alone

A remedy names the steps whose commands it may change. The commands of all other steps are kept to
the character, and where it edits every step for some words or options in it, so are the commands
that have none. A command comes about only where a remedy puts one, and variables are set only for
steps that are run before or after.

Main statement: `revision_framed`.
-/
namespace PatchTrial

open Command

namespace Plan

variable {p q : Plan} {s u : Step} {f : String → String} {c : String}
  {steps : List Step} {assigned : List (String × String)}

/-! ### Stored commands -/

/-- A blank command is stored still after an edit, any other one gives way. -/
theorem get_commands_edit_self (p : Plan) (s : Step) (f : String → String) :
    (p.edit s f).commands.get s = ((p.command s).map f).or (p.commands.get s) := by
  unfold edit
  split
  next h => rw [h, Option.map_none, Option.none_or]
  next c h => rw [h, Option.map_some, Option.some_or, setCommand, PerStep.get_set_self]

theorem get_commands_edit_of_ne (p : Plan) (f : String → String) (h : u ≠ s) :
    (p.edit s f).commands.get u = p.commands.get u := by
  unfold edit
  split
  · rfl
  · exact PerStep.get_set_of_ne _ _ h

theorem get_commands_editAll (p : Plan) (f : String → String) (s : Step) :
    (p.editAll f).commands.get s = ((p.command s).map f).or (p.commands.get s) := by
  have hedit := @foldl_at _ (fun p s => p.commands.get s)
    (fun _ c => ((c.filter fun c => !isBlankText c).map f).or c) _
    (fun p s => p.get_commands_edit_self s f) (fun p _ _ h => p.get_commands_edit_of_ne f h) _
    (p.nodup_runnable (by decide : Step.all.Nodup)) p s
  rw [editAll, hedit]
  split
  · rfl
  next h => rw [not_mem_runnable_all.mp h, Option.map_none, Option.none_or]

/-- A stored command that an edit of all commands would give back is kept. -/
theorem get_commands_editAll_self (hc : p.commands.get s = some c) (hf : f c = c) :
    (p.editAll f).commands.get s = some c := by
  rw [get_commands_editAll, command, hc, Option.filter_some]
  split
  · rw [Option.map_some, Option.some_or, hf]
  · rw [Option.map_none, Option.none_or]

@[simp] theorem commands_setEnvWhereRunnable (p : Plan) (steps : List Step) (key value : String) :
    (p.setEnvWhereRunnable steps key value).commands = p.commands := by
  rw [setEnvWhereRunnable]
  induction p.runnable steps generalizing p with
  | nil => rfl
  | cons u todo ih => exact ih (p.setEnv u key value)

/-- What there is no command for, an edit gives none. -/
theorem command_edit_of_none (h : p.command s = none) (u : Step) (f : String → String) :
    (p.edit u f).command s = none := by
  by_cases hu : s = u
  · subst hu
    rw [command_edit_self, h, Option.map_none, Option.filter_none]
  · rw [command_edit_of_ne _ _ hu, h]

/-! ### Variables -/

/-- Each variable has the value that it had, or one that is assigned to it. -/
theorem Edits.envValue?_eq_or (h : p.Edits steps assigned q) (s : Step) (key : String) :
    q.envValue? s key = p.envValue? s key ∨
      ∃ value, (key, value) ∈ assigned ∧ q.envValue? s key = some value := by
  induction h with
  | refl => exact Or.inl rfl
  | setCommand h hu c ih => exact ih
  | @setEnv q h u key' value hv ih =>
    by_cases hsame : s = u ∧ key = key'
    · obtain ⟨rfl, rfl⟩ := hsame
      exact Or.inr ⟨value, hv, envValue?_setEnv_self ..⟩
    · rwa [envValue?_setEnv_of_ne _ _ _ _ hsame]

end Plan

namespace Ecosystem

open Plan

variable {e : Ecosystem} {d : Detection} {p q : Plan} {r : Reason} {f : Failure} {s : Step}
  {t c : String}

/-! ### Tables -/

/-- The steps that the remedy for a reason may give a command. -/
def gains : Ecosystem → Reason → List Step
  | .node, .missingDevDependencies => [.install]
  | .python, .missingDevDependencies | .python, .commandNotFound => [.install, .test]
  | .python, .lockfileDrift | .go, .lockfileDrift => [.install]
  | .ruby, .missingDevDependencies | .ruby, .commandNotFound => [.install]
  | _, _ => []

/-- The commands that the remedy for a reason is about: those of every target, or those that have
the words or options for which it edits all steps. -/
def Concerns : Ecosystem → Reason → String → Prop
  | .jvm, .wrapperMissing, c => ∃ t ∈ tokens c, isWrapper t = true
  | .rust, .lockfileDrift, c => ∃ t ∈ tokens c, isLock t = true
  | .cpp, .oom, c | .cpp, .concurrencyOom, c =>
    Parallel.HasOption Parallel.JobsAt true c.toList ∨
      Parallel.HasOption Parallel.LevelAt true c.toList
  | _, _, _ => True

/-! ### Commands that a remedy is not about -/

/-- The remedies that edit all steps for some words or options keep every other command, with its
spacing. -/
theorem remedy?_spares (h : e.remedy? d p r = some (q, t)) (hc : p.commands.get s = some c)
    (hfree : ¬e.Concerns r c) : q.commands.get s = some c := by
  cases e with
  | jvm =>
    cases r with
    | wrapperMissing =>
      cases h
      refine get_commands_editAll_self hc (withoutWrapper_self ?_)
      rwa [Bool.eq_false_iff, Ne, List.any_eq_true]
    | _ => exact absurd trivial hfree
  | rust =>
    cases r with
    | lockfileDrift =>
      cases h
      refine get_commands_editAll_self hc (unlocked_self ?_)
      rwa [Bool.eq_false_iff, Ne, List.any_eq_true]
    | _ => exact absurd trivial hfree
  | cpp =>
    cases r with
    | oom | concurrencyOom =>
      cases h
      obtain ⟨hjobs, hlevel⟩ := not_or.mp hfree
      simp only [Remedy.serializeCpp, commands_setEnvWhereRunnable]
      exact get_commands_editAll_self hc (Parallel.serialized_self hjobs hlevel)
    | _ => exact absurd trivial hfree
  | _ => exact absurd trivial hfree

/-! ### Steps without a command -/

theorem installBundlerGroups_of_none (hs : p.command s = none) (hinstall : s ≠ .install) :
    (Remedy.installBundlerGroups p).command s = none := by
  have hwith : (Remedy.withInstall p).command s = none := by
    unfold Remedy.withInstall
    split
    · exact (p.command_setCommand_of_ne hinstall _).trans hs
    · exact hs
  have hslot := Remedy.slot_installBundlerGroups p s
  rw [Slot.treat_of_none hwith] at hslot
  exact (congrArg Slot.command hslot).trans hwith

/-- A remedy gives a command only to the steps that the table names. -/
theorem remedy?_gains (h : e.remedy? d p r = some (q, t)) (hs : p.command s = none)
    (hgains : s ∉ e.gains r) : q.command s = none := by
  -- Where every target may gain a command, the others are not touched.
  have huntouched (heq : e.gains r = e.targets r) : q.command s = none := by
    rw [command, (remedy?_edits h).command_eq (heq ▸ hgains)]
    exact hs
  have hconfined (hq : p.Confined q) : q.command s = none := (hq s hs).1
  cases e with
  | node =>
    cases r with
    | missingDevDependencies => exact huntouched rfl
    | lockfileDrift =>
      exact hconfined (Remedy.relaxNodeLockfile_confined (Remedy.of_map_described h))
    | engineMismatch =>
      exact hconfined (Remedy.relaxNodeEngine_confined (Remedy.of_map_described h))
    | oom | concurrencyOom => exact hconfined (remedy?_confined h rfl (by simp))
    | _ => cases h
  | python =>
    cases r with
    | missingDevDependencies | commandNotFound | lockfileDrift => exact huntouched rfl
    | concurrencyOom =>
      obtain ⟨test, -, hq⟩ := Option.bind_eq_some_iff.mp (Remedy.of_map_described h)
      obtain ⟨_, -, hq⟩ := Option.bind_eq_some_iff.mp hq
      cases hq
      exact command_edit_of_none hs .test _
    | _ => cases h
  | go =>
    cases r with
    | lockfileDrift => exact huntouched rfl
    | oom | concurrencyOom => exact hconfined (remedy?_confined h rfl (by simp))
    | _ => cases h
  | jvm =>
    cases r with
    | wrapperMissing =>
      cases h
      rw [command_editAll, hs, Option.map_none, Option.filter_none]
    | oom | concurrencyOom => exact hconfined (remedy?_confined h rfl (by simp))
    | _ => cases h
  | ruby =>
    cases r with
    | lockfileDrift => exact hconfined (Remedy.relaxBundler_confined (Remedy.of_map_described h))
    | missingDevDependencies | commandNotFound =>
      cases h
      exact installBundlerGroups_of_none hs fun heq => hgains (List.mem_singleton.mpr heq)
    | _ => cases h
  | rust =>
    cases r with
    | lockfileDrift =>
      cases h
      rw [command_editAll, hs, Option.map_none, Option.filter_none]
    | oom | concurrencyOom => exact hconfined (remedy?_confined h rfl (by simp))
    | _ => cases h
  | cpp =>
    cases r with
    | oom | concurrencyOom => exact hconfined (remedy?_confined h rfl (by simp))
    | _ => cases h
  | generic => cases h

/-! ### Revisions -/

/-- What is the same in a plan and its revision, commands as they are stored and blank ones
included. -/
structure Framed (e : Ecosystem) (r : Reason) (p q : Plan) : Prop where
  untargeted : ∀ s, s ∉ e.targets r → q.commands.get s = p.commands.get s
  spared : ∀ s c, p.commands.get s = some c → ¬e.Concerns r c → q.commands.get s = some c
  gained : ∀ s, p.command s = none → q.command s ≠ none → s ∈ e.gains r
  skipped : ∀ s, p.command s = none → q.command s = none → q.envFor s = p.envFor s
  assignments : ∀ s key, q.envValue? s key = p.envValue? s key ∨
    ∃ value, (key, value) ∈ e.assigned r ∧ q.envValue? s key = some value

theorem remedy?_framed (h : e.remedy? d p r = some (q, t)) : e.Framed r p q where
  untargeted s hs := (remedy?_edits h).command_eq hs
  spared s c hc hfree := remedy?_spares h hc hfree
  gained s hs hq := by
    by_contra hgains
    exact hq (remedy?_gains h hs hgains)
  skipped := remedy?_skipsAlike h
  assignments := (remedy?_edits h).envValue?_eq_or

/-- A revision changes the commands of the targets of its remedy only, and of these none that the
remedy is not about. It gives commands to the steps that the table names only. It sets variables
for no step that is skipped before and after it, and only to what is assigned. -/
theorem revision_framed (e : Ecosystem) (d : Detection) (p q : Plan) (f : Failure)
    (h : e.revisedPlan? d p f = some q) : e.Framed f.reason p q := by
  unfold revisedPlan? at h
  split at h
  · cases h
  split at h
  · cases h
  next q' remedy hr =>
  split at h
  · cases h
  cases h
  have hframed := remedy?_framed hr
  exact ⟨hframed.untargeted, hframed.spared, hframed.gained, hframed.skipped, hframed.assignments⟩

/-- A project with a wrapper script, and with two blanks in an argument of the benchmarks. -/
def wrappedSite : Detection where
  language := .jvm
  commands := { PerStep.const none with
    build := some "./gradlew build", bench := some "java -jar bench.jar --args \"a  b\"" }

/-- The build is run without the script, the benchmarks as they were. -/
theorem revision_framed_wrapper :
    ∃ q, jvm.revisedPlan? wrappedSite (jvm.strictPlan wrappedSite)
        ⟨"build", .wrapperMissing, "", ""⟩ = some q ∧
      q.commands.get .build = some "gradle build" ∧
      q.commands.get .bench = some "java -jar bench.jar --args \"a  b\"" ∧
      jvm.Framed .wrapperMissing (jvm.strictPlan wrappedSite) q := by
  have hframed := revision_framed jvm wrappedSite (jvm.strictPlan wrappedSite) _
    ⟨"build", .wrapperMissing, "", ""⟩ rfl
  refine ⟨_, rfl, rfl, hframed.spared .bench _ rfl ?_, hframed⟩
  change ¬∃ t ∈ tokens _, isWrapper t = true
  decide

end Ecosystem

end PatchTrial
