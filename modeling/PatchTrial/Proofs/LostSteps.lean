import PatchTrial.Proofs.DroppedFlags
import PatchTrial.Proofs.Treatments

/-!
# Steps that lose their command

A step whose command is blank is skipped. Most remedies leave text of every command that had any.
Those that drop flags leave none of a command that has no other words, and the step that was run
before a revision is skipped after it.

Main statement: `step_lost_iff`.
-/
namespace PatchTrial

open Command

namespace Plan

variable {p q : Plan} {s : Step} {f : String → String}

/-- Every step that `p` runs, `q` runs as well. -/
def KeepsSteps (p q : Plan) : Prop := ∀ s, q.command s = none → p.command s = none

theorem KeepsSteps.refl (p : Plan) : p.KeepsSteps p := fun _ => id

theorem KeepsSteps.setEnv (h : p.KeepsSteps q) (u : Step) (key value : String) :
    p.KeepsSteps (q.setEnv u key value) := h

theorem KeepsSteps.setCommand (h : p.KeepsSteps q) (u : Step) {c : String}
    (hc : isBlankText c = false) : p.KeepsSteps (q.setCommand u (some c)) := by
  intro s hs
  by_cases hu : s = u
  · subst hu
    rw [command_setCommand_text _ _ hc] at hs
    cases hs
  · rw [command_setCommand_of_ne _ hu] at hs
    exact h s hs

/-- What is rewritten and keeps text is there still. -/
theorem filter_map_eq_none (hf : KeepsText f)
    (h : ((p.command s).map f).filter (fun c => !isBlankText c) = none) : p.command s = none := by
  cases hc : p.command s with
  | none => rfl
  | some c =>
    rw [hc, Option.map_some, Option.filter_some, hf c (isBlankText_of_command hc)] at h
    cases h

theorem keepsSteps_edit (hf : KeepsText f) (p : Plan) (u : Step) : p.KeepsSteps (p.edit u f) := by
  intro s hs
  by_cases hu : s = u
  · subst hu
    rw [command_edit_self] at hs
    exact filter_map_eq_none hf hs
  · rwa [command_edit_of_ne _ _ hu] at hs

theorem keepsSteps_editAll (hf : KeepsText f) (p : Plan) : p.KeepsSteps (p.editAll f) := by
  intro s hs
  rw [command_editAll] at hs
  exact filter_map_eq_none hf hs

end Plan

open Plan

theorem Treatment.Describes.keepsSteps {t : Treatment} {F : Plan → Plan} (h : t.Describes F)
    (p : Plan) : p.KeepsSteps (F p) := by
  intro s hs
  cases hc : p.command s with
  | none => rfl
  | some c =>
    have hcommand := congrArg Slot.command (h p s)
    rw [slot, slot, hs, Slot.treat, hc] at hcommand
    cases hcommand

namespace Remedy

variable {d : Detection} {p q : Plan} {r : Reason} {t : String}

/-! ### Remedies that leave text -/

/-- Where words come for a word, a command keeps some. -/
theorem replaceToken_keepsText (a : String) {new : String} (hnew : tokens new ≠ []) :
    KeepsText (replaceToken · a new) := by
  intro c hc
  refine Bool.eq_false_iff.mpr fun hblank => Bool.false_ne_true (hc.symm.trans ?_)
  rw [← tokens_eq_nil_iff, tokens_replaceToken, List.flatMap_eq_nil_iff] at hblank
  refine tokens_eq_nil_iff.mp (List.eq_nil_iff_forall_not_mem.mpr fun t ht => ?_)
  have hword := hblank t ht
  split at hword
  · exact hnew hword
  · exact List.cons_ne_nil _ _ hword

theorem withoutWrapper_keepsText : KeepsText withoutWrapper := by
  have hgradle : tokens "gradle" ≠ [] := by decide
  have hmvn : tokens "mvn" ≠ [] := by decide
  intro c hc
  exact replaceToken_keepsText "mvnw" hmvn _ (replaceToken_keepsText "./mvnw" hmvn _
    (replaceToken_keepsText "gradlew" hgradle _ (replaceToken_keepsText "./gradlew" hgradle c hc)))

theorem withoutWorkers_keepsText : KeepsText withoutWorkers := by
  have hplugin : "no:xdist" ∈ tokens "-p no:xdist" := by decide
  exact fun _ _ => isBlankText_appendArgs hplugin

theorem isBlankText_runBefore (cmd : String) :
    isBlankText (runBefore "go mod tidy" cmd) = false := by
  have htext : (runBefore "go mod tidy" cmd).toList =
      "go mod tidy &&".toList ++ ' ' :: (trimmed cmd).toList := by
    simp [runBefore]
  refine isBlankText_of_mem (t := "go") ?_
  rw [tokens, htext, Text.words_append_blank (by decide), List.map_append]
  exact List.mem_append_left _ (by decide)

theorem relaxNodeEngine_keepsSteps (h : relaxNodeEngine d p = some q) : p.KeepsSteps q := by
  obtain ⟨install, -, hq⟩ := Option.bind_eq_some_iff.mp h
  have hflag : "--ignore-engines" ∈ tokens "--ignore-engines" := by decide
  cases hq
  split
  · exact ((KeepsSteps.refl p).setCommand _ (isBlankText_appendArgs hflag)).setEnv _ _ _
  · exact (KeepsSteps.refl p).setEnv _ _ _

theorem installPytest_keepsSteps (p : Plan) : p.KeepsSteps (installPytest p) := by
  have hmodule : tokens "python -m pytest" ≠ [] := by decide
  have htest : isBlankText (Ecosystem.pytestTest (p.command .test)) = false := by
    unfold Ecosystem.pytestTest
    split
    next c hc => exact replaceToken_keepsText _ hmodule c (isBlankText_of_command hc)
    next => exact Bool.eq_false_iff.mpr fun h => hmodule (tokens_eq_nil_iff.mpr h)
  rw [Ecosystem.installPytest_eq]
  have hinstall := Ecosystem.isBlankText_pytestInstall p
  exact ((KeepsSteps.refl p).setCommand _ hinstall).setCommand _ htest

theorem relaxPythonLockfile_keepsSteps (h : relaxPythonLockfile d p = some (q, t)) :
    p.KeepsSteps q := by
  rw [Ecosystem.relaxPythonLockfile_eq h]
  exact (KeepsSteps.refl p).setCommand _ (Ecosystem.freshCommand_texts _ _).1

theorem serializePytest_keepsSteps (h : serializePytest p = some q) : p.KeepsSteps q := by
  obtain ⟨test, -, h⟩ := Option.bind_eq_some_iff.mp h
  obtain ⟨_, -, h⟩ := Option.bind_eq_some_iff.mp h
  cases h
  exact keepsSteps_edit withoutWorkers_keepsText p .test

theorem tidyGoModules_keepsSteps (h : tidyGoModules p = some q) : p.KeepsSteps q := by
  unfold tidyGoModules at h
  split at h
  · cases h
    exact (KeepsSteps.refl p).setCommand _ (by decide)
  split at h
  · cases h
  · cases h
    exact (KeepsSteps.refl p).setCommand _ (isBlankText_runBefore _)

theorem installBundlerGroups_keepsSteps (p : Plan) : p.KeepsSteps (installBundlerGroups p) := by
  have hinstall : p.KeepsSteps (withInstall p) := by
    unfold withInstall
    split
    · exact (KeepsSteps.refl p).setCommand _ (by decide)
    · exact .refl p
  intro s hs
  refine hinstall s ?_
  cases hc : (withInstall p).command s with
  | none => rfl
  | some c =>
    have hcommand := congrArg Slot.command (slot_installBundlerGroups p s)
    rw [slot, slot, hs, Slot.treat, hc] at hcommand
    cases hcommand

end Remedy

namespace Ecosystem

variable {e : Ecosystem} {d : Detection} {p q : Plan} {r : Reason} {f : Failure} {s : Step}
  {c : String}

/-- A remedy that drops no flags leaves text of every command. -/
theorem remedy?_keepsSteps {t : String} (h : e.remedy? d p r = some (q, t))
    (hflags : e.droppedFlags r = []) : p.KeepsSteps q := by
  have hmemory {r' : Reason} (htwin : e.twin? r = some r')
      (hr : r = .oom ∨ r = .concurrencyOom) : p.KeepsSteps q := by
    obtain ⟨τ, F, text, hF, -, hall, -⟩ := remedy?_memory htwin hr d
    cases (hall p).symm.trans h
    exact hF.keepsSteps p
  cases e with
  | node =>
    cases r with
    | oom | concurrencyOom => exact hmemory rfl (by simp)
    | engineMismatch => exact Remedy.relaxNodeEngine_keepsSteps (Remedy.of_map_described h)
    | lockfileDrift | missingDevDependencies => cases hflags
    | _ => cases h
  | python =>
    cases r with
    | missingDevDependencies | commandNotFound =>
      cases h
      exact Remedy.installPytest_keepsSteps p
    | lockfileDrift => exact Remedy.relaxPythonLockfile_keepsSteps h
    | concurrencyOom => exact Remedy.serializePytest_keepsSteps (Remedy.of_map_described h)
    | _ => cases h
  | go =>
    cases r with
    | oom | concurrencyOom => exact hmemory rfl (by simp)
    | lockfileDrift => exact Remedy.tidyGoModules_keepsSteps (Remedy.of_map_described h)
    | _ => cases h
  | jvm =>
    cases r with
    | wrapperMissing =>
      cases h
      exact keepsSteps_editAll Remedy.withoutWrapper_keepsText p
    | oom | concurrencyOom => exact hmemory rfl (by simp)
    | _ => cases h
  | ruby =>
    cases r with
    | missingDevDependencies | commandNotFound =>
      cases h
      exact Remedy.installBundlerGroups_keepsSteps p
    | lockfileDrift => cases hflags
    | _ => cases h
  | rust =>
    cases r with
    | oom | concurrencyOom => exact hmemory rfl (by simp)
    | lockfileDrift => cases hflags
    | _ => cases h
  | cpp =>
    cases r with
    | oom | concurrencyOom => exact hmemory rfl (by simp)
    | _ => cases h
  | generic => cases h

/-! ### Commands of nothing but flags -/

/-- Replacing `npm ci` leaves no command of nothing but flags that was none before. -/
theorem Follows.relaxed_eq_nil_iff (h : node.Follows d p .lockfileDrift q) :
    q.tokensOf .install = [] ↔
      ∀ t ∈ p.tokensOf .install, isAnyFlag (node.droppedFlags .lockfileDrift) t = true := by
  obtain ⟨ts, hpairs, hq⟩ := h.tokensOf_relaxed
  have hnil : q.tokensOf .install = [] ↔
      withoutFlags (node.droppedFlags .lockfileDrift) ts = [] := by
    rw [hq, List.append_eq_nil_iff]
    exact ⟨And.left, fun hnone => ⟨hnone, by rw [hnone]; rfl⟩⟩
  rw [hnil, withoutFlags_eq_nil_iff]
  by_cases hpair : ["npm", "ci"] <:+: p.tokensOf .install
  · have hnpm : isAnyFlag (node.droppedFlags .lockfileDrift) "npm" = false := by decide
    have hold : "npm" ∈ p.tokensOf .install := hpair.subset List.mem_cons_self
    have hnew : "npm" ∈ ts := hpairs.subset hpair List.mem_cons_self
    exact iff_of_false (fun hall => Bool.false_ne_true (hnpm.symm.trans (hall _ hnew)))
      fun hall => Bool.false_ne_true (hnpm.symm.trans (hall _ hold))
  · rw [hpairs.eq_self hpair]

theorem Follows.devTools_eq_nil_iff (h : node.Follows d p .missingDevDependencies q)
    (hc : p.command .install = some c) :
    q.tokensOf .install = [] ↔
      ∀ t ∈ tokens c, isAnyFlag (node.droppedFlags .missingDevDependencies) t = true := by
  rw [h.tokensOf_devTools hc, List.append_eq_nil_iff, ← withoutFlags_eq_nil_iff]
  exact ⟨And.left, fun hnone => ⟨hnone, by rw [hnone]; rfl⟩⟩

/-- A command that was there is gone just where its words are all flags that are dropped. -/
theorem Follows.command_eq_none_iff (h : e.Follows d p r q) (hc : p.command s = some c) :
    q.command s = none ↔
      s ∈ e.targets r ∧ ∀ t ∈ tokens c, isAnyFlag (e.droppedFlags r) t = true := by
  by_cases hs : s ∈ e.targets r
  swap
  · rw [h.command_eq hs, hc]
    exact iff_of_false (Option.some_ne_none c) fun hand => hs hand.1
  rw [iff_true_intro hs, true_and]
  by_cases hflags : e.droppedFlags r = []
  · obtain ⟨q', t, hr, hcommand, -⟩ := h.remedied
    have hwords : tokens c ≠ [] := fun hnil =>
      Bool.false_ne_true ((isBlankText_of_command hc).symm.trans (tokens_eq_nil_iff.mp hnil))
    obtain ⟨t', ht'⟩ := List.exists_mem_of_ne_nil _ hwords
    refine iff_of_false (fun hnone => ?_) fun hall => ?_
    · cases hc.symm.trans (remedy?_keepsSteps hr hflags s ((hcommand s).symm.trans hnone))
    · rw [hflags] at hall
      cases hall t' ht'
  · rw [← tokensOf_eq_nil_iff]
    have hwords := tokensOf_of_command hc
    cases e with
    | node =>
      cases r with
      | lockfileDrift =>
        obtain rfl := List.mem_singleton.mp hs
        rw [h.relaxed_eq_nil_iff, hwords]
      | missingDevDependencies =>
        obtain rfl := List.mem_singleton.mp hs
        exact h.devTools_eq_nil_iff hc
      | _ => exact absurd rfl hflags
    | ruby =>
      cases r with
      | lockfileDrift =>
        obtain rfl := List.mem_singleton.mp hs
        rw [h.tokensOf_bundler, hwords, withoutFlags_eq_nil_iff]
      | _ => exact absurd rfl hflags
    | rust =>
      cases r with
      | lockfileDrift => rw [h.tokensOf_unlocked, hwords, withoutFlags_eq_nil_iff]
      | _ => exact absurd rfl hflags
    | _ => exact absurd (by cases r <;> rfl) hflags

/-- A step that was run is skipped by a revised plan just where it is one that the remedy edits and
all words of its command are flags that the remedy drops, alone or with a value behind `=`. -/
theorem step_lost_iff (e : Ecosystem) (d : Detection) (p q : Plan) (f : Failure) (s : Step)
    (h : e.revisedPlan? d p f = some q) (hs : s ∈ p.runnable Step.all) :
    s ∉ q.runnable Step.all ↔
      s ∈ e.targets f.reason ∧
        ∀ t ∈ p.tokensOf s, isAnyFlag (e.droppedFlags f.reason) t = true := by
  obtain ⟨-, c, hc⟩ := mem_runnable.mp hs
  rw [not_mem_runnable_all, (follows_of_revisedPlan? h).command_eq_none_iff hc,
    tokensOf_of_command hc]

/-- A project whose tests are given by a flag alone. -/
def lockedSite : Detection where
  language := .rust
  commands := { PerStep.const none with
    build := some "cargo build --locked", test := some "--locked" }

/-- The build is run without the flag, and the tests are not run any more. -/
theorem step_lost_locked :
    ∃ q, rust.revisedPlan? lockedSite (rust.strictPlan lockedSite)
        ⟨"build", .lockfileDrift, "", ""⟩ = some q ∧
      (rust.strictPlan lockedSite).runnable Step.all = [.build, .test] ∧
      .build ∈ q.runnable Step.all ∧ .test ∉ q.runnable Step.all := by
  have hq : ∃ q, rust.revisedPlan? lockedSite (rust.strictPlan lockedSite)
      ⟨"build", .lockfileDrift, "", ""⟩ = some q := ⟨_, rfl⟩
  obtain ⟨q, hq⟩ := hq
  refine ⟨q, hq, by decide, ?_, ?_⟩
  · by_contra hbuild
    have hall := ((step_lost_iff rust lockedSite _ q _ .build hq (by decide)).mp hbuild).2
    exact absurd (hall "cargo" (by decide)) (by decide)
  · exact (step_lost_iff rust lockedSite _ q _ .test hq (by decide)).mpr (by decide)

/-- So a revised plan need not run all that the plan before it runs. -/
theorem not_all_steps_kept :
    ¬∀ (e : Ecosystem) (d : Detection) (p q : Plan) (f : Failure),
      e.revisedPlan? d p f = some q → ∀ s ∈ p.runnable Step.all, s ∈ q.runnable Step.all := by
  intro hall
  have hkept := hall rust lockedSite (rust.strictPlan lockedSite) _
    ⟨"build", .lockfileDrift, "", ""⟩ rfl .test (by decide)
  exact absurd hkept (by decide)

end Ecosystem

end PatchTrial
