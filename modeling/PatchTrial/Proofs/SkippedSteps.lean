import PatchTrial.Proofs.Treatments

/-!
# What a revision changes is run

A remedy leaves a step alone that has no command, or gives it one. So the environment of a step
that is skipped before and after a revision stays as it is, and a revised plan always differs from
the plan before it in something that is run: a command, or the environment of one.

Main statement: `revision_changes_what_runs`.
-/
namespace PatchTrial

open Command

namespace Plan

variable {p q : Plan} {s : Step} {c : String}

/-! ### Steps that are skipped -/

/-- The steps that `p` skips are in `q` as they were, still without a command. -/
def Confined (p q : Plan) : Prop :=
  ∀ s, p.command s = none → q.command s = none ∧ q.env.get s = p.env.get s

/-- A step that both plans skip has the same environment in both. -/
def SkipsAlike (p q : Plan) : Prop :=
  ∀ s, p.command s = none → q.command s = none → q.env.get s = p.env.get s

theorem Confined.refl (p : Plan) : p.Confined p := fun _ hs => ⟨hs, rfl⟩

theorem Confined.skipsAlike (h : p.Confined q) : p.SkipsAlike q := fun s hs _ => (h s hs).2

/-- A step with a command is none of those that are skipped. -/
theorem ne_of_command {u : Step} (hc : p.command s = some c) (hu : p.command u = none) : u ≠ s := by
  rintro rfl
  cases hc.symm.trans hu

theorem Confined.setEnv (h : p.Confined q) (hc : p.command s = some c) (key value : String) :
    p.Confined (q.setEnv s key value) := by
  intro u hu
  obtain ⟨hq, henv⟩ := h u hu
  exact ⟨hq, (PerStep.get_set_of_ne _ _ (ne_of_command hc hu)).trans henv⟩

theorem Confined.setCommand (h : p.Confined q) (hc : p.command s = some c) (c' : Option String) :
    p.Confined (q.setCommand s c') := by
  intro u hu
  obtain ⟨hq, henv⟩ := h u hu
  exact ⟨(q.command_setCommand_of_ne (ne_of_command hc hu) c').trans hq, henv⟩

/-- Only a step that has a command, or gets one, has its environment changed. -/
theorem skipsAlike_of_step (hother : ∀ u, u ≠ s → q.env.get u = p.env.get u)
    (hs : p.command s = none → q.command s ≠ none) : p.SkipsAlike q := by
  intro u hu hu'
  refine hother u ?_
  rintro rfl
  exact hs hu hu'

end Plan

theorem Treatment.Describes.confined {t : Treatment} {F : Plan → Plan} (h : t.Describes F)
    (p : Plan) : p.Confined (F p) := by
  intro s hs
  have hslot := h.slot_of_none hs
  exact ⟨(congrArg Plan.Slot.command hslot).trans hs, congrArg Plan.Slot.env hslot⟩

namespace Remedy

open Plan

variable {d : Detection} {p q : Plan} {r : Reason} {t : String}

/-! ### Remedies -/

theorem relaxNodeLockfile_confined (h : relaxNodeLockfile d p = some q) : p.Confined q := by
  simp only [relaxNodeLockfile, Option.bind_eq_bind, Option.bind_eq_some_iff] at h
  obtain ⟨install, hc, h⟩ := h
  cases h
  split
  · exact ((Confined.refl p).setCommand hc _).setEnv hc _ _
  · exact (Confined.refl p).setCommand hc _

theorem relaxNodeEngine_confined (h : relaxNodeEngine d p = some q) : p.Confined q := by
  simp only [relaxNodeEngine, Option.bind_eq_bind, Option.bind_eq_some_iff] at h
  obtain ⟨install, hc, h⟩ := h
  cases h
  split
  · exact ((Confined.refl p).setCommand hc _).setEnv hc _ _
  · exact (Confined.refl p).setEnv hc _ _

theorem mem_tokens_removeFlag {cmd flag : String} (h : t ∈ tokens cmd)
    (hflag : isFlag flag t = false) : t ∈ tokens (removeFlag cmd flag) := by
  rw [tokens_removeFlag, List.mem_filter, hflag]
  exact ⟨h, rfl⟩

/-- Whatever the package manager is called, the command to install has a word that stays. -/
theorem install_mem_tokens (manager : String) : "install" ∈ tokens (manager ++ " install") := by
  have htext : (manager ++ " install").toList = manager.toList ++ ' ' :: "install".toList := by
    simp
  rw [tokens, htext, Text.words_append_blank (by decide), List.map_append]
  exact List.mem_append_right _ (List.mem_singleton_self _)

theorem installNodeDevTools_skipsAlike (d : Detection) (p : Plan) :
    p.SkipsAlike (installNodeDevTools d p) := by
  refine skipsAlike_of_step (s := .install) (fun u hu => ?_) fun hnone hnone' => ?_
  · exact (PerStep.get_set_of_ne _ _ hu).trans (PerStep.get_set_of_ne _ _ hu)
  have hwords : "install" ∈ (installNodeDevTools d p).tokensOf .install := by
    have hplain := mem_tokens_removeFlag (mem_tokens_removeFlag (mem_tokens_removeFlag
      (install_mem_tokens (d.packageManager.getD "npm")) (rfl : isFlag "--production" _ = false))
      (rfl : isFlag "--prod" _ = false)) (rfl : isFlag "--omit" _ = false)
    change "install" ∈ (p.setCommand .install _).tokensOf .install
    rw [tokensOf_setCommand_self, hnone, Option.elim_some]
    split
    · rw [tokens_appendArgs]
      exact List.mem_append_left _ hplain
    · exact hplain
  rw [tokensOf, hnone'] at hwords
  cases hwords

theorem node?_skipsAlike (h : node? d p r = some (q, t)) : p.SkipsAlike q := by
  unfold node? at h
  split at h
  · exact (relaxNodeLockfile_confined (of_map_described h)).skipsAlike
  · cases h
    exact ((nodeMemory_describes d).confined p).skipsAlike
  · cases h
    exact ((nodeMemory_describes d).confined p).skipsAlike
  · cases h
    exact installNodeDevTools_skipsAlike d p
  · exact (relaxNodeEngine_confined (of_map_described h)).skipsAlike
  · cases h

theorem relaxBundler_confined (h : relaxBundler p = some q) : p.Confined q := by
  simp only [relaxBundler, Option.bind_eq_bind, Option.bind_eq_some_iff] at h
  obtain ⟨install, hc, h⟩ := h
  cases h
  exact (((Confined.refl p).setCommand hc _).setEnv hc _ _).setEnv hc _ _

theorem installBundlerGroups_skipsAlike (p : Plan) : p.SkipsAlike (installBundlerGroups p) := by
  refine skipsAlike_of_step (s := .install) (fun u hu => ?_) fun hnone => ?_
  · rw [installBundlerGroups, env_edit]
    refine (PerStep.get_set_of_ne _ _ hu).trans ?_
    split <;> rfl
  · have hcommand : (p.setCommand .install (some "bundle install")).command .install =
        some "bundle install" := p.command_setCommand_text _ rfl
    rw [installBundlerGroups, command_edit_of_ne _ _ (by decide), command_setEnv, hnone]
    exact fun h => by cases hcommand.symm.trans h

theorem ruby?_skipsAlike (h : ruby? p r = some (q, t)) : p.SkipsAlike q := by
  unfold ruby? at h
  split at h
  · exact (relaxBundler_confined (of_map_described h)).skipsAlike
  · cases h
    exact installBundlerGroups_skipsAlike p
  · cases h
    exact installBundlerGroups_skipsAlike p
  · cases h

end Remedy

namespace Ecosystem

variable {e : Ecosystem} {d : Detection} {p q : Plan} {r : Reason} {f : Failure}

/-- The remedy for a lack of memory touches no step that has no command. -/
theorem remedy?_confined {r' : Reason} {t : String} (h : e.remedy? d p r = some (q, t))
    (htwin : e.twin? r = some r') (hr : r = .oom ∨ r = .concurrencyOom) : p.Confined q := by
  obtain ⟨τ, F, text, hF, -, hall, -⟩ := remedy?_memory htwin hr d
  cases (hall p).symm.trans h
  exact hF.confined p

/-- A remedy gives no environment to a step that is skipped before and after it. -/
theorem remedy?_skipsAlike {t : String} (h : e.remedy? d p r = some (q, t)) : p.SkipsAlike q := by
  -- Where nothing is assigned, all environments stay.
  have hnone (hassigned : e.assigned r = []) : p.SkipsAlike q := fun s _ _ => by
    rw [(remedy?_edits h).env_eq hassigned]
  cases e with
  | node => exact Remedy.node?_skipsAlike h
  | python => exact hnone (by cases r <;> rfl)
  | go | jvm | rust | cpp =>
    cases r with
    | oom | concurrencyOom => exact (remedy?_confined h rfl (by simp)).skipsAlike
    | _ => exact hnone rfl
  | ruby => exact Remedy.ruby?_skipsAlike h
  | generic => cases h

/-- A revised plan runs another command for some step, or runs one in another environment. -/
theorem revision_changes_what_runs (e : Ecosystem) (d : Detection) (p : Plan) (f : Failure)
    (q : Plan) (h : e.revisedPlan? d p f = some q) :
    ∃ s, q.command s ≠ p.command s ∨
      (∃ c c', p.command s = some c ∧ q.command s = some c') ∧ q.envFor s ≠ p.envFor s := by
  obtain ⟨q', t, hr, hcommand, henv⟩ := (follows_of_revisedPlan? h).remedied
  have hskips := remedy?_skipsAlike hr
  by_contra hsame
  push Not at hsame
  have hcommands : ∀ s, q.command s = p.command s := fun s => (hsame s).1
  have henvs : q.env = p.env := by
    refine PerStep.ext_get fun s => ?_
    cases hc : p.command s with
    | some c => exact (hsame s).2 ⟨c, c, hc, (hcommands s).trans hc⟩
    | none =>
      rw [henv]
      exact hskips s hc ((hcommand s).symm.trans ((hcommands s).trans hc))
  have hrun : q.sameExecution p = true := Plan.sameExecution_iff.mpr ⟨hcommands, henvs⟩
  exact Bool.false_ne_true ((revises_of_revisedPlan? h).changed.symm.trans hrun)

/-- A plan with a blank command, whose environment no revision touches. -/
def blankTests : Plan where
  attempt := 1
  mode := .adaptive
  commands := { PerStep.const none with build := some "make", test := some " " }
  env := { PerStep.const none with test := some (SortedMap.empty.insert "CARGO_BUILD_JOBS" "8") }
  metadata := .null

/-- No command is changed, but the build gets a variable. -/
theorem revision_changes_what_runs_make :
    ∃ q, rust.revisedPlan? {} blankTests ⟨"build", .oom, "", ""⟩ = some q ∧
      (∀ s, q.command s = blankTests.command s) ∧
      ∃ s, q.command s ≠ blankTests.command s ∨
        (∃ c c', blankTests.command s = some c ∧ q.command s = some c') ∧
          q.envFor s ≠ blankTests.envFor s :=
  ⟨_, rfl, fun s => by cases s <;> rfl,
    revision_changes_what_runs rust {} blankTests ⟨"build", .oom, "", ""⟩ _ rfl⟩

end Ecosystem

end PatchTrial
