import Mathlib.Data.List.Nodup
import PatchTrial.Proofs.Environments
import PatchTrial.Proofs.Words

/-!
# The commands of an edited plan

What an edit does to the command of each step and to the words of that command. A command that an
edit leaves blank is none, and has no words either way.
-/
namespace PatchTrial.Plan

variable (p : Plan) (s u : Step) (f : String → String)

/-! ### Commands -/

/-- A command that is there is not blank. -/
theorem isBlankText_of_command {p : Plan} {s : Step} {c : String} (h : p.command s = some c) :
    isBlankText c = false := by
  simpa using (Option.filter_eq_some_iff.mp h).2

theorem command_setCommand_self (c : Option String) :
    (p.setCommand s c).command s = c.filter fun c => !isBlankText c := by
  rw [command, setCommand, PerStep.get_set_self]

theorem command_setCommand_of_ne {s u : Step} (h : u ≠ s) (c : Option String) :
    (p.setCommand s c).command u = p.command u := by
  rw [command, setCommand, PerStep.get_set_of_ne _ _ h]
  rfl

theorem command_setCommand_text {c : String} (h : isBlankText c = false) :
    (p.setCommand s (some c)).command s = some c := by
  rw [command_setCommand_self, Option.filter_some, if_pos (by rw [h]; rfl)]

@[simp] theorem command_revise : p.revise.command u = p.command u := rfl

@[simp] theorem command_setEnv (key value : String) :
    (p.setEnv s key value).command u = p.command u := rfl

theorem command_edit_self :
    (p.edit s f).command s = ((p.command s).map f).filter fun c => !isBlankText c := by
  unfold edit
  split
  next h => rw [h, Option.map_none, Option.filter_none]
  next c h => rw [h, command_setCommand_self, Option.map_some]

theorem command_edit_of_ne {s u : Step} (h : u ≠ s) : (p.edit s f).command u = p.command u := by
  unfold edit
  split
  · rfl
  · exact p.command_setCommand_of_ne h _

@[simp] theorem env_edit : (p.edit s f).env = p.env := by
  unfold edit
  split <;> rfl

theorem mem_runnable {p : Plan} {s : Step} {steps : List Step} :
    s ∈ p.runnable steps ↔ s ∈ steps ∧ ∃ c, p.command s = some c := by
  rw [runnable, List.mem_filter, Option.isSome_iff_exists]

/-- A step that is not run has no command. -/
theorem not_mem_runnable_all {p : Plan} {s : Step} :
    s ∉ p.runnable Step.all ↔ p.command s = none := by
  rw [mem_runnable, iff_true_intro s.mem_all, true_and, ← Option.isSome_iff_exists,
    Option.not_isSome_iff_eq_none]

/-- Where each edit changes what is seen at its own step only, a run of edits for different steps
changes what is seen at each of them once. -/
theorem foldl_at {α : Type} {seen : Plan → Step → α} (change : Step → α → α)
    {edit : Plan → Step → Plan} (hself : ∀ p s, seen (edit p s) s = change s (seen p s))
    (hother : ∀ p s u, u ≠ s → seen (edit p s) u = seen p u) {steps : List Step}
    (hnodup : steps.Nodup) (p : Plan) (s : Step) :
    seen (steps.foldl edit p) s = if s ∈ steps then change s (seen p s) else seen p s := by
  induction steps generalizing p with
  | nil => rfl
  | cons u steps ih =>
    obtain ⟨hu, hsteps⟩ := List.nodup_cons.mp hnodup
    rw [List.foldl_cons, ih hsteps]
    by_cases hs : s = u
    · subst hs
      rw [if_neg hu, if_pos List.mem_cons_self, hself]
    · simp only [List.mem_cons, hs, false_or, hother _ _ _ hs]

theorem nodup_runnable {steps : List Step} (h : steps.Nodup) : (p.runnable steps).Nodup :=
  h.filter _

theorem command_editAll :
    (p.editAll f).command s = ((p.command s).map f).filter fun c => !isBlankText c := by
  rw [editAll, foldl_at (fun _ c => (c.map f).filter fun c => !isBlankText c)
    (fun p s => p.command_edit_self s f) (fun p _ _ h => p.command_edit_of_ne f h)
    (p.nodup_runnable (by decide))]
  split
  · rfl
  next h => rw [not_mem_runnable_all.mp h, Option.map_none, Option.filter_none]

@[simp] theorem command_setEnvWhereRunnable (steps : List Step) (key value : String) :
    (p.setEnvWhereRunnable steps key value).command s = p.command s := by
  rw [setEnvWhereRunnable]
  induction p.runnable steps generalizing p with
  | nil => rfl
  | cons u todo ih => exact ih (p.setEnv u key value)

@[simp] theorem runnable_setEnvWhereRunnable (steps steps' : List Step) (key value : String) :
    (p.setEnvWhereRunnable steps key value).runnable steps' = p.runnable steps' := by
  simp only [runnable, command_setEnvWhereRunnable]

/-- Either there is no step to set a variable for, or it is set for one. -/
theorem setEnvWhereRunnable_cases (steps : List Step) (key value : String) :
    (p.runnable steps = [] ∧ p.setEnvWhereRunnable steps key value = p) ∨
      ∃ s, (p.setEnvWhereRunnable steps key value).envValue? s key = some value := by
  rw [setEnvWhereRunnable]
  rcases List.eq_nil_or_concat (p.runnable steps) with hnil | ⟨todo, s, hconcat⟩
  · exact Or.inl ⟨hnil, by rw [hnil]; rfl⟩
  · rw [hconcat, List.concat_eq_append, List.foldl_append]
    exact Or.inr ⟨s, envValue?_setEnv_self ..⟩

/-! ### Words -/

/-- The words of the command of a step. -/
def tokensOf : List String := (p.command s).elim [] Command.tokens

theorem elim_filter_tokens (c : Option String) :
    (c.filter fun c => !isBlankText c).elim [] Command.tokens = c.elim [] Command.tokens := by
  cases c with
  | none => rfl
  | some c =>
    rw [Option.filter_some]
    split
    · rfl
    next h => exact (Command.tokens_of_isBlankText (by simpa using h)).symm

theorem exists_command_of_mem {p : Plan} {s : Step} {t : String} (h : t ∈ p.tokensOf s) :
    ∃ c, p.command s = some c ∧ t ∈ Command.tokens c := by
  unfold tokensOf at h
  cases hc : p.command s with
  | none =>
    rw [hc] at h
    cases h
  | some c =>
    rw [hc] at h
    exact ⟨c, rfl, h⟩

theorem tokensOf_setCommand_self (c : Option String) :
    (p.setCommand s c).tokensOf s = c.elim [] Command.tokens := by
  rw [tokensOf, command_setCommand_self, elim_filter_tokens]

theorem tokensOf_edit_self :
    (p.edit s f).tokensOf s = (p.command s).elim [] fun c => Command.tokens (f c) := by
  rw [tokensOf, command_edit_self, elim_filter_tokens]
  cases p.command s <;> rfl

end PatchTrial.Plan
