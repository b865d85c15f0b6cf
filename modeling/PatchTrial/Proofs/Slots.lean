import PatchTrial.Proofs.Accumulation
import PatchTrial.Proofs.PlanCommands

/-!
# Steps by themselves

A step sees of a plan its slot: its own command and environment. An edit of single steps treats
their slots and leaves the others, a run of edits for different steps treats each slot once, and to
set variables twice is to set them once.
-/
namespace PatchTrial

namespace Plan

/-! ### Slots -/

/-- What a plan holds for a step: its command, unless that is blank, and its environment. -/
structure Slot where
  command : Option String
  env : Option Env

def slot (p : Plan) (s : Step) : Slot := ⟨p.command s, p.env.get s⟩

/-- An environment in which variables are set, one after the other. -/
def assign (vars : List (String × String)) (env : Option Env) : Option Env :=
  vars.foldl (fun env v => some ((env.getD .empty).insert v.1 v.2)) env

/-- The command is rewritten and gets variables. Where there is none, nothing is done. -/
def Slot.treat (f : String → String) (vars : String → List (String × String)) (x : Slot) : Slot :=
  match x.command with
  | none => x
  | some c => ⟨some (f c), assign (vars c) x.env⟩

/-- Rewriting leaves some text of a command that has any. -/
def KeepsText (f : String → String) : Prop :=
  ∀ c, isBlankText c = false → isBlankText (f c) = false

variable {p q : Plan} {s u : Step} {f g : String → String}
  {vars vars' : List (String × String)} {key value : String}

theorem sameExecution_iff_slot : p.sameExecution q = true ↔ ∀ s, p.slot s = q.slot s := by
  simp only [sameExecution_iff, slot, Slot.mk.injEq, forall_and]
  exact and_congr_right fun _ => ⟨fun h s => by rw [h], PerStep.ext_get⟩

theorem Slot.treat_treat (f g : String → String) (vars vars' : String → List (String × String))
    (x : Slot) :
    (x.treat f vars).treat g vars' = x.treat (g ∘ f) fun c => vars c ++ vars' (f c) := by
  obtain ⟨command, env⟩ := x
  cases command with
  | none => rfl
  | some c => simp [treat, assign]

theorem Slot.treat_of_none {x : Slot} (h : x.command = none)
    (f : String → String) (vars : String → List (String × String)) : x.treat f vars = x := by
  rw [treat, h]

theorem Slot.treat_id (x : Slot) : x.treat id (fun _ => []) = x := by
  obtain ⟨command, env⟩ := x
  cases command <;> rfl

/-! ### Variables -/

/-- Variables that have their values already are set to them in vain. -/
theorem assign_of_get? {env : Env} (h : ∀ v ∈ vars, env.get? v.1 = some v.2) :
    assign vars (some env) = some env := by
  induction vars with
  | nil => rfl
  | cons v vars ih =>
    rw [List.forall_mem_cons] at h
    rw [assign, List.foldl_cons, Option.getD_some, SortedMap.insert_of_get? h.1]
    exact ih h.2

theorem get?_assign_of_not_mem (env : Env) (h : key ∉ vars.map Prod.fst) :
    ∃ env', assign vars (some env) = some env' ∧ env'.get? key = env.get? key := by
  induction vars generalizing env with
  | nil => exact ⟨env, rfl, rfl⟩
  | cons v vars ih =>
    rw [List.map_cons, List.mem_cons, not_or] at h
    obtain ⟨env', heq, hget⟩ := ih (env.insert v.1 v.2) h.2
    exact ⟨env', heq, hget.trans (SortedMap.get?_insert_of_ne _ h.1 _)⟩

theorem get?_assign (hnodup : (vars.map Prod.fst).Nodup) (hv : (key, value) ∈ vars)
    (env : Option Env) :
    ∃ env', assign vars env = some env' ∧ env'.get? key = some value := by
  induction vars generalizing env with
  | nil => cases hv
  | cons v vars ih =>
    obtain ⟨hhead, hnodup⟩ := List.nodup_cons.mp hnodup
    rcases List.mem_cons.mp hv with rfl | hv
    · obtain ⟨env', heq, hget⟩ :=
        get?_assign_of_not_mem ((env.getD .empty).insert key value) hhead
      exact ⟨env', heq, hget.trans (SortedMap.get?_insert_self _ _ _)⟩
    · exact ih hnodup hv _

/-- Setting variables twice is setting them once. -/
theorem assign_assign (hnodup : (vars.map Prod.fst).Nodup) (env : Option Env) :
    assign vars (assign vars env) = assign vars env := by
  cases vars with
  | nil => rfl
  | cons v vars =>
    obtain ⟨env', heq, -⟩ := get?_assign hnodup List.mem_cons_self env
    rw [heq]
    refine assign_of_get? fun w hw => ?_
    obtain ⟨env'', heq', hget⟩ := get?_assign hnodup hw env
    cases heq.symm.trans heq'
    exact hget

/-! ### Edits -/

theorem setCommand_of_command {c : String} (h : p.command s = some c) :
    p.setCommand s (some c) = p := by
  have hget : p.commands.get s = some c := (Option.filter_eq_some_iff.mp h).1
  have hset : p.commands.set s (some c) = p.commands := by
    refine PerStep.ext_get fun u => ?_
    by_cases hu : u = s
    · rw [hu, PerStep.get_set_self, hget]
    · exact PerStep.get_set_of_ne _ _ hu
  rw [setCommand, hset]

theorem slot_setCommand_of_ne (h : u ≠ s) (c : Option String) :
    (p.setCommand s c).slot u = p.slot u := by
  rw [slot, command_setCommand_of_ne _ h]
  rfl

theorem slot_setEnv_of_ne (h : u ≠ s) : (p.setEnv s key value).slot u = p.slot u := by
  rw [slot, command_setEnv, setEnv, PerStep.get_set_of_ne _ _ h]
  rfl

theorem slot_setEnv_self :
    (p.setEnv s key value).slot s = ⟨p.command s, assign [(key, value)] (p.env.get s)⟩ := by
  rw [slot, command_setEnv, setEnv, PerStep.get_set_self]
  rfl

theorem slot_edit_self (hf : KeepsText f) :
    (p.edit s f).slot s = (p.slot s).treat f fun _ => [] := by
  rw [slot, slot, command_edit_self, env_edit]
  cases hc : p.command s with
  | none => rfl
  | some c =>
    rw [Option.map_some, Option.filter_some, hf c (isBlankText_of_command hc)]
    rfl

theorem slot_edit_of_ne (h : u ≠ s) : (p.edit s f).slot u = p.slot u := by
  rw [slot, command_edit_of_ne _ _ h, env_edit]
  rfl

/-- What treats one step with a command after the other treats each of them, and no other one. -/
theorem slot_foldl_treat (change : Step → Slot → Slot) {edit : Plan → Step → Plan}
    {f : Step → String → String} {vars : Step → String → List (String × String)}
    (hself : ∀ p s, (edit p s).slot s = change s (p.slot s))
    (hother : ∀ p s u, u ≠ s → (edit p s).slot u = p.slot u)
    (htreat : ∀ s x c, x.command = some c → change s x = x.treat (f s) (vars s))
    {steps : List Step} (hnodup : steps.Nodup) (p : Plan) (s : Step) :
    ((p.runnable steps).foldl edit p).slot s =
      if s ∈ steps then (p.slot s).treat (f s) (vars s) else p.slot s := by
  rw [foldl_at change hself hother (p.nodup_runnable hnodup)]
  cases hc : p.command s with
  | some c =>
    rw [htreat s (p.slot s) c hc]
    simp only [mem_runnable, hc, Option.some.injEq, exists_eq', and_true]
  | none =>
    rw [Slot.treat_of_none (x := p.slot s) hc, ite_self, if_neg]
    intro hmem
    obtain ⟨-, c, hc'⟩ := mem_runnable.mp hmem
    cases hc.symm.trans hc'

theorem slot_editAll (hf : KeepsText f) :
    (p.editAll f).slot s = (p.slot s).treat f fun _ => [] := by
  rw [editAll, slot_foldl_treat (fun _ x => x.treat f fun _ => [])
    (fun _ _ => slot_edit_self hf) (fun _ _ _ => slot_edit_of_ne) (fun _ _ _ _ => rfl) (by decide),
    if_pos s.mem_all]

theorem slot_setEnvWhereRunnable {steps : List Step} (hnodup : steps.Nodup) :
    (p.setEnvWhereRunnable steps key value).slot s =
      (p.slot s).treat id fun _ => if s ∈ steps then [(key, value)] else [] := by
  have htreat (x : Slot) (c : String) (hc : x.command = some c) :
      (⟨x.command, assign [(key, value)] x.env⟩ : Slot) = x.treat id fun _ => [(key, value)] := by
    rw [Slot.treat, hc]
    rfl
  rw [setEnvWhereRunnable, slot_foldl_treat (fun _ x => ⟨x.command, assign [(key, value)] x.env⟩)
    (fun _ _ => slot_setEnv_self) (fun _ _ _ => slot_setEnv_of_ne) (fun _ => htreat) hnodup]
  split
  · rfl
  · exact (Slot.treat_id _).symm

end Plan

end PatchTrial
