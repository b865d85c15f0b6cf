import PatchTrial.Proofs.FailFast

/-!
# Failures as errors

Whether a run succeeded stands in its flag, and a run that did not is to give an error. The error
is that of its first failed step. So a run gives none, although it did not succeed, if it was
stopped between two steps or had nothing to run.

Main statement: `ensureSuccess_agrees_iff`.
-/
namespace PatchTrial

variable {σ α : Type}

namespace PipelineRun

/-- A run gives no error exactly if it succeeded. -/
def IsConsistent (run : PipelineRun α) : Prop := run.ensureSuccess = .ok () ↔ run.succeeded = true

theorem ensureSuccess_eq_ok_iff {run : PipelineRun α} :
    run.ensureSuccess = .ok () ↔ ∀ r ∈ run.steps, r.exitCode = 0 := by
  have hnone : run.firstFailure? = none ↔ ∀ r ∈ run.steps, r.exitCode = 0 := by
    simp only [firstFailure?, List.find?_eq_none, Bool.not_eq_true, Bool.not_eq_false',
      Pipeline.passed_iff]
  rw [← hnone, ensureSuccess]
  cases run.firstFailure? <;> simp

theorem isConsistent_ofSteps (runs : List StepRun) (m : Option (Measurement α)) :
    (ofSteps runs m).IsConsistent := by
  rw [IsConsistent, ensureSuccess_eq_ok_iff, succeeded_ofSteps_iff]
  simp only [Pipeline.passed_iff]
  rfl

/-- Only a failed step makes an error of a run that was stopped. -/
theorem isConsistent_interrupted_iff {runs : List StepRun} {text : String} :
    (interrupted runs text : PipelineRun α).IsConsistent ↔ ∃ r ∈ runs, r.exitCode ≠ 0 := by
  rw [IsConsistent, ensureSuccess_eq_ok_iff]
  simp [interrupted]

end PipelineRun

namespace Pipeline

/-- No step failed, another one was due, and the run was cancelled by then. -/
structure CutShort (plan : Plan) (steps : List Step) (cancelled : Bool)
    (started : List StepRunner.Start) : Prop where
  passed : ∀ x ∈ started, x.1.exitCode = 0
  left : started.length < (plan.runnable steps).length
  cancelled : (cancelled :: started.map Prod.snd).getLast? = some true

/-- Steps that passed are followed by the next one unless the run is cancelled. -/
theorem continueWith_cancelled (step : StepRunner σ) (plan : Plan) (todo : List (Step × String))
    (runs : List StepRun) (cancelled cancels : Bool) (s : σ) (before : List StepRunner.Start) :
    ∃ started, (continueWith step.recorded plan todo runs cancelled cancels
        (s, before)).after.2 = before ++ started ∧
      ((∀ x ∈ started, x.1.passed = true) → started.length < todo.length →
        (cancelled :: started.map Prod.snd).getLast? = some true) := by
  induction todo generalizing runs cancelled cancels s before with
  | nil => exact ⟨[], (List.append_nil before).symm, fun _ hlt => absurd hlt (Nat.not_lt_zero _)⟩
  | cons first rest ih =>
    obtain ⟨x, command⟩ := first
    unfold continueWith
    cases cancelled with
    | true => exact ⟨[], (List.append_nil before).symm, fun _ _ => rfl⟩
    | false =>
      simp only [Bool.false_eq_true, if_false]
      split
      next =>
        obtain ⟨started, hafter, hlast⟩ := ih
          (runs ++ [(step.recorded.run x command (plan.envFor x) (s, before)).run])
          (step.recorded.run x command (plan.envFor x) (s, before)).cancels _
          (step.run x command (plan.envFor x) s).after _
        refine ⟨_ :: started, hafter.trans (List.append_assoc ..), fun hpassed hlt => ?_⟩
        rw [List.map_cons, List.getLast?_cons_cons]
        exact hlast (List.forall_mem_cons.mp hpassed).2 (Nat.lt_of_succ_lt_succ hlt)
      next hfailed =>
        exact ⟨[_], rfl, fun hpassed _ => absurd (hpassed _ List.mem_cons_self) hfailed⟩

theorem runSteps_cancelled {step : StepRunner σ} {plan : Plan} {steps : List Step}
    {cancelled : Bool} {s : σ} (hne : runnable plan steps ≠ [])
    (hpassed : ∀ x ∈ starts step plan steps cancelled s, x.1.passed = true)
    (hlt : (starts step plan steps cancelled s).length < (runnable plan steps).length) :
    (cancelled :: (starts step plan steps cancelled s).map Prod.snd).getLast? = some true := by
  obtain ⟨started, hafter, hlast⟩ := continueWith_cancelled step plan (runnable plan steps) []
    cancelled false s []
  have hstarts : starts step plan steps cancelled s = started := by
    rw [starts, runSteps, if_neg (by rwa [List.isEmpty_iff]), hafter, List.nil_append]
  rw [hstarts] at hpassed hlt ⊢
  exact hlast hpassed hlt

/-- Of the ways in which steps end, only being stopped hides that the run did not succeed. -/
theorem Ended.isConsistent_iff {runs : List StepRun} {left : List (Step × String)}
    {run : PipelineRun Float} (h : Ended runs left run) :
    run.IsConsistent ↔ left = [] ∨ ∃ r ∈ runs, r.exitCode ≠ 0 := by
  cases h with
  | completed hp hl => exact iff_of_true (PipelineRun.isConsistent_ofSteps _ _) (Or.inl hl)
  | @failed before r hruns hp hr =>
    refine iff_of_true (PipelineRun.isConsistent_ofSteps _ _) (Or.inr ⟨r, ?_, ?_⟩)
    · rw [hruns]
      exact List.mem_concat_self
    · rw [Ne, ← passed_iff, hr]
      exact Bool.false_ne_true
  | interrupted hp hl text =>
    rw [PipelineRun.isConsistent_interrupted_iff, or_iff_right hl]

/-- A run is cut short exactly if steps are left over and none of the others failed. -/
theorem cutShort_iff {step : StepRunner σ} {plan : Plan} {steps : List Step} {cancelled : Bool}
    {s : σ} {left : List (Step × String)} (hne : runnable plan steps ≠ [])
    (hlen : (starts step plan steps cancelled s).length + left.length =
      (runnable plan steps).length) :
    CutShort plan steps cancelled (starts step plan steps cancelled s) ↔
      left ≠ [] ∧
        ∀ r ∈ (starts step plan steps cancelled s).map Prod.fst, r.exitCode = 0 := by
  rw [List.forall_mem_map]
  constructor
  · intro h
    refine ⟨?_, h.passed⟩
    rintro rfl
    have hleft := h.left
    rw [← length_runnable, ← hlen, List.length_nil] at hleft
    omega
  · rintro ⟨hleft, hpassed⟩
    have hlt : (starts step plan steps cancelled s).length < (runnable plan steps).length := by
      have hpos := List.length_pos_iff.mpr hleft
      omega
    exact {
      passed := hpassed
      left := by rwa [← length_runnable]
      cancelled := runSteps_cancelled hne (fun x hx => (passed_iff _).mpr (hpassed x hx)) hlt }

/-- The run of an executor is consistent unless there was nothing to run or it was cut short. -/
theorem isConsistent_runSteps_iff (step : StepRunner σ) (plan : Plan) (steps : List Step)
    (cancelled : Bool) (s : σ) :
    ∃ run, (runSteps step plan steps cancelled s).outcome = .ok run ∧
      (run.IsConsistent ↔ plan.runnable steps ≠ [] ∧
        ¬CutShort plan steps cancelled (starts step plan steps cancelled s)) := by
  rcases runSteps_cases step plan steps cancelled s with ⟨hnil, -, ho⟩ | ⟨hne, run, ho, hs⟩
  · refine ⟨_, ho, ?_⟩
    rw [PipelineRun.isConsistent_interrupted_iff]
    exact iff_of_false (by simp) fun h => h.1 (runnable_eq_nil_iff.mp hnil)
  · obtain ⟨done, left, hsplit, hlabels, hended⟩ := hs.ended
    rw [List.nil_append] at hended
    have hlen : (starts step plan steps cancelled s).length + left.length =
        (runnable plan steps).length := by
      have hdone := congrArg List.length hlabels
      rw [List.length_map, List.length_map] at hdone
      rw [hsplit, List.length_append, hdone]
    refine ⟨run, ho, ?_⟩
    rw [hended.isConsistent_iff, cutShort_iff hne hlen,
      and_iff_right (mt runnable_eq_nil_iff.mpr hne), Classical.not_and_iff_not_or_not]
    simp

/-- The run of given steps is consistent. One that was stopped after given steps is so only if one
of them failed. The run of an executor is so unless there was nothing to run or it was cut short:
then it did not succeed and gives no error. -/
theorem ensureSuccess_agrees_iff (step : StepRunner σ) (plan : Plan) (steps : List Step)
    (cancelled : Bool) (s : σ) (runs : List StepRun) (m : Option (Measurement Float))
    (text : String) :
    (PipelineRun.ofSteps runs m).IsConsistent ∧
      ((PipelineRun.interrupted runs text : PipelineRun Float).IsConsistent ↔
        ∃ r ∈ runs, r.exitCode ≠ 0) ∧
      ∃ run, (runSteps step plan steps cancelled s).outcome = .ok run ∧
        (run.IsConsistent ↔ plan.runnable steps ≠ [] ∧
          ¬CutShort plan steps cancelled (starts step plan steps cancelled s)) :=
  ⟨PipelineRun.isConsistent_ofSteps runs m, PipelineRun.isConsistent_interrupted_iff,
    isConsistent_runSteps_iff step plan steps cancelled s⟩

/-- A run that is cancelled after its first step passed does not succeed and gives no error. -/
theorem not_interrupted_isConsistent :
    ¬∀ (runs : List StepRun) (text : String),
      (PipelineRun.interrupted runs text : PipelineRun Float).IsConsistent := by
  intro h
  have hok : (PipelineRun.interrupted [⟨"build", "make", 0, 0, "", "", false⟩]
      "cancelled before test" : PipelineRun Float).ensureSuccess = .ok () := rfl
  cases (h _ _).mp hok

end Pipeline

end PatchTrial
