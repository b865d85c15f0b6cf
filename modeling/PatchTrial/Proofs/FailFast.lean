import PatchTrial.Pipeline
import PatchTrial.Proofs.Simulation

/-!
# How running the steps of a plan ends

The steps that a plan has commands for are run in order. `Ended` lists the three ways in which that
ends: all of them passed, one of them failed, or the run was cancelled before the next one. What is
reported of the steps follows from the way they ended. A recorded runner keeps a list of the steps
that it starts, which shows that none starts once the run is cancelled.
-/
namespace PatchTrial

variable {σ τ : Type} {R : τ → σ → Prop}

theorem Step.name_injective {s t : Step} (h : s.name = t.name) : s = t := by
  cases s <;> cases t <;> first | rfl | exact absurd h (by decide)

theorem StepRun.pipelineStep?_eq_some_iff {r : StepRun} {s : Step} :
    r.pipelineStep? = some s ↔ r.step = s.name := by
  constructor
  · intro h
    rw [pipelineStep?, Step.ofName?] at h
    have hname := List.find?_some h
    exact (of_decide_eq_true hname).symm
  · intro h
    rw [pipelineStep?, h, Step.ofName?_name]

/-! ### Runners that answer alike -/

namespace StepRunner

/-- Runners that answer alike. -/
def Alike (R : τ → σ → Prop) (y : StepRunner τ) (x : StepRunner σ) : Prop :=
  ∀ step command env t s, R t s →
    (y.run step command env t).run = (x.run step command env s).run ∧
    (y.run step command env t).events = (x.run step command env s).events ∧
    (y.run step command env t).cancels = (x.run step command env s).cancels ∧
    R (y.run step command env t).after (x.run step command env s).after

/-- A step that was started: what it did, and whether the run was cancelled meanwhile. -/
abbrev Start := StepRun × Bool

/-- The runner with a list of the steps that it starts. -/
def recorded (x : StepRunner σ) : StepRunner (σ × List Start) where
  run step command env t :=
    let o := x.run step command env t.1
    ⟨o.run, o.events, o.cancels, (o.after, t.2 ++ [(o.run, o.cancels)])⟩
  run_step step command env t := x.run_step step command env t.1
  run_command step command env t := x.run_command step command env t.1

theorem recorded_alike (x : StepRunner σ) : x.recorded.Alike (fun t s => t.1 = s) x := by
  rintro step command env t _ rfl
  exact ⟨rfl, rfl, rfl, rfl⟩

end StepRunner

namespace Pipeline

/-- The name and the command that a step is filed under. -/
def label (p : Step × String) : String × String := (p.1.name, p.2)

/-- Steps run alike by runners that answer alike. -/
theorem continueWith_alike {y : StepRunner τ} {x : StepRunner σ} (hx : y.Alike R x) (plan : Plan)
    (todo : List (Step × String)) (runs : List StepRun) (cancelled cancels : Bool) {t : τ} {s : σ}
    (h : R t s) :
    (continueWith y plan todo runs cancelled cancels t).outcome =
      (continueWith x plan todo runs cancelled cancels s).outcome ∧
    (continueWith y plan todo runs cancelled cancels t).events =
      (continueWith x plan todo runs cancelled cancels s).events ∧
    (continueWith y plan todo runs cancelled cancels t).cancels =
      (continueWith x plan todo runs cancelled cancels s).cancels ∧
    R (continueWith y plan todo runs cancelled cancels t).after
      (continueWith x plan todo runs cancelled cancels s).after := by
  induction todo generalizing runs cancelled cancels t s with
  | nil => exact ⟨rfl, rfl, rfl, h⟩
  | cons first rest ih =>
    obtain ⟨step, command⟩ := first
    obtain ⟨hr, he, hk, ha⟩ := hx step command (plan.envFor step) t s h
    simp only [continueWith, hr, he, hk]
    split
    · exact ⟨rfl, rfl, rfl, h⟩
    split
    · obtain ⟨ho, hes, hks, hafter⟩ := ih (runs ++ [(x.run step command (plan.envFor step) s).run])
        (x.run step command (plan.envFor step) s).cancels
        (cancels || (x.run step command (plan.envFor step) s).cancels) ha
      exact ⟨ho, congrArg _ hes, hks, hafter⟩
    · exact ⟨rfl, rfl, rfl, ha⟩

theorem executor_alike {y : StepRunner τ} {x : StepRunner σ} (hx : y.Alike R x) :
    (executor y).Alike R (executor x) := by
  intro plan steps cancelled t s h
  simp only [executor, runSteps]
  split
  · exact ⟨rfl, rfl, rfl, h⟩
  · exact continueWith_alike hx plan _ [] cancelled false h

/-- The steps that are started, in order. -/
def starts (step : StepRunner σ) (plan : Plan) (steps : List Step) (cancelled : Bool) (s : σ) :
    List StepRunner.Start :=
  (runSteps step.recorded plan steps cancelled (s, [])).after.2

/-! ### The ways in which steps end -/

/-- How steps end of which `runs` were run and `left` were not. -/
inductive Ended (runs : List StepRun) (left : List (Step × String)) : PipelineRun Float → Prop
  /-- Every step passed. -/
  | completed (hp : ∀ r ∈ runs, r.passed = true) (hl : left = []) : Ended runs left (finished runs)
  /-- The last step failed. -/
  | failed {before : List StepRun} {r : StepRun} (hruns : runs = before ++ [r])
      (hp : ∀ r ∈ before, r.passed = true) (hr : r.passed = false) :
    Ended runs left (finished runs)
  /-- The run was cancelled before the next step. -/
  | interrupted (hp : ∀ r ∈ runs, r.passed = true) (hl : left ≠ []) (text : String) :
    Ended runs left (.interrupted runs text)

/-- What became of the steps in `todo` after those in `runs`: some were started, in order, and the
rest is left. Only the last one that was started may have seen the run cancelled. -/
structure Started (todo : List (Step × String)) (runs : List StepRun) (cancelled : Bool)
    (started : List StepRunner.Start) (run : PipelineRun Float) : Prop where
  ended : ∃ done left, todo = done ++ left ∧
    started.map (fun x => (x.1.step, x.1.command)) = done.map label ∧
    Ended (runs ++ started.map Prod.fst) left run
  quiet : ∀ x ∈ started.dropLast, x.2 = false
  eq_nil : cancelled = true → started = []
  /-- Steps are left only behind one that failed or during which the run was cancelled. -/
  stopped : started.length < todo.length →
    (started = [] ∧ (cancelled = true ∨ ∃ r, runs.getLast? = some r ∧ r.passed = false)) ∨
      ∃ x, started.getLast? = some x ∧ (x.1.passed = false ∨ x.2 = true)

section ContinueWith

variable {step : StepRunner σ} {plan : Plan}

/-- No step is started any more. -/
theorem Started.none {todo : List (Step × String)} {runs : List StepRun} {cancelled : Bool}
    {run : PipelineRun Float} (h : Ended runs todo run)
    (hstop : todo = [] ∨ cancelled = true ∨ ∃ r, runs.getLast? = some r ∧ r.passed = false) :
    Started todo runs cancelled [] run where
  ended := ⟨[], todo, rfl, rfl, by rwa [List.map_nil, List.append_nil]⟩
  quiet := List.forall_mem_nil _
  eq_nil _ := rfl
  stopped hlt := Or.inl ⟨rfl, hstop.resolve_left fun hnil => by simp [hnil] at hlt⟩

/-- One more step before the others, which passed. -/
theorem Started.cons {todo : List (Step × String)} {runs : List StepRun} {first : Step × String}
    {r : StepRun} {cancels : Bool} {started : List StepRunner.Start} {run : PipelineRun Float}
    (hlabel : (r.step, r.command) = label first)
    (h : Started todo (runs ++ [r]) cancels started run) :
    Started (first :: todo) runs false ((r, cancels) :: started) run where
  ended := by
    obtain ⟨done, left, htodo, hlabels, hended⟩ := h.ended
    refine ⟨first :: done, left, congrArg (first :: ·) htodo, ?_, ?_⟩
    · rw [List.map_cons, List.map_cons, hlabels, hlabel]
    · rwa [List.append_assoc, List.singleton_append] at hended
  quiet := by
    cases hs : started with
    | nil => exact List.forall_mem_nil _
    | cons second rest =>
      -- a step follows, so the run was not cancelled meanwhile
      have hk : cancels = false := by
        refine Bool.eq_false_iff.mpr fun hk => ?_
        rw [h.eq_nil hk] at hs
        cases hs
      rw [List.dropLast_cons_cons, ← hs]
      exact List.forall_mem_cons.mpr ⟨hk, h.quiet⟩
  eq_nil := by rintro ⟨⟩
  stopped := by
    intro hlt
    right
    rcases h.stopped (Nat.lt_of_succ_lt_succ hlt) with ⟨rfl, hk | ⟨r', hr', hp⟩⟩ | ⟨x, hx, hstop⟩
    · exact ⟨(r, cancels), rfl, Or.inr hk⟩
    · rw [List.getLast?_concat, Option.some.injEq] at hr'
      exact ⟨(r, cancels), rfl, Or.inl (hr' ▸ hp)⟩
    · exact ⟨x, by rw [List.getLast?_cons, hx, Option.getD_some], hstop⟩

theorem continueWith_started (todo : List (Step × String)) {runs : List StepRun}
    (hruns : ∀ r ∈ runs, r.passed = true) (cancelled cancels : Bool) (s : σ)
    (before : List StepRunner.Start) :
    let c := continueWith step.recorded plan todo runs cancelled cancels (s, before)
    ∃ started run, c.after.2 = before ++ started ∧ c.outcome = .ok run ∧
      Started todo runs cancelled started run := by
  induction todo generalizing runs cancelled cancels s before with
  | nil =>
    exact ⟨[], _, (List.append_nil before).symm, rfl, .none (.completed hruns rfl) (Or.inl rfl)⟩
  | cons first rest ih =>
    obtain ⟨x, command⟩ := first
    dsimp only
    unfold continueWith
    cases cancelled with
    | true =>
      exact ⟨[], _, (List.append_nil before).symm, rfl,
        .none (.interrupted hruns (List.cons_ne_nil _ _) _) (Or.inr (Or.inl rfl))⟩
    | false =>
      have hlabel : ((step.run x command (plan.envFor x) s).run.step,
          (step.run x command (plan.envFor x) s).run.command) = label (x, command) :=
        Prod.ext (step.run_step ..) (step.run_command ..)
      simp only [Bool.false_eq_true, if_false]
      split
      next hp =>
        have hruns' := List.forall_mem_append.mpr ⟨hruns, List.forall_mem_singleton.mpr hp⟩
        obtain ⟨started, run, hl, ho, hs⟩ := ih hruns'
          (step.recorded.run x command (plan.envFor x) (s, before)).cancels _ _ _
        exact ⟨_ :: started, run, hl.trans (List.append_assoc ..), ho, hs.cons hlabel⟩
      next hp =>
        have hp := Bool.eq_false_iff.mpr hp
        have hfailed : Ended (runs ++ [(step.run x command (plan.envFor x) s).run]) rest _ :=
          .failed rfl hruns hp
        exact ⟨[(_, (step.run x command (plan.envFor x) s).cancels)], _, rfl, rfl,
          (Started.none hfailed (Or.inr (Or.inr ⟨_, List.getLast?_concat, hp⟩))).cons hlabel⟩

end ContinueWith

/-! ### What is reported of the steps -/

/-- The steps with a command, beside their commands. -/
theorem runnable_labels (plan : Plan) (steps : List Step) :
    (runnable plan steps).map (fun p => (p.1.name, some p.2)) =
      (plan.runnable steps).map fun x => (x.name, plan.command x) := by
  induction steps with
  | nil => rfl
  | cons x steps ih =>
    cases hc : plan.command x with
    | none => simpa [runnable, Plan.runnable, hc] using ih
    | some command => simpa [runnable, Plan.runnable, hc] using ih

theorem length_runnable (plan : Plan) (steps : List Step) :
    (runnable plan steps).length = (plan.runnable steps).length := by
  have h := congrArg List.length (runnable_labels plan steps)
  rwa [List.length_map, List.length_map] at h

theorem runnable_eq_nil_iff {plan : Plan} {steps : List Step} :
    runnable plan steps = [] ↔ plan.runnable steps = [] := by
  rw [← List.length_eq_zero_iff, length_runnable, List.length_eq_zero_iff]

/-- A measurement is read off the last step, if that is a bench step that passed. -/
theorem measurement?_eq_some_iff {runs : List StepRun} {m : Measurement Float} :
    measurement? runs = some m ↔ ∃ r, runs.getLast? = some r ∧ r.passed = true ∧
      r.pipelineStep? = some .bench ∧ m = .ofStepRun r := by
  unfold measurement?
  cases runs.getLast? with
  | none => simp
  | some r =>
    dsimp only
    split
    next h =>
      rw [Bool.and_eq_true, decide_eq_true_eq] at h
      constructor
      · rintro ⟨⟩
        exact ⟨r, rfl, h.1, h.2, rfl⟩
      · rintro ⟨_, ⟨⟩, -, -, rfl⟩
        rfl
    next h =>
      rw [Bool.and_eq_true, decide_eq_true_eq] at h
      refine iff_of_false (by rintro ⟨⟩) ?_
      rintro ⟨_, ⟨⟩, hp, hs, -⟩
      exact h ⟨hp, hs⟩

/-- What is reported of the steps that a plan has commands for, of those in `steps`. -/
structure Reported (plan : Plan) (steps : List Step) (run : PipelineRun Float) : Prop where
  /-- The steps were run in order, by the commands of the plan. -/
  labels : run.steps.map (fun r => (r.step, some r.command)) <+:
    (plan.runnable steps).map fun x => (x.name, plan.command x)
  passed : ∀ r ∈ run.steps.dropLast, r.exitCode = 0
  succeeded_iff : run.succeeded = true ↔ plan.runnable steps ≠ [] ∧
    run.steps.length = (plan.runnable steps).length ∧ ∀ r ∈ run.steps, r.exitCode = 0
  error_iff : run.error.isSome = true ↔ run.succeeded = false
  measured : ∀ m, run.measurement = some m → ∃ r, run.steps.getLast? = some r ∧
    r.exitCode = 0 ∧ r.step = Step.bench.name ∧ m = .ofStepRun r
  /-- The bench step comes last in a pipeline. -/
  measured_iff : steps.Pairwise (fun x y => Step.all.idxOf x ≤ Step.all.idxOf y) →
    run.succeeded = true → (run.measurement.isSome = true ↔ .bench ∈ plan.runnable steps)

theorem passed_iff (r : StepRun) : r.passed = true ↔ r.exitCode = 0 := decide_eq_true_iff

/-- A run without steps to run. -/
theorem reported_of_nothing {plan : Plan} {steps : List Step} (h : plan.runnable steps = [])
    (text : String) : Reported plan steps (.interrupted [] text) where
  labels := List.nil_prefix
  passed := List.forall_mem_nil _
  succeeded_iff := iff_of_false Bool.false_ne_true fun hr => hr.1 h
  error_iff := iff_of_true rfl rfl
  measured := by rintro m ⟨⟩
  measured_iff := by rintro _ ⟨⟩

section Reported

variable {plan : Plan} {steps : List Step} {runs : List StepRun} {run : PipelineRun Float}
  {done left : List (Step × String)}

theorem Ended.steps_eq (h : Ended runs left run) : run.steps = runs := by
  cases h <;> rfl

theorem Ended.error_isSome (h : Ended runs left run) : run.error.isSome = !run.succeeded := by
  cases h with
  | completed hp hl => exact PipelineRun.isSome_error_ofSteps _ _
  | failed hruns hp hr => exact PipelineRun.isSome_error_ofSteps _ _
  | interrupted hp hl text => rfl

/-- Only the last step may have failed. -/
theorem Ended.passed (h : Ended runs left run) : ∀ r ∈ runs.dropLast, r.passed = true := by
  cases h with
  | completed hp hl => exact fun r hr => hp r (List.dropLast_subset _ hr)
  | failed hruns hp hr => rwa [hruns, List.dropLast_concat]
  | interrupted hp hl text => exact fun r hr => hp r (List.dropLast_subset _ hr)

/-- A run that succeeded is one whose steps were all run and passed. -/
theorem Ended.succeeded_iff (h : Ended runs left run) :
    run.succeeded = true ↔ left = [] ∧ ∀ r ∈ runs, r.passed = true := by
  cases h with
  | completed hp hl => exact iff_of_true (PipelineRun.succeeded_ofSteps_iff.mpr hp) ⟨hl, hp⟩
  | @failed before r hruns hp hr =>
    have hmem : r ∈ runs := hruns ▸ List.mem_concat_self
    have hnot : ¬∀ r ∈ runs, r.passed = true := fun hall =>
      Bool.false_ne_true (hr.symm.trans (hall r hmem))
    exact iff_of_false (mt PipelineRun.succeeded_ofSteps_iff.mp hnot) fun hs => hnot hs.2
  | interrupted hp hl text => exact iff_of_false Bool.false_ne_true fun hs => hl hs.1

/-- A run that succeeded came to its end by itself. -/
theorem Ended.eq_finished (h : Ended runs left run) (hs : run.succeeded = true) :
    run = finished runs := by
  cases h with
  | completed hp hl => rfl
  | failed hruns hp hr => rfl
  | interrupted hp hl text => cases hs

/-- A run that succeeded was measured exactly if the bench step was the last one to run. -/
theorem Ended.measurement_isSome_iff (h : Ended runs left run) (hs : run.succeeded = true) :
    run.measurement.isSome = true ↔ runs.getLast?.map StepRun.step = some Step.bench.name := by
  rw [h.eq_finished hs]
  constructor
  · intro hm
    obtain ⟨m, hm⟩ := Option.isSome_iff_exists.mp hm
    obtain ⟨r, hr, -, hbench, -⟩ := measurement?_eq_some_iff.mp hm
    rw [hr, Option.map_some, StepRun.pipelineStep?_eq_some_iff.mp hbench]
  · intro hlast
    obtain ⟨r, hr, hname⟩ := Option.map_eq_some_iff.mp hlast
    have hp := (h.succeeded_iff.mp hs).2 r (List.mem_of_getLast? hr)
    have hbench := StepRun.pipelineStep?_eq_some_iff.mpr hname
    exact Option.isSome_of_eq_some (measurement?_eq_some_iff.mpr ⟨r, hr, hp, hbench, rfl⟩)

theorem Ended.measured (h : Ended runs left run) {m : Measurement Float}
    (hm : run.measurement = some m) : ∃ r, runs.getLast? = some r ∧ r.passed = true ∧
      r.pipelineStep? = some .bench ∧ m = .ofStepRun r := by
  cases h with
  | completed hp hl => exact measurement?_eq_some_iff.mp hm
  | failed hruns hp hr => exact measurement?_eq_some_iff.mp hm
  | interrupted hp hl text => cases hm

/-- The steps that were run, beside the commands of the plan. -/
theorem labels_of_started {started : List StepRunner.Start}
    (hl : started.map (fun x => (x.1.step, x.1.command)) = done.map label) :
    (started.map Prod.fst).map (fun r => (r.step, some r.command)) =
      done.map fun p => (p.1.name, some p.2) := by
  have h := congrArg (List.map fun l : String × String => (l.1, some l.2)) hl
  rw [List.map_map, List.map_map] at h
  rw [List.map_map]
  exact h

/-- The bench step is the last one of a pipeline that has it. -/
theorem getLast?_eq_bench_iff {l : List Step}
    (h : l.Pairwise fun x y => Step.all.idxOf x ≤ Step.all.idxOf y) :
    l.getLast? = some .bench ↔ .bench ∈ l := by
  refine ⟨List.mem_of_getLast?, fun hb => ?_⟩
  obtain ⟨front, last, rfl⟩ := List.eq_nil_or_concat l |>.resolve_left (List.ne_nil_of_mem hb)
  rw [List.concat_eq_append] at h hb ⊢
  rw [List.getLast?_concat, Option.some.injEq]
  rcases List.mem_append.mp hb with hb | hb
  · have hle := (List.pairwise_append.mp h).2.2 _ hb last List.mem_cons_self
    revert hle
    cases last <;> decide
  · exact (List.mem_singleton.mp hb).symm

theorem Ended.reported {started : List StepRunner.Start} (hne : plan.runnable steps ≠ [])
    (hsplit : runnable plan steps = done ++ left)
    (hl : started.map (fun x => (x.1.step, x.1.command)) = done.map label)
    (h : Ended (started.map Prod.fst) left run) : Reported plan steps run := by
  have hlabels := runnable_labels plan steps
  rw [hsplit, List.map_append, ← labels_of_started hl, ← h.steps_eq] at hlabels
  have hlen : run.steps.length + left.length = (plan.runnable steps).length := by
    have hlength := congrArg List.length hlabels
    simpa using hlength
  refine ⟨⟨_, hlabels⟩, ?_, ?_, ?_, ?_, ?_⟩
  · intro r hr
    rw [h.steps_eq] at hr
    exact (passed_iff r).mp (h.passed r hr)
  · rw [h.succeeded_iff, ← h.steps_eq, ← List.length_eq_zero_iff]
    simp only [passed_iff]
    refine ⟨fun hs => ⟨hne, by omega, hs.2⟩, fun hs => ⟨by omega, hs.2.2⟩⟩
  · rw [h.error_isSome, Bool.not_eq_true']
  · intro m hm
    obtain ⟨r, hr, hp, hs, rfl⟩ := h.measured hm
    rw [← h.steps_eq] at hr
    exact ⟨r, hr, (passed_iff r).mp hp, StepRun.pipelineStep?_eq_some_iff.mp hs, rfl⟩
  · intro horder hs
    obtain ⟨rfl, -⟩ := h.succeeded_iff.mp hs
    rw [List.map_nil, List.append_nil, h.steps_eq] at hlabels
    -- the last step that was run is the last one with a command
    have hlast : (started.map Prod.fst).getLast?.map StepRun.step =
        (plan.runnable steps).getLast?.map Step.name := by
      have heq := congrArg (fun l => (l.getLast?).map Prod.fst) hlabels
      simpa [List.getLast?_map, Option.map_map, Function.comp_def] using heq
    have hsorted : (plan.runnable steps).Pairwise fun x y => Step.all.idxOf x ≤ Step.all.idxOf y :=
      horder.filter _
    rw [h.measurement_isSome_iff hs, hlast, ← getLast?_eq_bench_iff hsorted]
    have hinj : Function.Injective (Option.map Step.name) :=
      Option.map_injective fun _ _ => Step.name_injective
    exact hinj.eq_iff (a := (plan.runnable steps).getLast?) (b := some .bench)

end Reported

/-- There is nothing to run, or the steps with a command are started in order. -/
theorem runSteps_cases (step : StepRunner σ) (plan : Plan) (steps : List Step) (cancelled : Bool)
    (s : σ) :
    (runnable plan steps = [] ∧ starts step plan steps cancelled s = [] ∧
      (runSteps step plan steps cancelled s).outcome =
        .ok (.interrupted [] "no runnable pipeline steps in plan")) ∨
    (runnable plan steps ≠ [] ∧ ∃ run, (runSteps step plan steps cancelled s).outcome = .ok run ∧
      Started (runnable plan steps) [] cancelled (starts step plan steps cancelled s) run) := by
  by_cases hne : runnable plan steps = []
  · refine Or.inl ⟨hne, ?_, ?_⟩
    · simp only [starts, runSteps, hne]
      rfl
    · rw [runSteps, hne]
      rfl
  · obtain ⟨ho, -, -, -⟩ := executor_alike step.recorded_alike plan steps cancelled (s, []) s rfl
    change (runSteps step.recorded plan steps cancelled (s, [])).outcome =
      (runSteps step plan steps cancelled s).outcome at ho
    have hruns : runSteps step.recorded plan steps cancelled (s, []) =
        continueWith step.recorded plan (runnable plan steps) [] cancelled false (s, []) := by
      rw [runSteps, if_neg (by rwa [List.isEmpty_iff])]
    obtain ⟨started, run, hl, hrun, hs⟩ := continueWith_started (runnable plan steps)
      (List.forall_mem_nil _) cancelled false s []
    refine Or.inr ⟨hne, run, ?_, ?_⟩
    · rw [← ho, hruns, hrun]
    · rwa [starts, hruns, hl]

/-- Running the steps of a plan always comes to a result, which tells of the steps that were
started. They are started until one fails or the run is cancelled, and none after that. -/
theorem runSteps_reported (step : StepRunner σ) (plan : Plan) (steps : List Step)
    (cancelled : Bool) (s : σ) :
    let started := starts step plan steps cancelled s
    ∃ run, (runSteps step plan steps cancelled s).outcome = .ok run ∧
      Reported plan steps run ∧ run.steps = started.map Prod.fst ∧
      (∀ x ∈ started.dropLast, x.2 = false) ∧ (cancelled = true → started = []) ∧
      (started.length < (plan.runnable steps).length →
        (started = [] ∧ cancelled = true) ∨
          ∃ x, started.getLast? = some x ∧ (x.1.exitCode ≠ 0 ∨ x.2 = true)) := by
  intro started
  rcases runSteps_cases step plan steps cancelled s with ⟨hnil, hstarted, ho⟩ | ⟨hne, run, ho, hs⟩
  · have hnone := runnable_eq_nil_iff.mp hnil
    refine ⟨_, ho, reported_of_nothing hnone _, ?_⟩
    rw [show started = [] from hstarted, hnone]
    exact ⟨rfl, List.forall_mem_nil _, fun _ => rfl, fun hlt => absurd hlt (Nat.lt_irrefl 0)⟩
  · obtain ⟨done, left, hsplit, hlabels, hended⟩ := hs.ended
    rw [List.nil_append] at hended
    refine ⟨run, ho, hended.reported (mt runnable_eq_nil_iff.mpr hne) hsplit hlabels,
      hended.steps_eq, hs.quiet, hs.eq_nil, fun hlt => ?_⟩
    rw [← length_runnable] at hlt
    rcases hs.stopped hlt with ⟨hnil, hk | ⟨r, hr, -⟩⟩ | ⟨x, hx, hstop⟩
    · exact Or.inl ⟨hnil, hk⟩
    · cases hr
    · refine Or.inr ⟨x, hx, hstop.imp_left fun hp hzero => ?_⟩
      exact Bool.false_ne_true (hp.symm.trans ((passed_iff x.1).mpr hzero))

/-- A pipeline whose steps all pass, one whose test fails, and one that is cancelled while its test
runs. -/
theorem runSteps_reported_make :
    let runner : StepRunner (List (Int32 × Bool)) :=
      ⟨fun x command _ s =>
          let (code, cancels) := s.headD (0, false)
          ⟨⟨x.name, command, code, 5, "", "", false⟩, [], cancels, s.tail⟩,
        fun _ _ _ _ => rfl, fun _ _ _ _ => rfl⟩
    let plan : Plan := .ofDetection { commands := { PerStep.const none with
      build := some "make", test := some "make test", bench := some "make bench" } } .strict
    let Ran (script : List (Int32 × Bool)) (run : PipelineRun Float) : Prop :=
      (runSteps runner plan Step.all false script).outcome = .ok run ∧ Reported plan Step.all run
    let build : StepRun := ⟨"build", "make", 0, 5, "", "", false⟩
    let test (code : Int32) : StepRun := ⟨"test", "make test", code, 5, "", "", false⟩
    let bench : StepRun := ⟨"bench", "make bench", 0, 5, "", "", false⟩
    Ran [] ⟨[build, test 0, bench], true, none, some (.ofStepRun bench)⟩ ∧
      Ran [(0, false), (2, false)]
        ⟨[build, test 2], false, some "step 'test' exited with code 2", none⟩ ∧
      Ran [(0, false), (0, true)]
        ⟨[build, test 0], false, some "cancelled before bench", none⟩ := by
  intro runner plan Ran build test bench
  have hran (script : List (Int32 × Bool)) (run : PipelineRun Float)
      (hrun : (runSteps runner plan Step.all false script).outcome = .ok run) : Ran script run := by
    obtain ⟨run', ho, hreported, -⟩ := runSteps_reported runner plan Step.all false script
    cases hrun.symm.trans ho
    exact ⟨hrun, hreported⟩
  have htext : "step 'test' exited with code 2" = PipelineRun.failureText (test 2) := by
    decide +kernel
  refine ⟨hran _ _ rfl, hran _ _ ?_, hran _ _ rfl⟩
  rw [htext]
  rfl

end Pipeline

end PatchTrial
