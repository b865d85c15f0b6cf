import PatchTrial.Json.Writer
import PatchTrial.Pipeline
import PatchTrial.Proofs.MeasuredRange
import PatchTrial.Proofs.RunCalls

/-!
# Which reports hold only finite numbers

Every measurement in the report of a run is read off the last step of the run that it belongs to,
and every comparison is between two of these measurements. So the numbers of a report are finite
exactly if no measured step prints a number out of range and no comparison overflows. The risk
scores are always finite.

Main statement: `report_isFinite_iff`.
-/
namespace PatchTrial

variable {σ : Type}

/-! ### Numbers of a report -/

namespace Report

/-- The runs of the baseline and of the candidates, as steps and measurement. -/
def runs (r : Report) : List (List StepRun × Option (Measurement Float)) :=
  (r.strategy.run.steps, r.strategy.run.measurement) ::
    r.evaluations.map fun e => (e.result.steps, e.result.measurement)

def measurements (r : Report) : List (Measurement Float) := r.runs.filterMap Prod.snd

/-- The steps that the measurements are read off. -/
def measuredSteps (r : Report) : List StepRun :=
  r.runs.filterMap fun run => run.2.bind fun _ => run.1.getLast?

def comparisons (r : Report) : List (Comparison Float) :=
  r.evaluations.filterMap (·.verdict.benchmark)

/-- Whether all numbers of a report are finite. -/
structure IsFinite (r : Report) : Prop where
  measurements : ∀ m ∈ r.measurements, m.value.isFinite = true
  comparisons : ∀ c ∈ r.comparisons, c.IsFinite
  risks : ∀ e ∈ r.evaluations, e.verdict.riskScore.isFinite = true

end Report

/-! ### Where measurements come from -/

/-- A measurement is that of the last step, a bench step that passed. -/
def ReadOff (run : List StepRun × Option (Measurement Float)) : Prop :=
  ∀ m, run.2 = some m →
    ∃ r, run.1.getLast? = some r ∧ r.passed = true ∧ r.pipelineStep? = some .bench ∧
      m = .ofStepRun r

namespace Pipeline

variable {step : StepRunner σ} {plan : Plan}

theorem finished_readOff (runs : List StepRun) :
    ReadOff ((finished runs).steps, (finished runs).measurement) := by
  intro m hm
  change measurement? runs = some m at hm
  rw [measurement?] at hm
  split at hm
  next r hr =>
    split at hm
    next hpassed =>
      rw [Bool.and_eq_true, decide_eq_true_eq] at hpassed
      cases hm
      exact ⟨r, hr, hpassed.1, hpassed.2, rfl⟩
    · cases hm
  · cases hm

theorem interrupted_readOff (runs : List StepRun) (text : String) :
    ReadOff ((PipelineRun.interrupted runs text : PipelineRun Float).steps, none) := by
  rintro m ⟨⟩

theorem continueWith_readOff {todo : List (Step × String)} {runs : List StepRun}
    {cancelled cancels : Bool} {s : σ} {run : PipelineRun Float}
    (h : (continueWith step plan todo runs cancelled cancels s).outcome = .ok run) :
    ReadOff (run.steps, run.measurement) := by
  induction todo generalizing runs cancelled cancels s with
  | nil =>
    cases h
    exact finished_readOff runs
  | cons first rest ih =>
    obtain ⟨x, command⟩ := first
    unfold continueWith at h
    split at h
    · cases h
      exact interrupted_readOff runs _
    dsimp only at h
    split at h
    · exact ih h
    · cases h
      exact finished_readOff _

theorem runSteps_readOff {steps : List Step} {cancelled : Bool} {s : σ} {run : PipelineRun Float}
    (h : (runSteps step plan steps cancelled s).outcome = .ok run) :
    ReadOff (run.steps, run.measurement) := by
  unfold runSteps at h
  split at h
  · cases h
    exact interrupted_readOff [] _
  · exact continueWith_readOff h

end Pipeline

theorem Call.AnsweredBy.readOff {step : StepRunner σ} {plan : Plan} {steps : List Step}
    {run : PipelineRun Float} {k : Bool}
    (h : (Call.ran plan steps (.ok run) k).AnsweredBy (Pipeline.executor step)) :
    ReadOff (run.steps, run.measurement) := by
  obtain ⟨cancelled, s, hrun, -⟩ := h
  exact Pipeline.runSteps_readOff hrun.symm

/-- What is reported of a visit is read off the steps that were run for it, if any were. -/
theorem Visit.Paired.readOff {step : StepRunner σ} {policy : GatePolicy} {plan : Plan} {v : Visit}
    {r : CandidateRun Float} (h : v.Paired policy plan) (ho : v.outcome = .ok r)
    (hanswered : ∀ call ∈ v.calls, call.AnsweredBy (Pipeline.executor step)) :
    ReadOff (r.steps, r.measurement) := by
  cases h with
  | gated hg =>
    cases ho
    rintro m ⟨⟩
  | unapplied hg =>
    cases ho
    rintro m ⟨⟩
  | reverted hg =>
    cases ho
    exact (hanswered _ (List.mem_cons_of_mem _ List.mem_cons_self)).readOff
  | leftDirty hg =>
    cases ho
    exact (hanswered _ (List.mem_cons_of_mem _ List.mem_cons_self)).readOff
  | panicked hg => cases ho

namespace Baseline

/-- The baseline's run is that of the last attempt, or there was none. -/
theorem Established.readOff {step : StepRunner σ} {registry : Registry} {excerpt : Nat}
    {d : Detection} {settings : Settings} {cancelled k : Bool} {made : List Call} {b : Baseline}
    (h : Established registry excerpt d settings cancelled made (.ok b) k)
    (hanswered : ∀ call ∈ made, call.AnsweredBy (Pipeline.executor step)) :
    ReadOff (b.run.steps, b.run.measurement) := by
  cases h with
  | cancelled text => rintro m ⟨⟩
  | attempted h =>
    obtain ⟨quiet, plan, he⟩ := h.ends
    refine (hanswered (.ran plan Step.all (.ok b.run) k) ?_).readOff
    rw [he.made_eq]
    exact List.mem_append_right _ List.mem_cons_self

end Baseline

/-! ### Verdicts -/

theorem RiskLevel.isFinite_score (l : RiskLevel) : l.score.isFinite = true := by
  cases l <;> decide

theorem Opportunity.isFinite_effectiveRisk (o : Opportunity) :
    o.effectiveRisk.isFinite = true := by
  rw [effectiveRisk]
  split
  next x hx =>
    split
    next hfinite =>
      split
      · decide
      · split
        · decide
        · exact hfinite
    · exact o.riskLevel.isFinite_score
  · exact o.riskLevel.isFinite_score

namespace Acceptance

/-- A verdict carries the risk of the opportunity, and a benchmark only if it is the comparison of
the two runs. -/
theorem evaluate_carries (policy : AcceptancePolicy Float) (o : Opportunity)
    (baseline : PipelineRun Float) (candidate : CandidateRun Float) :
    (evaluate policy o baseline candidate).riskScore = o.effectiveRisk ∧
      ∀ c, (evaluate policy o baseline candidate).benchmark = some c →
        comparison? baseline candidate = some c := by
  rw [evaluate]
  split
  next r hr =>
    refine ⟨rfl, ?_⟩
    rintro c ⟨⟩
  next hr =>
    dsimp only
    split
    · exact ⟨rfl, fun c hc => hc⟩
    · split
      · exact ⟨rfl, fun c hc => hc⟩
      · exact ⟨rfl, fun c hc => hc⟩

theorem between?_of_comparison? {baseline : PipelineRun Float} {candidate : CandidateRun Float}
    {c : Comparison Float} (h : comparison? baseline candidate = some c) :
    ∃ before after, Comparison.between? before after = some c := by
  simp only [comparison?, Option.bind_eq_bind, Option.bind_eq_some_iff] at h
  obtain ⟨before, -, after, -, h⟩ := h
  exact ⟨before, after, h⟩

end Acceptance

/-! ### Reports of runs -/

namespace Report

/-- What the numbers of a run's report are made of. -/
structure Traced (r : Report) : Prop where
  runs : ∀ run ∈ r.runs, ReadOff run
  comparisons : ∀ c ∈ r.comparisons, ∃ before after, Comparison.between? before after = some c
  risks : ∀ e ∈ r.evaluations, e.verdict.riskScore.isFinite = true

variable {r : Report}

/-- Each measurement is that of the step that it is read off. -/
theorem Traced.mem_measurements_iff (h : r.Traced) {m : Measurement Float} :
    m ∈ r.measurements ↔ ∃ s ∈ r.measuredSteps, m = .ofStepRun s := by
  simp only [measurements, measuredSteps, List.mem_filterMap, Option.bind_eq_some_iff]
  constructor
  · rintro ⟨run, hrun, hm⟩
    obtain ⟨s, hs, -, -, rfl⟩ := h.runs run hrun m hm
    exact ⟨s, ⟨run, hrun, _, hm, hs⟩, rfl⟩
  · rintro ⟨s, ⟨run, hrun, m', hm', hs⟩, rfl⟩
    obtain ⟨s', hs', -, -, rfl⟩ := h.runs run hrun m' hm'
    rw [hs'] at hs
    cases hs
    exact ⟨run, hrun, hm'⟩

theorem Traced.isFinite_iff (h : r.Traced) :
    r.IsFinite ↔ (∀ s ∈ r.measuredSteps, ¬ s.Overflows) ∧ ∀ c ∈ r.comparisons, c.InRange := by
  constructor
  · rintro ⟨hm, hc, -⟩
    refine ⟨fun s hs => ?_, fun c hmem => ?_⟩
    · rw [← Measurement.isFinite_ofStepRun_iff]
      exact hm _ (h.mem_measurements_iff.2 ⟨s, hs, rfl⟩)
    · obtain ⟨before, after, hbetween⟩ := h.comparisons c hmem
      exact (Comparison.isFinite_iff_inRange hbetween).1 (hc c hmem)
  · rintro ⟨hm, hc⟩
    refine ⟨fun m hmem => ?_, fun c hmem => ?_, h.risks⟩
    · obtain ⟨s, hs, rfl⟩ := h.mem_measurements_iff.1 hmem
      exact (Measurement.isFinite_ofStepRun_iff s).2 (hm s hs)
    · obtain ⟨before, after, hbetween⟩ := h.comparisons c hmem
      exact (Comparison.isFinite_iff_inRange hbetween).2 (hc c hmem)

end Report

namespace Run

section Traced

variable {step : StepRunner σ} {stamp : RunStamp} {d : Detection}
  {settings : Settings} {b : Baseline} {t : Trials} {k : Bool}

/-- A report is traced if its baseline and the results that were judged are. -/
theorem report_traced (config : Config) (hb : ReadOff (b.run.steps, b.run.measurement))
    (ht : ∀ e ∈ t.evaluations, ∃ c result, e = judged config b c result ∧
      ReadOff (result.steps, result.measurement)) :
    (report stamp d settings b t k).Traced where
  runs := by
    intro run hrun
    rcases List.mem_cons.1 hrun with rfl | hrun
    · exact hb
    · obtain ⟨e, he, rfl⟩ := List.mem_map.1 hrun
      obtain ⟨c, result, rfl, hread⟩ := ht e he
      exact hread
  comparisons := by
    intro c hc
    obtain ⟨e, he, hbench⟩ := List.mem_filterMap.1 hc
    obtain ⟨candidate, result, rfl, -⟩ := ht e he
    exact Acceptance.between?_of_comparison?
      ((Acceptance.evaluate_carries _ _ _ _).2 c hbench)
  risks := by
    intro e he
    obtain ⟨candidate, result, rfl, -⟩ := ht e he
    change (Acceptance.evaluate config.acceptance candidate.opportunity b.run
      result).riskScore.isFinite = true
    rw [(Acceptance.evaluate_carries _ _ _ _).1]
    exact candidate.opportunity.isFinite_effectiveRisk

end Traced

theorem execute_traced (step : StepRunner σ) (find : σ → Except PatchError (Applicator σ) × σ)
    (config : Config) (registry : Registry) (stamp : RunStamp) (d : Detection)
    (settings : Settings) (cs : List Candidate) (cancelled : Bool) (s : σ) (r : Report)
    (hr : (execute ⟨Pipeline.executor step, find⟩ config registry stamp d settings cs cancelled
      s).outcome = .ok (.ok r)) : r.Traced := by
  obtain ⟨h, -⟩ := executed ⟨Pipeline.executor step, find⟩ config registry stamp d settings cs
    cancelled s
  have hanswered := calls_answered ⟨Pipeline.executor step, find⟩ config registry stamp d settings
    cs cancelled s
  obtain ⟨b, t, rfl, ⟨-, rfl, hb⟩ | ⟨made, k', plan, vs, -, -, hb, hv, hlog⟩⟩ := h.reported hr
  · exact report_traced config (hb.readOff hanswered) (List.forall_mem_nil _)
  · rw [hlog] at hanswered
    refine report_traced config
      (hb.readOff fun call hc => hanswered call (List.mem_append_left _ hc)) ?_
    intro e he
    obtain ⟨i, hi, rfl⟩ := List.getElem_of_mem he
    have hall := hv.evaluated rfl
    have hi' : i < vs.length := by rw [hall.length_eq]; exact hi
    obtain ⟨result, ho, hjudged⟩ := hall.get hi' hi
    simp only [List.get_eq_getElem] at ho hjudged
    have hmem : vs[i] ∈ vs := List.getElem_mem hi'
    have hvisit : ∀ call ∈ vs[i].calls, call.AnsweredBy (Pipeline.executor step) := fun call hc =>
      hanswered call (List.mem_append_right _ (List.mem_flatMap.2 ⟨_, hmem, hc⟩))
    exact ⟨vs[i].candidate, result, hjudged, (hv.paired _ hmem).readOff ho hvisit⟩

/-- The measurement of a step is finite unless it is taken from a metric line out of range, and the
numbers of a run's report are finite unless that happens to one of its measurements or one of its
comparisons overflows. -/
theorem report_isFinite_iff {σ : Type} (step : StepRunner σ)
    (find : σ → Except PatchError (Applicator σ) × σ) (config : Config) (registry : Registry)
    (stamp : RunStamp) (d : Detection) (settings : Settings) (cs : List Candidate)
    (cancelled : Bool) (s : σ) :
    (∀ x : StepRun, (@Measurement.ofStepRun Float _ x).value.isFinite = true ↔ ¬ x.Overflows) ∧
    ∀ r : Report,
      (execute ⟨Pipeline.executor step, find⟩ config registry stamp d settings cs cancelled
        s).outcome = .ok (.ok r) →
      (∀ m, m ∈ r.measurements ↔ ∃ x ∈ r.measuredSteps, m = .ofStepRun x) ∧
      (r.IsFinite ↔
        (∀ x ∈ r.measuredSteps, ¬ x.Overflows) ∧ ∀ c ∈ r.comparisons, c.InRange) := by
  refine ⟨Measurement.isFinite_ofStepRun_iff, fun r hr => ?_⟩
  have htraced := execute_traced step find config registry stamp d settings cs cancelled s r hr
  exact ⟨fun _ => htraced.mem_measurements_iff, htraced.isFinite_iff⟩

/-- A baseline and a candidate that print the two ends of the range, so that the comparison
overflows although both measurements are finite. -/
theorem report_isFinite_ends :
    let bench : StepRunner Bool :=
      ⟨fun x command _ patched =>
        let value := if patched then "1e308" else "-1e308"
        ⟨⟨x.name, command, 0, 0, "\x7b\"value\": " ++ value ++ "\x7d", "", false⟩, [], false,
          patched⟩, fun _ _ _ _ => rfl, fun _ _ _ _ => rfl⟩
    let tool : Applicator Bool := ⟨fun direction _ _ => ⟨.ok (), false, direction = .apply⟩⟩
    let host : Host Bool := ⟨Pipeline.executor bench, fun s => (.ok tool, s)⟩
    let d : Detection := { commands := { PerStep.const none with bench := some "make bench" } }
    let cs : List Candidate := [⟨{ id := "a" }, .ofDiff "+x"⟩]
    ∃ r, (execute host {} .standard ⟨"run", default, default, 0⟩ d .default cs false
        false).outcome = .ok (.ok r) ∧
      (∀ s ∈ r.measuredSteps, ¬ s.Overflows) ∧ ¬ ∀ c ∈ r.comparisons, c.InRange := by
  intro bench tool host d cs
  have hend : (execute host {} .standard ⟨"run", default, default, 0⟩ d .default cs false
      false).outcome.toOption.bind (fun answer => answer.toOption.map fun r =>
        (r.measurements.map (·.value.isFinite), r.comparisons.map (·.absoluteDelta.isFinite))) =
      some ([true, true], [false]) := by decide +kernel
  obtain ⟨r, hr⟩ : ∃ r, (execute host {} .standard ⟨"run", default, default, 0⟩ d .default cs false
      false).outcome = .ok (.ok r) := ⟨_, rfl⟩
  rw [hr] at hend
  obtain ⟨hm, hc⟩ : r.measurements.map (·.value.isFinite) = [true, true] ∧
      r.comparisons.map (·.absoluteDelta.isFinite) = [false] := Prod.mk.inj (Option.some.inj hend)
  obtain ⟨hfinite_iff, hreport⟩ := report_isFinite_iff bench (fun s => (.ok tool, s)) {} .standard
    ⟨"run", default, default, 0⟩ d .default cs false false
  obtain ⟨hmeasured, hiff⟩ := hreport r hr
  have hsteps : ∀ s ∈ r.measuredSteps, ¬ s.Overflows := by
    intro s hs
    have hmem := List.mem_map_of_mem (f := (·.value.isFinite)) ((hmeasured _).2 ⟨s, hs, rfl⟩)
    rw [hm] at hmem
    exact (hfinite_iff s).1 (by simpa using hmem)
  refine ⟨r, hr, hsteps, fun hrange => ?_⟩
  have hfinite := hiff.2 ⟨hsteps, hrange⟩
  obtain ⟨c, hmem, hinfinite⟩ : ∃ c ∈ r.comparisons, c.absoluteDelta.isFinite = false :=
    List.mem_map.1 (hc ▸ List.mem_singleton_self false)
  rw [(hfinite.comparisons c hmem).absoluteDelta] at hinfinite
  cases hinfinite

/-- A baseline that prints a number out of range. Its report holds an infinite measurement, for
which the text of the report has `null`. -/
theorem not_report_isFinite :
    let bench : StepRunner Unit :=
      ⟨fun x command _ s =>
        ⟨⟨x.name, command, 0, 0, "latency: 1e400 ms\n", "", false⟩, [], false, s⟩,
        fun _ _ _ _ => rfl, fun _ _ _ _ => rfl⟩
    let tool : Applicator Unit := ⟨fun _ _ s => ⟨.ok (), false, s⟩⟩
    let host : Host Unit := ⟨Pipeline.executor bench, fun s => (.ok tool, s)⟩
    let d : Detection := { commands := { PerStep.const none with bench := some "make bench" } }
    ∃ r, (execute host {} .standard ⟨"run", default, default, 0⟩ d .default [] false
        ()).outcome = .ok (.ok r) ∧
      ¬ r.IsFinite ∧ ∃ m ∈ r.measurements, (Json.double m.value).pretty = "null" := by
  intro bench tool host d
  have hend : (execute host {} .standard ⟨"run", default, default, 0⟩ d .default [] false
      ()).outcome.toOption.bind (fun answer => answer.toOption.map fun r =>
        r.measurements.map fun m => (m.value.isFinite, (Json.double m.value).pretty)) =
      some [(false, "null")] := by decide +kernel
  obtain ⟨r, hr⟩ : ∃ r, (execute host {} .standard ⟨"run", default, default, 0⟩ d .default [] false
      ()).outcome = .ok (.ok r) := ⟨_, rfl⟩
  rw [hr] at hend
  have hlist : r.measurements.map (fun m => (m.value.isFinite, (Json.double m.value).pretty)) =
      [(false, "null")] := Option.some.inj hend
  obtain ⟨m, hmem, hm⟩ := List.mem_map.1 (hlist ▸ List.mem_singleton_self (false, "null"))
  obtain ⟨hinfinite, hnull⟩ := Prod.mk.inj hm
  refine ⟨r, hr, fun hfinite => ?_, m, hmem, hnull⟩
  rw [hfinite.measurements m hmem] at hinfinite
  cases hinfinite

end Run

end PatchTrial
