import PatchTrial.Proofs.FailFast
import PatchTrial.Proofs.RunCalls

/-!
# Patches are taken back, and what is accepted has passed

The calls of a run are those for its baseline, each of which runs all steps, and then those for
the candidates that it visits, one candidate after another. Every patch that is applied is taken
back before the next call for a candidate, or before the run goes on with a panic.

A pipeline run that succeeded came to its end by itself: it ran every step that the plan has a
command for, in order, and each exited with code zero. An accepted candidate has such a run, with
the plan that the baseline succeeded with, while its patch was applied. The gate let the patch
pass, and the benchmark did not regress beyond the tolerance.
-/
namespace PatchTrial

variable {σ : Type}

namespace Run

/-- The calls of a run fall into the attempts at a baseline and the visits to candidates. The plans
are those of the attempts, in order. -/
structure Parts (config : Config) (cs : List Candidate) (log : List Call)
    (outcome : Except Panic (Except TrialError Report)) (plans : List Plan)
    (attempts : List Call) (visits : List Visit) : Prop where
  log_eq : log = attempts ++ visits.flatMap Visit.calls
  attempts_ran : List.Forall₂ Baseline.RanAll plans attempts
  in_order : visits.map Visit.candidate <+: cs
  /-- All visits but the last leave the tree clean and see no cancellation. -/
  quiet : ∀ v ∈ visits.dropLast, v.cancels = false ∧ ∃ r, v.outcome = .ok r ∧ r.treeClean = true
  /-- After a baseline that succeeded, all candidates are visited unless the run is cancelled or the
  tree left dirty. -/
  goes_on : ∀ r, outcome = .ok (.ok r) → r.strategy.run.succeeded = true →
    r.treeDirty = false → r.cancelled = false → visits.map Visit.candidate = cs
  /-- Every visit is with the plan of the last attempt. -/
  paired : ∀ v ∈ visits, ∃ plan, plans.getLast? = some plan ∧ v.Paired config.gate plan
  refused : ∀ e, outcome = .ok (.error e) → log = []
  /-- Only a baseline that succeeded is followed by visits. -/
  succeeded : visits ≠ [] → ∃ quiet plan run k, plans.getLast? = some plan ∧
    attempts = quiet ++ [.ran plan Step.all (.ok run) k] ∧ run.succeeded = true
  /-- The report tells of the last attempt and of each visit, in order. -/
  reported : ∀ r, outcome = .ok (.ok r) → r.strategy.plans = plans ∧
    (∀ call, attempts.getLast? = some call →
      ∃ plan k, call = .ran plan Step.all (.ok r.strategy.run) k) ∧
    List.Forall₂ (fun v e => ∃ result, v.outcome = .ok result ∧
      e = judged config r.strategy v.candidate result) visits r.evaluations
  /-- A panic comes from the last attempt or the last visit. -/
  panicked : ∀ p, outcome = .error p →
    (visits = [] ∧ ∃ quiet plan k, attempts = quiet ++ [.ran plan Step.all (.error p) k]) ∨
      ∃ front last, visits = front ++ [last] ∧ last.outcome = .error p ∧
        ∀ v ∈ front, ∃ r, v.outcome = .ok r

section Parts

variable {config : Config} {cs : List Candidate} {log : List Call}
  {outcome : Except Panic (Except TrialError Report)} {plans : List Plan}

/-- A run that visits no candidate consists of attempts. -/
theorem Parts.unvisited (hran : List.Forall₂ Baseline.RanAll plans log)
    (hrefused : ∀ e, outcome = .ok (.error e) → log = [])
    (hreported : ∀ r, outcome = .ok (.ok r) → r.strategy.plans = plans ∧
      (∀ call, log.getLast? = some call →
        ∃ plan k, call = .ran plan Step.all (.ok r.strategy.run) k) ∧ r.evaluations = [] ∧
      r.strategy.run.succeeded = false)
    (hpanicked : ∀ p, outcome = .error p →
      ∃ quiet plan k, log = quiet ++ [.ran plan Step.all (.error p) k]) :
    Parts config cs log outcome plans log [] where
  log_eq := (List.append_nil log).symm
  attempts_ran := hran
  in_order := List.nil_prefix
  quiet := List.forall_mem_nil _
  goes_on r hr hs := absurd ((hreported r hr).2.2.2.symm.trans hs) Bool.false_ne_true
  paired := List.forall_mem_nil _
  refused := hrefused
  succeeded hv := absurd rfl hv
  reported r hr := by
    obtain ⟨hplans, hlast, he, -⟩ := hreported r hr
    rw [he]
    exact ⟨hplans, hlast, .nil⟩
  panicked p hp := Or.inl ⟨rfl, hpanicked p hp⟩

variable {registry : Registry} {stamp : RunStamp} {d : Detection} {settings : Settings}
  {cancelled k : Bool}

/-- A run that goes on to candidates consists of the attempts at its baseline and the visits. -/
theorem Parts.visited {made : List Call} {b : Baseline} {k' : Bool} {plan : Plan}
    {vs : List Visit} {trials : Except Panic Trials}
    (hb : Baseline.Established registry config.excerptBytes.toNat d settings cancelled made
      (.ok b) k)
    (hs : b.run.succeeded = true) (hp : b.finalPlan? = some plan)
    (hv : Visits config b plan k cs vs trials k') :
    ∃ plans, Parts config cs (made ++ vs.flatMap Visit.calls)
      (trials.map fun t => .ok (report stamp d settings b t k')) plans made vs := by
  obtain ⟨plans, hran, hplans⟩ := hb.plans_ran
  obtain ⟨-, quiet, last, he⟩ := hb.ends_of_succeeded hs
  have hlast : last = plan := Option.some.inj ((he.final_plan b rfl).symm.trans hp)
  subst hlast
  rw [Baseline.finalPlan?, hplans b rfl] at hp
  refine ⟨plans, {
    log_eq := rfl
    attempts_ran := hran
    in_order := hv.candidates_prefix
    quiet := hv.quiet
    goes_on := ?_
    paired := fun v hm => ⟨last, hp, hv.paired v hm⟩
    refused := ?_
    succeeded := fun _ => ⟨quiet, last, b.run, k, hp, he.made_eq, hs⟩
    reported := ?_
    panicked := ?_ }⟩
  · intro r ho _ hd hk
    cases trials with
    | error p => cases ho
    | ok t =>
      cases ho
      exact hv.candidates_eq rfl hd hk
  · intro e ho
    cases trials <;> cases ho
  · intro r ho
    cases trials with
    | error p => cases ho
    | ok t =>
      cases ho
      exact ⟨hplans b rfl, fun call hc => (hb.last_ran hc).imp fun _ hrun => ⟨k, hrun⟩,
        hv.evaluated rfl⟩
  · intro p ho
    cases trials with
    | error q =>
      cases ho
      exact Or.inr (hv.panic_last rfl)
    | ok t => cases ho

theorem Executed.parts
    (h : Executed config registry stamp d settings cs cancelled log outcome k) :
    ∃ plans attempts visits, Parts config cs log outcome plans attempts visits := by
  cases h with
  | toolMissing e =>
    refine ⟨[], [], [], .unvisited .nil (fun _ _ => rfl) ?_ ?_⟩
    · rintro r ⟨⟩
    · rintro p ⟨⟩
  | @baselinePanicked _ q _ hb =>
    obtain ⟨plans, hran, -⟩ := hb.plans_ran
    refine ⟨plans, log, [], .unvisited hran ?_ ?_ ?_⟩
    · rintro e ⟨⟩
    · rintro r ⟨⟩
    · rintro p ⟨⟩
      rcases hb.ends with ⟨_, _, _, b, hb, _⟩ | ⟨_, quiet, plan, he⟩
      · cases hb
      · exact ⟨quiet, plan, k, he.made_eq⟩
  | @baselineFailed _ b _ hb hs =>
    obtain ⟨plans, hran, hplans⟩ := hb.plans_ran
    refine ⟨plans, log, [], .unvisited hran ?_ ?_ ?_⟩
    · rintro e ⟨⟩
    · rintro r ⟨⟩
      exact ⟨hplans b rfl, fun call hc => (hb.last_ran hc).imp fun _ hrun => ⟨k, hrun⟩, rfl, hs⟩
    · rintro p ⟨⟩
  | @tried made b k' plan vs trials _ hb hs hp hv =>
    obtain ⟨plans, hparts⟩ := Parts.visited hb hs hp hv
    exact ⟨plans, made, vs, hparts⟩

end Parts

/-- The calls of every run come in pairs of applying and taking back, with the run of the steps in
between, for one candidate after another until the run is cancelled or the tree is left dirty. What
a visit reports agrees with its calls. -/
theorem execute_paired (host : Host σ) (config : Config) (registry : Registry) (stamp : RunStamp)
    (d : Detection) (settings : Settings) (cs : List Candidate) (cancelled : Bool) (s : σ) :
    let c := execute host config registry stamp d settings cs cancelled s
    let log := calls host config registry stamp d settings cs cancelled s
    Journal.calls c.journal = log.map Call.entry ∧
    ∃ plans attempts visits, Parts config cs log c.outcome plans attempts visits ∧
      ∀ v ∈ visits, ∀ r, v.outcome = .ok r →
        (r.treeClean = false ↔ ∃ diff e k, Call.patched .revert diff (.error e) k ∈ v.calls) ∧
        (r.rejection.isSome = true ↔
          (∃ violation, config.gate.check v.candidate.patch = .error violation) ∨
            ∃ diff e k, Call.patched .apply diff (.error e) k ∈ v.calls) ∧
        (r.rejection.isSome = true → r.steps = []) := by
  intro c log
  obtain ⟨h, hj⟩ := executed host config registry stamp d settings cs cancelled s
  obtain ⟨plans, attempts, visits, hp⟩ := h.parts
  refine ⟨hj, plans, attempts, visits, hp, ?_⟩
  intro v hv r ho
  obtain ⟨plan, -, hpaired⟩ := hp.paired v hv
  obtain ⟨hrejected, hsteps⟩ := hpaired.rejection_iff ho
  exact ⟨hpaired.dirty_iff ho, hrejected, hsteps⟩

/-- The visits of a run that gave a report are those to the candidates that it evaluates. -/
theorem Parts.ids {config : Config} {cs : List Candidate} {log : List Call}
    {outcome : Except Panic (Except TrialError Report)} {plans : List Plan}
    {attempts : List Call} {visits : List Visit}
    (h : Parts config cs log outcome plans attempts visits) {r : Report}
    (hr : outcome = .ok (.ok r)) :
    visits.map (·.candidate.id) = r.evaluations.map Evaluation.candidateId := by
  rw [← List.forall₂_eq_eq_eq, List.forall₂_map_left_iff, List.forall₂_map_right_iff]
  refine (h.reported r hr).2.2.imp ?_
  rintro v e ⟨result, -, rfl⟩
  rfl

/-- Candidates that the gate turns away, that cannot be applied, that are taken back and that leave
the tree dirty, the next one being left alone, and a run that panics while a patch is applied. Each
call is told with whether it went well. -/
theorem execute_paired_dirty :
    let stepRun (exitCode : Int32) (stderr : String) : PipelineRun Float :=
      .ofSteps [⟨"test", "npm test", exitCode, 0, "", stderr, false⟩] none
    let d : Detection :=
      { language := .node, commands := { PerStep.const none with test := some "npm test" } }
    let cs : List Candidate := [⟨{ id := "gated" }, ⟨"+x", ["package.json"], 1⟩⟩,
      ⟨{ id := "unapplied" }, .ofDiff "+1"⟩, ⟨{ id := "clean" }, .ofDiff "+2"⟩,
      ⟨{ id := "dirty" }, .ofDiff "+3"⟩, ⟨{ id := "late" }, .ofDiff "+4"⟩]
    let told : Call → String × Bool
      | .ran plan steps outcome _ =>
        (if steps = Step.all then s!"baseline {plan.attempt.toNat}"
          else s!"candidate {plan.attempt.toNat}", outcome.toOption.any (·.succeeded))
      | .patched .apply diff answer _ => ("apply " ++ diff, answer.toOption.isSome)
      | .patched .revert diff answer _ => ("revert " ++ diff, answer.toOption.isSome)
    let stamp : RunStamp := ⟨"run", default, default, 0⟩
    let log (script : Script) : List Call :=
      calls Script.host {} .standard stamp d .default cs false script
    let outcome (script : Script) : Except Panic (Except TrialError Report) :=
      (execute Script.host {} .standard stamp d .default cs false script).outcome
    let runs : List ScriptedRun := [stepRun 1 "out of memory", stepRun 0 "", stepRun 2 "",
      stepRun 0 ""].map (⟨false, .ok ·⟩)
    let dirty : Script :=
      { runs := runs, applies := [some .emptyDiff], reverts := [none, some .emptyDiff] }
    let broken : Script :=
      { runs := runs.take 2 ++ [⟨false, .error ⟨"boom"⟩⟩], reverts := [some .emptyDiff] }
    (∃ plans attempts visits, Parts {} cs (log dirty) (outcome dirty) plans attempts visits ∧
      visits.map (·.candidate.id) = ["gated", "unapplied", "clean", "dirty"] ∧
      (log dirty).map told = [("baseline 1", false), ("baseline 2", true), ("apply +1", false),
        ("apply +2", true), ("candidate 2", false), ("revert +2", true),
        ("apply +3", true), ("candidate 2", true), ("revert +3", false)]) ∧
      ∃ plans attempts visits, Parts {} cs (log broken) (outcome broken) plans attempts visits ∧
        outcome broken = .error ⟨"boom"⟩ ∧
        (log broken).map told = [("baseline 1", false), ("baseline 2", true), ("apply +1", true),
          ("candidate 2", false), ("revert +1", false)] := by
  intro stepRun d cs told stamp log outcome runs dirty broken
  have hparts (script : Script) : ∃ plans attempts visits,
      Parts {} cs (log script) (outcome script) plans attempts visits := by
    obtain ⟨-, plans, attempts, visits, hp, -⟩ :=
      execute_paired Script.host {} .standard stamp d .default cs false script
    exact ⟨plans, attempts, visits, hp⟩
  constructor
  · obtain ⟨plans, attempts, visits, hp⟩ := hparts dirty
    have hsome : ((outcome dirty).toOption.bind Except.toOption).map (fun r =>
        r.evaluations.map Evaluation.candidateId) =
          some ["gated", "unapplied", "clean", "dirty"] := by
      decide +kernel
    obtain ⟨r, hr, hids⟩ := Option.map_eq_some_iff.mp hsome
    exact ⟨plans, attempts, visits, hp, (hp.ids (reported_of_toOption hr)).trans hids,
      by decide +kernel⟩
  · obtain ⟨plans, attempts, visits, hp⟩ := hparts broken
    have hpanic : (match outcome broken with | .error p => some p | .ok _ => none) =
        some ⟨"boom"⟩ := by decide +kernel
    have hbroken : outcome broken = .error ⟨"boom"⟩ := by
      split at hpanic
      next p hp' => rw [hp', Option.some.inj hpanic]
      next => cases hpanic
    exact ⟨plans, attempts, visits, hp, hbroken, by decide +kernel⟩

end Run

/-! ### What an accepted candidate has passed -/

namespace Pipeline

/-- A run that succeeded is that of all steps with a command, of which there is at least one. -/
theorem runSteps_succeeded {step : StepRunner σ} {plan : Plan} {steps : List Step}
    {cancelled : Bool} {s : σ} {run : PipelineRun Float}
    (h : (runSteps step plan steps cancelled s).outcome = .ok run) (hs : run.succeeded = true) :
    run = finished run.steps ∧
      run.steps.map (fun r => (r.step, r.command)) = (runnable plan steps).map label ∧
      run.steps ≠ [] ∧ ∀ r ∈ run.steps, r.exitCode = 0 := by
  rcases runSteps_cases step plan steps cancelled s with ⟨-, -, ho⟩ | ⟨hne, run', ho, hstarted⟩
  · cases h.symm.trans ho
    cases hs
  cases h.symm.trans ho
  obtain ⟨done, left, hsplit, hlabels, hended⟩ := hstarted.ended
  rw [List.nil_append] at hended
  obtain ⟨rfl, hp⟩ := hended.succeeded_iff.mp hs
  rw [List.append_nil] at hsplit
  subst hsplit
  have hsteps : run.steps.map (fun r => (r.step, r.command)) = (runnable plan steps).map label := by
    rw [hended.steps_eq, List.map_map]
    exact hlabels
  rw [← hended.steps_eq] at hp
  refine ⟨?_, hsteps, ?_, fun r hr => (passed_iff r).mp (hp r hr)⟩
  · rw [hended.steps_eq]
    exact hended.eq_finished hs
  · intro hnil
    rw [hnil, List.map_nil, eq_comm, List.map_eq_nil_iff] at hsteps
    exact hne hsteps

end Pipeline

/-- What was done for a visit before its evaluation said to keep the candidate. -/
structure Visit.Revalidated (config : Config) (baseline : Baseline) (plan : Plan) (v : Visit)
    (e : Evaluation) : Prop where
  id_eq : e.candidateId = v.candidate.id
  gate_passed : config.gate.check v.candidate.patch = .ok ()
  /-- The steps ran to their end while the patch was applied. -/
  calls_eq : ∃ k₁ k₂ answer k₃, v.calls = [.patched .apply v.candidate.patch.diff (.ok ()) k₁,
    .ran plan Step.revalidated (.ok (Pipeline.finished e.result.steps)) k₂,
    .patched .revert v.candidate.patch.diff answer k₃]
  succeeded : e.result.succeeded = true
  /-- Every step with a command was run, in order. -/
  steps_eq : e.result.steps.map (fun r => (r.step, r.command)) =
    (Pipeline.runnable plan Step.revalidated).map Pipeline.label
  steps_ne_nil : e.result.steps ≠ []
  exitCode_eq : ∀ r ∈ e.result.steps, r.exitCode = 0
  not_regressed : ∀ before after c, baseline.run.measurement = some before →
    e.result.measurement = some after → Comparison.between? before after = some c →
    Quantity.lt c.improvement (Quantity.neg config.acceptance.regressionTolerance) = false

theorem Visit.Paired.revalidated {step : StepRunner σ} {config : Config} {baseline : Baseline}
    {plan : Plan} {v : Visit} {result : CandidateRun Float} (h : v.Paired config.gate plan)
    (ho : v.outcome = .ok result)
    (hanswered : ∀ call ∈ v.calls, call.AnsweredBy (Pipeline.executor step))
    (hacc : (Run.judged config baseline v.candidate result).verdict.accepted = true) :
    v.Revalidated config baseline plan (Run.judged config baseline v.candidate result) := by
  obtain ⟨hr, hf, hbench⟩ := Acceptance.of_accepted hacc
  obtain ⟨hg, run, k₁, k₂, answer, k₃, hcalls, hsteps, hs, hm⟩ := h.ran_of_not_rejected ho hr
  have hsucceeded := (Acceptance.faults_eq_nil_iff.mp hf).2
  have hran : Call.ran plan Step.revalidated (.ok run) k₂ ∈ v.calls := by
    rw [hcalls]
    exact List.mem_cons_of_mem _ List.mem_cons_self
  obtain ⟨cancelled, s, hout, -⟩ := hanswered _ hran
  obtain ⟨hfinished, hlabels, hne, hzero⟩ :=
    Pipeline.runSteps_succeeded hout.symm (hs.symm.trans hsucceeded)
  rw [← hsteps] at hfinished hlabels hne hzero
  rw [hfinished] at hcalls
  refine ⟨rfl, hg, ⟨k₁, k₂, answer, k₃, hcalls⟩, hsucceeded, hlabels, hne, hzero, ?_⟩
  intro before after c hbefore hafter hcmp
  refine hbench c ?_
  rw [Acceptance.comparison?, hbefore, show result.measurement = some after from hafter]
  exact hcmp

namespace Run

/-- Every candidate that a report says to keep was validated anew with its patch applied: all steps
of the plan that the baseline succeeded with passed, and the benchmark did not regress. -/
theorem accepted_revalidated (step : StepRunner σ)
    (find : σ → Except PatchError (Applicator σ) × σ) (config : Config) (registry : Registry)
    (stamp : RunStamp) (d : Detection) (settings : Settings) (cs : List Candidate)
    (cancelled : Bool) (s : σ) (r : Report)
    (hr : (execute ⟨Pipeline.executor step, find⟩ config registry stamp d settings cs cancelled
      s).outcome = .ok (.ok r)) :
    ∃ plans attempts visits,
      Parts config cs (calls ⟨Pipeline.executor step, find⟩ config registry stamp d settings cs
        cancelled s) (.ok (.ok r)) plans attempts visits ∧
      ∀ (i : Nat) (e : Evaluation), r.evaluations[i]? = some e → e.verdict.accepted = true →
        ∃ v plan quiet k, visits[i]? = some v ∧ plans.getLast? = some plan ∧
          attempts = quiet ++ [.ran plan Step.all (.ok r.strategy.run) k] ∧
          r.strategy.run.succeeded = true ∧ Visit.Revalidated config r.strategy plan v e := by
  obtain ⟨h, -⟩ := executed ⟨Pipeline.executor step, find⟩ config registry stamp d settings cs
    cancelled s
  have hanswered := calls_answered ⟨Pipeline.executor step, find⟩ config registry stamp d settings
    cs cancelled s
  rw [hr] at h
  obtain ⟨plans, attempts, visits, hp⟩ := h.parts
  refine ⟨plans, attempts, visits, hp, ?_⟩
  intro i e he hacc
  obtain ⟨-, hlast, hreported⟩ := hp.reported r rfl
  obtain ⟨hi, rfl⟩ := List.getElem?_eq_some_iff.mp he
  have hi' : i < visits.length := by
    rw [hreported.length_eq]
    exact hi
  have hv : visits[i] ∈ visits := List.getElem_mem hi'
  obtain ⟨quiet, plan, run, k, hplan, hattempts, hs⟩ := hp.succeeded (List.ne_nil_of_mem hv)
  obtain ⟨plan', k', heq⟩ := hlast (.ran plan Step.all (.ok run) k) (by
    rw [hattempts, List.getLast?_concat])
  cases heq
  obtain ⟨plan', hplan', hpaired⟩ := hp.paired _ hv
  rw [hplan, Option.some.injEq] at hplan'
  subst hplan'
  obtain ⟨result, ho, hjudged⟩ := hreported.get hi' hi
  simp only [List.get_eq_getElem] at ho hjudged
  rw [hjudged] at hacc ⊢
  have hcalls : ∀ call ∈ visits[i].calls, call.AnsweredBy (Pipeline.executor step) := by
    intro call hc
    refine hanswered call ?_
    rw [hp.log_eq]
    exact List.mem_append_right _ (List.mem_flatMap.mpr ⟨_, hv, hc⟩)
  exact ⟨visits[i], plan, quiet, k, List.getElem?_eq_getElem hi', hplan, hattempts, hs,
    hpaired.revalidated ho hcalls hacc⟩

/-- A candidate that is kept on a machine where every step passes and the bench step prints a lower
latency while the patch is applied. -/
theorem accepted_revalidated_make :
    let passing : StepRunner (List String) :=
      ⟨fun x command _ s =>
          if x = .bench then ⟨⟨x.name, command, 0, 0, s.headD "", "", false⟩, [], false, s.tail⟩
          else ⟨⟨x.name, command, 0, 0, "", "", false⟩, [], false, s⟩,
        fun x _ _ _ => by cases x <;> rfl, fun x _ _ _ => by cases x <;> rfl⟩
    let tool : Applicator (List String) := ⟨fun _ _ s => ⟨.ok (), false, s⟩⟩
    let host : Host (List String) := ⟨Pipeline.executor passing, fun s => (.ok tool, s)⟩
    let d : Detection := { commands := { PerStep.const none with
      build := some "make", typecheck := some "make types", test := some "make test",
      bench := some "make bench" } }
    let cs : List Candidate := [⟨{ id := "a" }, .ofDiff "+x"⟩]
    ∃ r e plan v, (execute host {} .standard ⟨"run", default, default, 0⟩ d .default cs false
        ["latency: 100 ms", "latency: 90 ms"]).outcome = .ok (.ok r) ∧
      r.evaluations[0]? = some e ∧ e.verdict.accepted = true ∧
      e.result.steps.map (fun r => (r.step, r.command)) =
        [("build", "make"), ("typecheck", "make types"), ("test", "make test"),
          ("bench", "make bench")] ∧
      e.result.measurement = some ⟨"latency", 90, some "ms", true⟩ ∧
      Visit.Revalidated {} r.strategy plan v e := by
  intro passing tool host d cs
  have hsome : ((execute host {} .standard ⟨"run", default, default, 0⟩ d .default cs false
      ["latency: 100 ms", "latency: 90 ms"]).outcome.toOption.bind Except.toOption).bind
      (fun r => r.evaluations[0]?.map fun e => (e.verdict.accepted,
        e.result.steps.map (fun r => (r.step, r.command)), e.result.measurement)) =
      some (true, [("build", "make"), ("typecheck", "make types"), ("test", "make test"),
        ("bench", "make bench")], some ⟨"latency", 90, some "ms", true⟩) := by decide +kernel
  obtain ⟨r, hr, he⟩ := Option.bind_eq_some_iff.mp hsome
  obtain ⟨e, he, hkept⟩ := Option.map_eq_some_iff.mp he
  obtain ⟨hacc, hsteps, hmeasured⟩ : e.verdict.accepted = true ∧ _ ∧ _ := by
    simpa only [Prod.mk.injEq] using hkept
  have hr := reported_of_toOption hr
  obtain ⟨_, _, _, _, hall⟩ := accepted_revalidated passing (fun s => (.ok tool, s)) {} .standard
    ⟨"run", default, default, 0⟩ d .default cs false _ r hr
  obtain ⟨v, plan, _, _, _, _, _, _, hv⟩ := hall 0 e he hacc
  exact ⟨r, e, plan, v, hr, he, hacc, hsteps, hmeasured, hv⟩

end Run

end PatchTrial
