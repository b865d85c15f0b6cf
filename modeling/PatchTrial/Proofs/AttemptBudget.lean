import PatchTrial.Proofs.BaselineOutcome

/-!
# More attempts

The answers of an executor determine the baseline: `replay` makes the attempts anew from a list of
results. Two runs whose calls are given the same results in turn therefore differ only in where
they end. A larger budget continues the run of a smaller one, and a strict run is one with a
budget of a single attempt.
-/
namespace PatchTrial

variable {σ τ : Type}

/-- An executor that gives these results one after the other, whatever it is asked to run. Its
state is how many it gave. -/
def Executor.inTurn (results : Nat → PipelineRun Float) : Executor Nat :=
  ⟨fun _ _ _ n => ⟨.ok (results n), [], false, n + 1⟩⟩

namespace Baseline

/-- The calls were given these results in turn, and the run was cancelled during none of them. -/
def GivenInTurn (results : Nat → PipelineRun Float) (log : List Call) : Prop :=
  ∀ i call, log[i]? = some call → ∃ plan steps, call = Call.ran plan steps (.ok (results i)) false

/-- The results after the first. -/
def later (results : Nat → PipelineRun Float) : Nat → PipelineRun Float := fun i => results (i + 1)

section GivenInTurn

variable {results : Nat → PipelineRun Float} {plan : Plan} {steps : List Step}
  {outcome : Except Panic (PipelineRun Float)} {k : Bool} {log : List Call}

theorem GivenInTurn.head (h : GivenInTurn results (.ran plan steps outcome k :: log)) :
    outcome = .ok (results 0) ∧ k = false := by
  obtain ⟨plan', steps', hc⟩ := h 0 _ rfl
  cases hc
  exact ⟨rfl, rfl⟩

theorem GivenInTurn.tail {call : Call} (h : GivenInTurn results (call :: log)) :
    GivenInTurn (later results) log := fun i => h (i + 1)

theorem GivenInTurn.concat (h : GivenInTurn results log) :
    GivenInTurn results (log ++ [.ran plan steps (.ok (results log.length)) false]) := by
  intro i call hi
  by_cases hlt : i < log.length
  · rw [List.getElem?_append_left hlt] at hi
    exact h i call hi
  · have hle := (List.getElem?_eq_some_iff.mp hi).1
    rw [List.length_append, List.length_singleton] at hle
    obtain rfl : i = log.length := by omega
    rw [List.getElem?_concat_length, Option.some.injEq] at hi
    exact ⟨plan, steps, hi.symm⟩

end GivenInTurn

/-- Whatever baseline is asked of an executor that gives results in turn, it gives them in turn. -/
theorem givenInTurn_inTurn (results : Nat → PipelineRun Float) (registry : Registry)
    (excerpt : Nat) (d : Detection) (settings : Settings) (cancelled : Bool) :
    GivenInTurn results
      (calls (.inTurn results) registry excerpt d settings cancelled 0) := by
  have hx : (Executor.inTurn results).recorded.Alike
      (fun t u => t = u ∧ t.1 = t.2.length ∧ GivenInTurn results t.2)
      (Executor.inTurn results).recorded := by
    rintro plan steps k ⟨n, log⟩ _ ⟨rfl, hn, hlog⟩
    have hn : n = log.length := hn
    refine ⟨rfl, rfl, rfl, rfl, ?_, ?_⟩
    · simp only [Executor.recorded, Executor.inTurn, List.length_append, List.length_singleton, hn]
    · simp only [Executor.recorded, Executor.inTurn, hn]
      exact hlog.concat
  refine (establish_alike hx registry excerpt d settings cancelled (t := (0, []))
    ⟨rfl, rfl, ?_⟩).after.2.2
  rintro i call ⟨⟩

/-- The baseline of attempts from a plan on that are given these results, if the run is never
cancelled. After the first, `more` attempts may follow. -/
def replay (eco : Ecosystem) (d : Detection) (mode : Mode) (excerpt : Nat) :
    (more : Nat) → Plan → (Nat → PipelineRun Float) → Baseline
  | more, plan, results =>
    let run := results 0
    let failure := Failure.classify excerpt run
    if run.succeeded then ⟨run, [plan], [], .succeeded⟩
    else if mode = .strict then ⟨run, [plan], [failure], .singleAttempt⟩
    else
      match more, eco.revisedPlan? d plan failure with
      | 0, _ => ⟨run, [plan], [failure], .attemptsExhausted⟩
      | _ + 1, none => ⟨run, [plan], [failure], .noRemediation⟩
      | more + 1, some next =>
        (replay eco d mode excerpt more next (later results)).afterFailure plan failure

section Replay

variable {eco : Ecosystem} {d : Detection} {mode : Mode} {excerpt more : Nat} {plan : Plan}
  {results : Nat → PipelineRun Float} {made : List Call} {outcome : Except Panic Baseline}
  {k : Bool}

theorem replay_of_succeeded (hs : (results 0).succeeded = true) :
    replay eco d mode excerpt more plan results = ⟨results 0, [plan], [], .succeeded⟩ := by
  unfold replay
  simp only [hs, if_true]

theorem replay_exhausted (hs : (results 0).succeeded = false) (hm : mode ≠ .strict) :
    replay eco d mode excerpt 0 plan results =
      ⟨results 0, [plan], [Failure.classify excerpt (results 0)], .attemptsExhausted⟩ := by
  unfold replay
  simp only [hs, hm, Bool.false_eq_true, if_false]

theorem replay_refused (hs : (results 0).succeeded = false) (hm : mode ≠ .strict)
    (hn : eco.revisedPlan? d plan (Failure.classify excerpt (results 0)) = none) :
    replay eco d mode excerpt (more + 1) plan results =
      ⟨results 0, [plan], [Failure.classify excerpt (results 0)], .noRemediation⟩ := by
  unfold replay
  simp only [hs, hm, hn, Bool.false_eq_true, if_false]

theorem replay_retried (hs : (results 0).succeeded = false) (hm : mode ≠ .strict) {next : Plan}
    (hn : eco.revisedPlan? d plan (Failure.classify excerpt (results 0)) = some next) :
    replay eco d mode excerpt (more + 1) plan results =
      (replay eco d mode excerpt more next (later results)).afterFailure plan
        (Failure.classify excerpt (results 0)) := by
  conv_lhs => unfold replay
  simp only [hs, hm, hn, Bool.false_eq_true, if_false]

theorem replay_of_strict (hs : (results 0).succeeded = false) :
    replay eco d .strict excerpt more plan results =
      ⟨results 0, [plan], [Failure.classify excerpt (results 0)], .singleAttempt⟩ := by
  unfold replay
  simp only [hs, Bool.false_eq_true, if_false, if_true]

/-- Attempts that are given results in turn come to the baseline that these determine. -/
theorem Attempts.outcome_eq (h : Attempts eco d mode excerpt more plan made outcome k)
    (hg : GivenInTurn results made) :
    outcome = .ok (replay eco d mode excerpt more plan results) := by
  induction h generalizing results with
  | panicked more plan p k =>
    obtain ⟨hp, -⟩ := hg.head
    cases hp
  | succeeded more plan k hs =>
    obtain ⟨hrun, -⟩ := hg.head
    cases hrun
    rw [replay_of_succeeded hs]
  | @stopped more plan run k reason hs hr =>
    obtain ⟨hrun, hk⟩ := hg.head
    cases hrun
    cases hr with
    | cancelled hc => cases hc.symm.trans hk
    | singleAttempt _ hm =>
      subst hm
      rw [replay_of_strict hs]
    | attemptsExhausted _ hm ha =>
      have hmore : more = 0 := by simpa using ha
      rw [hmore, replay_exhausted hs hm]
    | noRemediation _ hm ha hn =>
      obtain ⟨more, rfl⟩ := Nat.exists_eq_succ_of_ne_zero
        (Nat.pos_iff_ne_zero.mp (of_decide_eq_true ha))
      rw [replay_refused hs hm hn]
  | retried more plan hs hm hn rest ih =>
    obtain ⟨hrun, -⟩ := hg.head
    cases hrun
    rw [ih hg.tail, replay_retried hs hm hn]
    rfl

end Replay

/-- A baseline goes on where another ended: it has the same attempts and perhaps some more. It is
the same if the other passed or knew nothing else to try. -/
structure Continues (b' b : Baseline) : Prop where
  plans : b.plans <+: b'.plans
  failures : b.failures <+: b'.failures
  eq_of_settled : b.stopReason = .succeeded ∨ b.stopReason = .noRemediation → b' = b

namespace Continues

variable {b b' : Baseline}

theorem refl (b : Baseline) : b.Continues b :=
  ⟨List.prefix_rfl, List.prefix_rfl, fun _ => rfl⟩

theorem afterFailure (h : b'.Continues b) (plan : Plan) (failure : Failure) :
    (b'.afterFailure plan failure).Continues (b.afterFailure plan failure) where
  plans := List.cons_prefix_cons.mpr ⟨rfl, h.plans⟩
  failures := List.cons_prefix_cons.mpr ⟨rfl, h.failures⟩
  eq_of_settled hr := congrArg (Baseline.afterFailure plan failure) (h.eq_of_settled hr)

/-- Any attempts after a first one that failed continue it, if it ended for want of attempts. -/
theorem of_exhausted (run : PipelineRun Float) (plan : Plan) (failure : Failure) (b : Baseline) :
    (b.afterFailure plan failure).Continues ⟨run, [plan], [failure], .attemptsExhausted⟩ where
  plans := List.cons_prefix_cons.mpr ⟨rfl, List.nil_prefix⟩
  failures := List.cons_prefix_cons.mpr ⟨rfl, List.nil_prefix⟩
  eq_of_settled := by rintro (⟨⟨⟩⟩ | ⟨⟨⟩⟩)

end Continues

/-- A baseline of a strict run beside one of an adaptive run with a single attempt. They are the
same but for the reason to stop, and that differs only after a failure. -/
structure SameAttempt (strict once : Baseline) : Prop where
  plans : strict.plans = once.plans
  failures : strict.failures = once.failures
  run : strict.run = once.run
  eq_of_succeeded : once.run.succeeded = true → strict = once
  reasons_of_failed : once.run.succeeded = false →
    strict.stopReason = .singleAttempt ∧ once.stopReason = .attemptsExhausted

section Laws

variable (eco : Ecosystem) (d : Detection) (excerpt : Nat) (plan : Plan)
  (results : Nat → PipelineRun Float)

/-- On the same results, more attempts continue fewer. -/
theorem replay_continues {more more' : Nat} (hle : more ≤ more') :
    (replay eco d .adaptive excerpt more' plan results).Continues
      (replay eco d .adaptive excerpt more plan results) := by
  induction more' generalizing more plan results with
  | zero =>
    rw [Nat.le_zero.mp hle]
    exact .refl _
  | succ more' ih =>
    cases hs : (results 0).succeeded with
    | true =>
      rw [replay_of_succeeded hs, replay_of_succeeded hs]
      exact .refl _
    | false =>
      have hm : Mode.adaptive ≠ .strict := by decide
      cases hn : eco.revisedPlan? d plan (Failure.classify excerpt (results 0)) with
      | none =>
        rw [replay_refused hs hm hn]
        cases more with
        | zero =>
          rw [replay_exhausted hs hm]
          exact ⟨List.prefix_rfl, List.prefix_rfl, by rintro (⟨⟨⟩⟩ | ⟨⟨⟩⟩)⟩
        | succ more =>
          rw [replay_refused hs hm hn]
          exact .refl _
      | some next =>
        rw [replay_retried hs hm hn]
        cases more with
        | zero =>
          rw [replay_exhausted hs hm]
          exact .of_exhausted _ _ _ _
        | succ more =>
          rw [replay_retried hs hm hn]
          exact (ih next (later results) (Nat.le_of_succ_le_succ hle)).afterFailure _ _

/-- A strict run of some results and an adaptive one with a single attempt. -/
theorem replay_sameAttempt (more : Nat) :
    SameAttempt (replay eco d .strict excerpt more plan results)
      (replay eco d .adaptive excerpt 0 plan results) := by
  cases hs : (results 0).succeeded with
  | true =>
    rw [replay_of_succeeded hs, replay_of_succeeded hs]
    refine ⟨rfl, rfl, rfl, fun _ => rfl, ?_⟩
    intro hf
    cases hs.symm.trans hf
  | false =>
    rw [replay_of_strict hs, replay_exhausted hs (by decide)]
    refine ⟨rfl, rfl, rfl, ?_, fun _ => ⟨rfl, rfl⟩⟩
    intro hp
    cases hs.symm.trans hp

end Laws

/-- A baseline whose calls are given results in turn is the one that these determine. -/
theorem establish_eq_replay (x : Executor σ) (registry : Registry) (excerpt : Nat) (d : Detection)
    (settings : Settings) (s : σ) {results : Nat → PipelineRun Float}
    (hg : GivenInTurn results (calls x registry excerpt d settings false s)) :
    (establish x registry excerpt d settings false s).outcome =
      .ok (replay (registry.ecosystemFor d.language) d settings.mode excerpt
        (settings.effectiveAttempts - 1) ((registry.ecosystemFor d.language).strictPlan d)
        results) := by
  obtain ⟨he, -⟩ := established x registry excerpt d settings false s
  generalize calls x registry excerpt d settings false s = log at he hg
  generalize (establish x registry excerpt d settings false s).outcome = outcome at he ⊢
  generalize (establish x registry excerpt d settings false s).cancelled = k at he
  cases he with
  | attempted h => exact h.outcome_eq hg

/-- The attempts that follow the first are no fewer for a larger budget. -/
theorem adaptive_effectiveAttempts_mono {budget budget' : Nat} (h : budget ≤ budget') :
    (Settings.adaptive budget).effectiveAttempts - 1 ≤
      (Settings.adaptive budget').effectiveAttempts - 1 := by
  simp only [Settings.adaptive, Settings.clamped, Settings.effectiveAttempts]
  omega

/-- Two runs on executors that answer in turn with the same results. The adaptive run with the
larger budget continues the other, whatever the budgets. A strict run makes the attempt of an
adaptive one whose budget is a single attempt or none. -/
theorem establish_budget (x : Executor σ) (y : Executor τ) (registry : Registry) (excerpt : Nat)
    (d : Detection) (results : Nat → PipelineRun Float) (s : σ) (t : τ) :
    (∀ budget budget', budget ≤ budget' →
      GivenInTurn results (calls x registry excerpt d (.adaptive budget) false s) →
      GivenInTurn results (calls y registry excerpt d (.adaptive budget') false t) →
      ∃ b b', (establish x registry excerpt d (.adaptive budget) false s).outcome = .ok b ∧
        (establish y registry excerpt d (.adaptive budget') false t).outcome = .ok b' ∧
        b'.Continues b) ∧
    (∀ settings : Settings, settings.mode = .strict → ∀ budget, budget ≤ 1 →
      GivenInTurn results (calls x registry excerpt d settings false s) →
      GivenInTurn results (calls y registry excerpt d (.adaptive budget) false t) →
      ∃ b b', (establish x registry excerpt d settings false s).outcome = .ok b ∧
        (establish y registry excerpt d (.adaptive budget) false t).outcome = .ok b' ∧
        SameAttempt b b') := by
  refine ⟨?_, ?_⟩
  · intro budget budget' hle hx hy
    exact ⟨_, _, establish_eq_replay x registry excerpt d _ s hx,
      establish_eq_replay y registry excerpt d _ t hy,
      replay_continues _ d excerpt _ results (adaptive_effectiveAttempts_mono hle)⟩
  · intro settings hm budget hle hx hy
    have hb := establish_eq_replay x registry excerpt d settings s hx
    have hb' := establish_eq_replay y registry excerpt d (.adaptive budget) t hy
    have hone : (Settings.adaptive budget).effectiveAttempts - 1 = 0 := by
      simp only [Settings.adaptive, Settings.clamped, Settings.effectiveAttempts, attemptCap]
      omega
    rw [hm] at hb
    rw [hone] at hb'
    exact ⟨_, _, hb, hb', replay_sameAttempt _ d excerpt _ results _⟩

/-- Tests that run out of memory first and pass from then on. With a budget of none a single
attempt is made, as in strict mode, with one of two a second one. -/
theorem establish_budget_second :
    let failing : PipelineRun Float :=
      .ofSteps [⟨"test", "npm test", 1, 0, "", "out of memory", false⟩] none
    let passing : PipelineRun Float := .ofSteps [⟨"test", "npm test", 0, 0, "", "", false⟩] none
    let results := fun n => if n = 0 then failing else passing
    let x : Executor Nat := .inTurn results
    let d : Detection :=
      { language := .node, commands := { PerStep.const none with test := some "npm test" } }
    let outcome (settings : Settings) := (establish x .standard 4000 d settings false 0).outcome
    let log (settings : Settings) := calls x .standard 4000 d settings false 0
    let brief (b : Baseline) := (b.plans.length, b.failures.map (·.reason), b.stopReason)
    (GivenInTurn results (log (.adaptive 0)) ∧ GivenInTurn results (log (.adaptive 2)) ∧
      GivenInTurn results (log .strict)) ∧
    (∃ b b', outcome (.adaptive 0) = .ok b ∧ outcome (.adaptive 2) = .ok b' ∧ b'.Continues b ∧
      brief b = (1, [.concurrencyOom], .attemptsExhausted) ∧
      brief b' = (2, [.concurrencyOom], .succeeded)) ∧
    (∃ b b', outcome .strict = .ok b ∧ outcome (.adaptive 0) = .ok b' ∧ SameAttempt b b' ∧
      brief b = (1, [.concurrencyOom], .singleAttempt)) := by
  intro failing passing results x d outcome log brief
  have hlog (settings : Settings) : GivenInTurn results (log settings) :=
    givenInTurn_inTurn results .standard 4000 d settings false
  have hbrief (settings : Settings) {b : Baseline} (hb : outcome settings = .ok b) :
      some (brief b) = (outcome settings).toOption.map brief := by
    rw [hb]
    rfl
  obtain ⟨hlarger, hstrict⟩ := establish_budget x x .standard 4000 d results 0 0
  refine ⟨⟨hlog _, hlog _, hlog _⟩, ?_, ?_⟩
  · obtain ⟨b, b', hb, hb', hc⟩ := hlarger 0 2 (by decide) (hlog _) (hlog _)
    refine ⟨b, b', hb, hb', hc, Option.some.inj ?_, Option.some.inj ?_⟩
    · exact (hbrief _ hb).trans (by decide +kernel)
    · exact (hbrief _ hb').trans (by decide +kernel)
  · obtain ⟨b, b', hb, hb', hc⟩ := hstrict .strict rfl 0 (by decide) (hlog _) (hlog _)
    refine ⟨b, b', hb, hb', hc, Option.some.inj ?_⟩
    exact (hbrief _ hb).trans (by decide +kernel)

end Baseline

end PatchTrial
