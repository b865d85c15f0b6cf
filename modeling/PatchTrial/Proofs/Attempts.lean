import Mathlib.Data.List.Forall2
import PatchTrial.Proofs.Recording

/-!
# The calls for a baseline

`Attempts` says which calls the attempts at a baseline make, what comes of them and when they end.
Each attempt is one call that runs all steps by its plan. During no attempt but the last is the
run cancelled, and the run of the last is that of the baseline.
-/
namespace PatchTrial

variable {σ : Type}

namespace Baseline

/-- Why no attempt follows one that failed. `again` is whether another one is left. -/
inductive Stops (eco : Ecosystem) (d : Detection) (mode : Mode) (again : Bool) (plan : Plan)
    (failure : Failure) (cancelled : Bool) : StopReason → Prop
  | cancelled (hk : cancelled = true) :
    Stops eco d mode again plan failure cancelled .cancelled
  | singleAttempt (hk : cancelled = false) (hm : mode = .strict) :
    Stops eco d mode again plan failure cancelled .singleAttempt
  | attemptsExhausted (hk : cancelled = false) (hm : mode ≠ .strict) (ha : again = false) :
    Stops eco d mode again plan failure cancelled .attemptsExhausted
  | noRemediation (hk : cancelled = false) (hm : mode ≠ .strict) (ha : again = true)
      (hn : eco.revisedPlan? d plan failure = none) :
    Stops eco d mode again plan failure cancelled .noRemediation

/-- The calls of attempts from a plan on, of which `more` may follow the first, with their outcome
and whether the run is cancelled afterwards. -/
inductive Attempts (eco : Ecosystem) (d : Detection) (mode : Mode) (excerpt : Nat) :
    Nat → Plan → List Call → Except Panic Baseline → Bool → Prop
  | panicked (more : Nat) (plan : Plan) (p : Panic) (k : Bool) :
    Attempts eco d mode excerpt more plan [.ran plan Step.all (.error p) k] (.error p) k
  | succeeded (more : Nat) (plan : Plan) {run : PipelineRun Float} (k : Bool)
      (hs : run.succeeded = true) :
    Attempts eco d mode excerpt more plan [.ran plan Step.all (.ok run) k]
      (.ok ⟨run, [plan], [], .succeeded⟩) k
  | stopped (more : Nat) (plan : Plan) {run : PipelineRun Float} (k : Bool) {reason : StopReason}
      (hs : run.succeeded = false)
      (hr : Stops eco d mode (decide (0 < more)) plan (Failure.classify excerpt run) k reason) :
    Attempts eco d mode excerpt more plan [.ran plan Step.all (.ok run) k]
      (.ok ⟨run, [plan], [Failure.classify excerpt run], reason⟩) k
  | retried (more : Nat) (plan : Plan) {run : PipelineRun Float} {next : Plan}
      {made : List Call} {outcome : Except Panic Baseline} {k : Bool}
      (hs : run.succeeded = false) (hm : mode ≠ .strict)
      (hn : eco.revisedPlan? d plan (Failure.classify excerpt run) = some next)
      (rest : Attempts eco d mode excerpt more next made outcome k) :
    Attempts eco d mode excerpt (more + 1) plan (.ran plan Step.all (.ok run) false :: made)
      (outcome.map (afterFailure plan (Failure.classify excerpt run))) k

theorem attempt_yields (x : Executor σ) (excerpt : Nat) (plan : Plan) (s : σ)
    (before : List Call) :
    (attempt x.recorded excerpt plan (s, before)).Yields before
      (fun made outcome k => made = [.ran plan Step.all outcome k]) := by
  obtain ⟨outcome, events, k, s', hr⟩ := x.recorded_run plan Step.all false s before
  have hy : ((x.recorded.run plan Step.all false (s, before)).since
      [.event (.ofPlan plan)]).Yields before
      (fun made outcome k => made = [.ran plan Step.all outcome k]) := by
    rw [hr, Bool.false_or]
    refine Course.Yields.sinceEvent _ ⟨_, rfl, ?_, rfl⟩
    rw [Journal.calls_ran, Journal.calls_map_event]
    rfl
  simp only [attempt]
  split
  · exact hy
  · exact hy.log _

/-- One attempt, and what may follow it. -/
theorem attemptThen_yields (x : Executor σ) (eco : Ecosystem) (d : Detection) (mode : Mode)
    (excerpt more : Nat)
    {again? : Option (Plan → σ × List Call → Course (σ × List Call) Baseline)}
    (hmore : again?.isSome = decide (0 < more))
    (hagain : ∀ again, again? = some again → ∀ plan s before,
      (again plan (s, before)).Yields before (Attempts eco d mode excerpt (more - 1) plan))
    (plan : Plan) (s : σ) (before : List Call) :
    (attemptThen x.recorded eco d mode excerpt again? plan (s, before)).Yields before
      (Attempts eco d mode excerpt more plan) := by
  refine (attempt_yields x excerpt plan s before).andThen ?_ ?_
  · rintro made p k rfl
    exact .panicked more plan p k
  rintro made run k s rfl
  dsimp only
  split
  next hs => exact .done (.succeeded more plan k hs)
  next hs =>
  have hs : run.succeeded = false := Bool.eq_false_iff.mpr hs
  split
  next hk => exact .done (.stopped more plan k hs (.cancelled hk))
  next hk =>
  have hk : k = false := Bool.eq_false_iff.mpr hk
  split
  next hm => exact .done (.stopped more plan k hs (.singleAttempt hk hm))
  next hm =>
  cases again? with
  | none => exact .done (.stopped more plan k hs (.attemptsExhausted hk hm hmore.symm))
  | some again =>
    dsimp only
    split
    next hn => exact .done (.stopped more plan k hs (.noRemediation hk hm hmore.symm hn))
    next next hn =>
    obtain ⟨more, rfl⟩ := Nat.exists_eq_succ_of_ne_zero
      (Nat.pos_iff_ne_zero.mp (of_decide_eq_true hmore.symm))
    subst hk
    exact (hagain again rfl next s _).map _ fun _ _ _ rest => .retried more plan hs hm hn rest

theorem attempts_yields (x : Executor σ) (eco : Ecosystem) (d : Detection) (mode : Mode)
    (excerpt more : Nat) (plan : Plan) (s : σ) (before : List Call) :
    (attempts x.recorded eco d mode excerpt more plan (s, before)).Yields before
      (Attempts eco d mode excerpt more plan) := by
  induction more generalizing plan s before with
  | zero =>
    refine attemptThen_yields x eco d mode excerpt 0 rfl ?_ plan s before
    rintro again ⟨⟩
  | succ more ih =>
    refine attemptThen_yields x eco d mode excerpt (more + 1) rfl ?_ plan s before
    rintro again ⟨⟩ plan s before
    exact ih plan s before

/-- The calls to establish a baseline, given whether the run is cancelled beforehand. -/
inductive Established (registry : Registry) (excerpt : Nat) (d : Detection) (settings : Settings) :
    Bool → List Call → Except Panic Baseline → Bool → Prop
  | cancelled (text : String) :
    Established registry excerpt d settings true []
      (.ok ⟨.interrupted [] text, [], [], .cancelled⟩) true
  | attempted {made : List Call} {outcome : Except Panic Baseline} {k : Bool}
      (h : Attempts (registry.ecosystemFor d.language) d settings.mode excerpt
        (settings.effectiveAttempts - 1) ((registry.ecosystemFor d.language).strictPlan d)
        made outcome k) :
    Established registry excerpt d settings false made outcome k

theorem establish_yields (x : Executor σ) (registry : Registry) (excerpt : Nat) (d : Detection)
    (settings : Settings) (cancelled : Bool) (s : σ) (before : List Call) :
    (establish x.recorded registry excerpt d settings cancelled (s, before)).Yields before
      (Established registry excerpt d settings cancelled) := by
  cases cancelled with
  | true => exact .done (.cancelled _)
  | false =>
    exact (attempts_yields x _ d settings.mode excerpt _ _ s before).mono fun _ _ _ => .attempted

/-- A call that ran all steps by a plan. -/
def RanAll (plan : Plan) (call : Call) : Prop :=
  ∃ outcome cancels, call = .ran plan Step.all outcome cancels

/-- The last call is the one whose run is that of the baseline. The calls before it neither blew
up nor saw the run cancelled. -/
structure EndsWith (made : List Call) (outcome : Except Panic Baseline) (k : Bool)
    (quiet : List Call) (plan : Plan) : Prop where
  made_eq : made = quiet ++ [.ran plan Step.all (outcome.map Baseline.run) k]
  quiet_ran : ∀ call ∈ quiet, ∃ plan run, call = .ran plan Step.all (.ok run) false
  final_plan : ∀ b, outcome = .ok b → b.finalPlan? = some plan

section Attempts

variable {eco : Ecosystem} {d : Detection} {mode : Mode} {excerpt more : Nat} {plan : Plan}
  {made : List Call} {outcome : Except Panic Baseline} {k : Bool}

theorem Attempts.plans_ran (h : Attempts eco d mode excerpt more plan made outcome k) :
    ∃ plans, List.Forall₂ RanAll plans made ∧
      ∀ b, outcome = .ok b → b.plans = plans := by
  induction h with
  | panicked more plan p k =>
    refine ⟨[plan], .cons ⟨_, _, rfl⟩ .nil, ?_⟩
    rintro b ⟨⟩
  | succeeded more plan k hs =>
    refine ⟨[plan], .cons ⟨_, _, rfl⟩ .nil, ?_⟩
    rintro b ⟨⟩
    rfl
  | stopped more plan k hs hr =>
    refine ⟨[plan], .cons ⟨_, _, rfl⟩ .nil, ?_⟩
    rintro b ⟨⟩
    rfl
  | @retried more plan run next made outcome k hs hm hn rest ih =>
    obtain ⟨plans, hran, heq⟩ := ih
    refine ⟨plan :: plans, .cons ⟨_, _, rfl⟩ hran, ?_⟩
    intro b hb
    cases outcome with
    | error p => cases hb
    | ok b' =>
      cases hb
      exact congrArg (plan :: ·) (heq b' rfl)

theorem Attempts.ends (h : Attempts eco d mode excerpt more plan made outcome k) :
    ∃ quiet last, EndsWith made outcome k quiet last := by
  induction h with
  | panicked more plan p k =>
    refine ⟨[], plan, rfl, List.forall_mem_nil _, ?_⟩
    rintro b ⟨⟩
  | succeeded more plan k hs =>
    refine ⟨[], plan, rfl, List.forall_mem_nil _, ?_⟩
    rintro b ⟨⟩
    rfl
  | stopped more plan k hs hr =>
    refine ⟨[], plan, rfl, List.forall_mem_nil _, ?_⟩
    rintro b ⟨⟩
    rfl
  | @retried more plan run next made outcome k hs hm hn rest ih =>
    obtain ⟨quiet, last, he⟩ := ih
    refine ⟨.ran plan Step.all (.ok run) false :: quiet, last, ?_, ?_, ?_⟩
    · rw [he.made_eq, List.cons_append]
      cases outcome <;> rfl
    · intro call hc
      rcases List.mem_cons.mp hc with rfl | hc
      · exact ⟨plan, run, rfl⟩
      · exact he.quiet_ran call hc
    · intro b hb
      cases outcome with
      | error p => cases hb
      | ok b' =>
        cases hb
        have hl := he.final_plan b' rfl
        simp only [finalPlan?, afterFailure] at hl ⊢
        rw [List.getLast?_cons, hl, Option.getD_some]

end Attempts

section Established

variable {registry : Registry} {excerpt : Nat} {d : Detection} {settings : Settings}
  {cancelled k : Bool} {made : List Call} {outcome : Except Panic Baseline}

theorem Established.plans_ran
    (h : Established registry excerpt d settings cancelled made outcome k) :
    ∃ plans, List.Forall₂ RanAll plans made ∧ ∀ b, outcome = .ok b → b.plans = plans := by
  cases h with
  | cancelled text =>
    refine ⟨[], .nil, ?_⟩
    rintro b ⟨⟩
    rfl
  | attempted h => exact h.plans_ran

/-- No patch is applied or taken back for a baseline. -/
theorem Established.patched_not_mem
    (h : Established registry excerpt d settings cancelled made outcome k)
    (direction : PatchDirection) (diff : String) (answer : Except PatchError Unit) (k' : Bool) :
    Call.patched direction diff answer k' ∉ made := by
  obtain ⟨plans, hran, -⟩ := h.plans_ran
  clear h
  induction hran with
  | nil => exact List.not_mem_nil
  | cons hc _ ih =>
    obtain ⟨outcome, cancels, rfl⟩ := hc
    simp only [List.mem_cons, reduceCtorEq, false_or]
    exact ih

theorem Established.ends
    (h : Established registry excerpt d settings cancelled made outcome k) :
    (cancelled = true ∧ made = [] ∧ k = true ∧ ∃ b, outcome = .ok b ∧ b.run.succeeded = false) ∨
      cancelled = false ∧ ∃ quiet last, EndsWith made outcome k quiet last := by
  cases h with
  | cancelled text => exact Or.inl ⟨rfl, rfl, rfl, _, rfl, rfl⟩
  | attempted h => exact Or.inr ⟨rfl, h.ends⟩

/-- The run of the last call is that of the baseline. -/
theorem Established.last_ran {b : Baseline}
    (h : Established registry excerpt d settings cancelled made (.ok b) k) {call : Call}
    (hc : made.getLast? = some call) : ∃ plan, call = .ran plan Step.all (.ok b.run) k := by
  rcases h.ends with ⟨_, rfl, _⟩ | ⟨_, quiet, plan, he⟩
  · cases hc
  · rw [he.made_eq, List.getLast?_concat, Option.some.injEq] at hc
    exact ⟨plan, hc.symm⟩

/-- A baseline that succeeded has a plan, and the last call ran it. -/
theorem Established.ends_of_succeeded {b : Baseline}
    (h : Established registry excerpt d settings cancelled made (.ok b) k)
    (hs : b.run.succeeded = true) :
    cancelled = false ∧ ∃ quiet last, EndsWith made (.ok b) k quiet last := by
  rcases h.ends with ⟨_, _, _, b', hb, hf⟩ | he
  · cases hb
    rw [hs] at hf
    cases hf
  · exact he

end Established

end Baseline

end PatchTrial
