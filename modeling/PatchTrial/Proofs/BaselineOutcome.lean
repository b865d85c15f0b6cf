import PatchTrial.Proofs.Attempts
import PatchTrial.Proofs.Revision

/-!
# What a baseline tells of its attempts

`Accounted` relates a baseline to what the executor answered: the plans that were run, how each
came from the one before it, the failures that were met and why no further attempt was made. It
holds of every baseline that is established on an executor that gives results. That the attempts
are counted down comes to the same as comparing the number of each plan with the budget.

Main statements: `Baseline.establish_accounted` and `Baseline.establish_eq_upTo`.
-/
namespace PatchTrial

variable {σ : Type}

/-- An executor that gives a result whenever steps are run. -/
def Executor.Answers (x : Executor σ) : Prop :=
  ∀ plan steps cancelled s, ∃ run, (x.runSteps plan steps cancelled s).outcome = .ok run

namespace Baseline

/-- What an attempt was answered, and whether the run was cancelled meanwhile. -/
abbrev Answer := PipelineRun Float × Bool

/-- The call of an attempt with its answer. -/
def attemptCall (plan : Plan) (a : Answer) : Call := .ran plan Step.all (.ok a.1) a.2

/-- With an answer for each plan, the calls of attempts run all steps by one plan after the
other. -/
theorem map_entry_zipWith_attemptCall {plans : List Plan} {answers : List Answer}
    (h : answers.length = plans.length) :
    (List.zipWith attemptCall plans answers).map Call.entry = plans.map (.ran · Step.all) := by
  calc (List.zipWith attemptCall plans answers).map Call.entry
    _ = ((plans.zip answers).map Prod.fst).map (.ran · Step.all) := by
        rw [← List.map_uncurry_zip_eq_zipWith, List.map_map, List.map_map]
        rfl
    _ = plans.map (.ran · Step.all) := by rw [List.map_fst_zip (Nat.le_of_eq h.symm)]

/-- What stands in a baseline for which no attempt was made. -/
def unattempted : PipelineRun Float := .interrupted [] "cancelled before attempt 1"

/-- Why attempts ended whose last run was `run`, if `count` of at most `budget` were made. -/
def reasonToStop (mode : Mode) (budget : Nat) (cancelled : Bool) (count : Nat)
    (run : PipelineRun Float) : StopReason :=
  if run.succeeded then .succeeded
  else if cancelled then .cancelled
  else if mode = .strict then .singleAttempt
  else if count = budget then .attemptsExhausted
  else .noRemediation

/-- A baseline tells what became of these answers, given whether the run is cancelled by now. -/
structure Told (eco : Ecosystem) (d : Detection) (mode : Mode) (excerpt budget : Nat)
    (answers : List Answer) (cancelled : Bool) (b : Baseline) : Prop where
  length_eq : answers.length = b.plans.length
  length_le : b.plans.length ≤ budget
  run_eq : b.run = (answers.getLast?.map Prod.fst).getD unattempted
  revised : ∀ i p q, b.plans[i]? = some p → b.plans[i + 1]? = some q →
    ∃ f, b.failures[i]? = some f ∧ eco.revisedPlan? d p f = some q
  failures_eq : b.failures =
    ((answers.map Prod.fst).filter (!·.succeeded)).map (Failure.classify excerpt)
  stopReason_eq : b.stopReason = reasonToStop mode budget cancelled b.plans.length b.run
  refused : b.stopReason = .noRemediation → ∃ p f, b.plans.getLast? = some p ∧
    b.failures.getLast? = some f ∧ eco.revisedPlan? d p f = none

section Attempts

variable {eco : Ecosystem} {d : Detection} {mode : Mode} {excerpt more : Nat} {plan : Plan}
  {made : List Call} {outcome : Except Panic Baseline} {b : Baseline} {k : Bool}

theorem Stops.stopReason_eq {failure : Failure} {reason : StopReason} {run : PipelineRun Float}
    (hs : run.succeeded = false) (h : Stops eco d mode (decide (0 < more)) plan failure k reason) :
    reason = reasonToStop mode (more + 1) k 1 run := by
  cases h with
  | cancelled hk => simp [reasonToStop, hs, hk]
  | singleAttempt hk hm => simp [reasonToStop, hs, hk, hm]
  | attemptsExhausted hk hm ha =>
    have hmore : more = 0 := by simpa using ha
    simp [reasonToStop, hs, hk, hm, hmore]
  | noRemediation hk hm ha hn =>
    have hmore : more ≠ 0 := by simpa [Nat.pos_iff_ne_zero] using ha
    simp [reasonToStop, hs, hk, hm, hmore]

/-- A single attempt. -/
theorem told_once {run : PipelineRun Float} {failures : List Failure} {reason : StopReason}
    (hf : failures = ([run].filter (!·.succeeded)).map (Failure.classify excerpt))
    (hr : reason = reasonToStop mode (more + 1) k 1 run)
    (hn : reason = .noRemediation →
      ∃ f, failures.getLast? = some f ∧ eco.revisedPlan? d plan f = none) :
    Told eco d mode excerpt (more + 1) [(run, k)] k ⟨run, [plan], failures, reason⟩ where
  length_eq := rfl
  length_le := Nat.le_add_left 1 more
  run_eq := rfl
  revised := by
    intro i p q _ hq
    cases hq
  failures_eq := hf
  stopReason_eq := hr
  refused := by
    intro hreason
    obtain ⟨f, hlast, hnone⟩ := hn hreason
    exact ⟨plan, f, rfl, hlast, hnone⟩

/-- One more attempt before the others, which failed and was answered by the plan of the next. -/
theorem Told.retried {run : PipelineRun Float} {next : Plan} {answers : List Answer}
    {budget : Nat} (ht : Told eco d mode excerpt budget answers k b)
    (hhead : b.plans.head? = some next) (hs : run.succeeded = false)
    (hn : eco.revisedPlan? d plan (Failure.classify excerpt run) = some next) :
    Told eco d mode excerpt (budget + 1) ((run, false) :: answers) k
      (b.afterFailure plan (Failure.classify excerpt run)) := by
  obtain ⟨plans, hplans⟩ : ∃ plans, b.plans = next :: plans := List.head?_eq_some_iff.mp hhead
  obtain ⟨a, answers, rfl⟩ : ∃ a rest, answers = a :: rest := by
    refine List.exists_cons_of_length_pos ?_
    rw [ht.length_eq, hplans]
    exact Nat.succ_pos _
  refine ⟨congrArg (· + 1) ht.length_eq, Nat.succ_le_succ ht.length_le, ?_, ?_, ?_, ?_, ?_⟩
  · rw [List.getLast?_cons_cons]
    exact ht.run_eq
  · intro i p q hp hq
    cases i with
    | zero =>
      simp only [afterFailure, hplans, List.getElem?_cons_zero, List.getElem?_cons_succ,
        Option.some.injEq] at hp hq ⊢
      subst hp hq
      exact ⟨_, rfl, hn⟩
    | succ i => exact ht.revised i p q hp hq
  · simp only [afterFailure, ht.failures_eq, List.map_cons, List.filter_cons, hs, Bool.not_false,
      if_true]
  · rw [show (b.afterFailure plan _).stopReason = b.stopReason from rfl, ht.stopReason_eq]
    simp [reasonToStop, afterFailure]
  · intro hr
    obtain ⟨p, f, hp, hf, hnone⟩ := ht.refused hr
    refine ⟨p, f, ?_, ?_, hnone⟩
    · rw [afterFailure, List.getLast?_cons, hp, Option.getD_some]
    · rw [afterFailure, List.getLast?_cons, hf, Option.getD_some]

/-- The answers to a chain of attempts, and what its baseline tells of them. -/
theorem Attempts.told (h : Attempts eco d mode excerpt more plan made outcome k)
    (ho : outcome = .ok b) :
    b.plans.head? = some plan ∧ ∃ answers, made = List.zipWith attemptCall b.plans answers ∧
      Told eco d mode excerpt (more + 1) answers k b := by
  induction h generalizing b with
  | panicked more plan p k => cases ho
  | @succeeded more plan run k hs =>
    cases ho
    refine ⟨rfl, [(run, k)], rfl, told_once ?_ ?_ ?_⟩
    · simp [hs]
    · simp [reasonToStop, hs]
    · rintro ⟨⟩
  | @stopped more plan run k reason hs hr =>
    cases ho
    refine ⟨rfl, [(run, k)], rfl, told_once ?_ (hr.stopReason_eq hs) ?_⟩
    · simp [hs]
    · rintro rfl
      cases hr with
      | noRemediation hk hm ha hn => exact ⟨_, rfl, hn⟩
  | @retried more plan run next made outcome k hs hm hn rest ih =>
    cases outcome with
    | error p => cases ho
    | ok b' =>
    cases ho
    obtain ⟨hhead, answers, rfl, ht⟩ := ih rfl
    exact ⟨rfl, (run, false) :: answers, rfl, ht.retried hhead hs hn⟩

/-- Plans that revise each other are numbered in order. -/
theorem Told.attempt_eq {answers : List Answer} {budget : Nat}
    (ht : Told eco d mode excerpt budget answers k b)
    (hfirst : ∀ p, b.plans[0]? = some p → p.attempt = 1) :
    ∀ i p, b.plans[i]? = some p → p.attempt = UInt32.ofNat (i + 1) := by
  intro i
  induction i with
  | zero => exact hfirst
  | succ i ih =>
    intro q hq
    have hi : i < b.plans.length := by
      have h := (List.getElem?_eq_some_iff.mp hq).1
      omega
    have hp := List.getElem?_eq_getElem hi
    obtain ⟨f, -, hrev⟩ := ht.revised i _ q hp hq
    rw [(Ecosystem.revises_of_revisedPlan? hrev).attempt_eq, ih _ hp, ← UInt32.ofNat_one,
      ← UInt32.ofNat_add]

end Attempts

/-- What a baseline tells that was established for a detection by these settings, given whether
the run was cancelled beforehand and whether it is by now. -/
structure Accounted (eco : Ecosystem) (d : Detection) (settings : Settings) (excerpt : Nat)
    (beforehand : Bool) (answers : List Answer) (cancelled : Bool) (b : Baseline) : Prop extends
    Told eco d settings.mode excerpt settings.effectiveAttempts answers cancelled b where
  plans_eq_nil_iff : b.plans = [] ↔ beforehand = true
  first_eq : ∀ p, b.plans[0]? = some p → p = eco.strictPlan d
  attempt_eq : ∀ i p, b.plans[i]? = some p → p.attempt.toNat = i + 1

section Attempts

variable {eco : Ecosystem} {d : Detection} {settings : Settings} {excerpt : Nat}
  {made : List Call} {b : Baseline} {k : Bool}

/-- A run that was cancelled beforehand makes no attempt. -/
theorem accounted_of_cancelled (eco : Ecosystem) (d : Detection) (settings : Settings)
    (excerpt : Nat) :
    Accounted eco d settings excerpt true [] true ⟨unattempted, [], [], .cancelled⟩ where
  length_eq := rfl
  length_le := Nat.zero_le _
  run_eq := rfl
  revised := by
    intro i p q hp _
    cases hp
  failures_eq := rfl
  stopReason_eq := rfl
  refused := by rintro ⟨⟩
  plans_eq_nil_iff := by simp
  first_eq := by
    intro p hp
    cases hp
  attempt_eq := by
    intro i p hp
    cases hp

theorem Attempts.accounted
    (h : Attempts eco d settings.mode excerpt (settings.effectiveAttempts - 1) (eco.strictPlan d)
      made (.ok b) k) :
    ∃ answers, made = List.zipWith attemptCall b.plans answers ∧
      Accounted eco d settings excerpt false answers k b := by
  obtain ⟨hhead, answers, hmade, ht⟩ := h.told rfl
  rw [Nat.sub_add_cancel settings.one_le_effectiveAttempts] at ht
  have hfirst : ∀ p, b.plans[0]? = some p → p = eco.strictPlan d := by
    intro p hp
    rw [← List.head?_eq_getElem?, hhead, Option.some.injEq] at hp
    exact hp.symm
  refine ⟨answers, hmade, ht, ?_, hfirst, ?_⟩
  · refine iff_of_false ?_ Bool.false_ne_true
    intro hnil
    rw [hnil] at hhead
    cases hhead
  · intro i p hp
    rw [ht.attempt_eq (fun p hp => by rw [hfirst p hp]; rfl) i p hp, UInt32.toNat_ofNat']
    have hi := (List.getElem?_eq_some_iff.mp hp).1
    have hle := ht.length_le
    have hcap := settings.effectiveAttempts_le
    rw [attemptCap] at hcap
    exact Nat.mod_eq_of_lt (by omega)

end Attempts

/-! ### The budget -/

section Budget

variable {x : Executor σ} {eco : Ecosystem} {d : Detection} {mode : Mode} {excerpt : Nat}

/-- Attempts from a plan on, until one by a plan whose number reaches the budget. -/
def attemptsUpTo (x : Executor σ) (eco : Ecosystem) (d : Detection) (mode : Mode)
    (excerpt budget : Nat) : (fuel : Nat) → Plan → σ → Course σ Baseline
  | 0, plan, s => attemptThen x eco d mode excerpt none plan s
  | fuel + 1, plan, s =>
    attemptThen x eco d mode excerpt
      (if budget ≤ plan.attempt.toNat then none
       else some (attemptsUpTo x eco d mode excerpt budget fuel)) plan s

/-- Only what is done of the revisions of a plan matters. -/
theorem attemptThen_congr {again again' : Plan → σ → Course σ Baseline} {plan : Plan}
    (h : ∀ f next, eco.revisedPlan? d plan f = some next → ∀ s, again next s = again' next s)
    (s : σ) :
    attemptThen x eco d mode excerpt (some again) plan s =
      attemptThen x eco d mode excerpt (some again') plan s := by
  unfold attemptThen
  congr 1
  funext run cancelled s
  dsimp only
  split
  · rfl
  split
  · rfl
  split
  · rfl
  split
  · rfl
  next next hn => rw [h _ next hn]

/-- To count the attempts that are left is to compare the number of each plan with the budget. -/
theorem attempts_eq_upTo {budget more fuel : Nat} (hbudget : budget < UInt32.size)
    (hfuel : more ≤ fuel) {plan : Plan} (hplan : plan.attempt.toNat + more = budget) (s : σ) :
    attempts x eco d mode excerpt more plan s =
      attemptsUpTo x eco d mode excerpt budget fuel plan s := by
  induction more generalizing fuel plan s with
  | zero =>
    cases fuel with
    | zero => rfl
    | succ fuel => rw [attempts, attemptsUpTo, if_pos (by omega)]
  | succ more ih =>
    obtain ⟨fuel, rfl⟩ := Nat.exists_eq_add_of_le' (Nat.one_le_of_lt hfuel)
    rw [attempts, attemptsUpTo, if_neg (by omega)]
    refine attemptThen_congr (fun f next hnext s => ih (by omega) ?_ s) s
    rw [(Ecosystem.revises_of_revisedPlan? hnext).attempt_eq, UInt32.toNat_add, UInt32.toNat_one,
      Nat.mod_eq_of_lt (Nat.lt_of_le_of_lt (by omega) hbudget)]
    omega

/-- The attempts of a baseline end with the plan whose number reaches the budget. -/
theorem establish_eq_upTo (registry : Registry) (settings : Settings) {fuel : Nat}
    (hfuel : settings.effectiveAttempts ≤ fuel) (s : σ) :
    establish x registry excerpt d settings false s =
      attemptsUpTo x (registry.ecosystemFor d.language) d settings.mode excerpt
        settings.effectiveAttempts fuel ((registry.ecosystemFor d.language).strictPlan d) s := by
  have hone := settings.one_le_effectiveAttempts
  have hcap := settings.effectiveAttempts_le
  rw [attemptCap] at hcap
  rw [establish, if_neg Bool.false_ne_true]
  refine attempts_eq_upTo (Nat.lt_of_le_of_lt hcap (by decide)) (by omega) ?_ s
  change 1 + (settings.effectiveAttempts - 1) = settings.effectiveAttempts
  omega

end Budget

/-- The calls to establish a baseline, in order. -/
def calls (x : Executor σ) (registry : Registry) (excerpt : Nat) (d : Detection)
    (settings : Settings) (cancelled : Bool) (s : σ) : List Call :=
  (establish x.recorded registry excerpt d settings cancelled (s, [])).after.2

section Calls

variable (x : Executor σ) (registry : Registry) (excerpt : Nat) (d : Detection)
  (settings : Settings) (cancelled : Bool) (s : σ)

/-- Every baseline is established as `Established` says, and the journal tells of the calls. -/
theorem established :
    let c := establish x registry excerpt d settings cancelled s
    let log := calls x registry excerpt d settings cancelled s
    Established registry excerpt d settings cancelled log c.outcome c.cancelled ∧
      Journal.calls c.journal = log.map Call.entry := by
  dsimp only
  have hr := establish_alike x.recorded_alike registry excerpt d settings cancelled
    (t := (s, [])) rfl
  obtain ⟨made, hl, hj, he⟩ := establish_yields x registry excerpt d settings cancelled s []
  rw [List.nil_append] at hl
  rw [← hr.outcome, ← hr.cancelled, ← hr.journal, calls, hl]
  exact ⟨he, hj⟩

/-- The executor answered the calls. -/
theorem calls_answered_by_executor :
    ∀ call ∈ calls x registry excerpt d settings cancelled s, call.AnsweredBy x :=
  (establish_alike x.recorded_answered registry excerpt d settings cancelled
    (t := (s, [])) ⟨rfl, List.forall_mem_nil _⟩).after.2

/-- On an executor that gives results, there is a baseline. -/
theorem outcome_of_answers (hx : x.Answers) :
    ∃ b, (establish x registry excerpt d settings cancelled s).outcome = .ok b := by
  obtain ⟨he, -⟩ := established x registry excerpt d settings cancelled s
  have hanswered := calls_answered_by_executor x registry excerpt d settings cancelled s
  cases ho : (establish x registry excerpt d settings cancelled s).outcome with
  | ok b => exact ⟨b, rfl⟩
  | error p =>
    rw [ho] at he
    rcases he.ends with ⟨-, -, -, b, hb, -⟩ | ⟨-, quiet, plan, hends⟩
    · cases hb
    · have hlast := hanswered (.ran plan Step.all (.error p) _) (by
        rw [hends.made_eq]
        exact List.mem_append_right _ List.mem_cons_self)
      obtain ⟨k, t, hp, -⟩ := hlast
      obtain ⟨run, hrun⟩ := hx plan Step.all k t
      rw [hrun] at hp
      cases hp

end Calls

/-- A baseline is established on every executor that gives results, whenever the run is cancelled.
The steps were run once for each of its plans, the answers are told in order, and the reason to
stop is the one that applies to the last. -/
theorem establish_accounted (x : Executor σ) (hx : x.Answers) (registry : Registry) (excerpt : Nat)
    (d : Detection) (settings : Settings) (cancelled : Bool) (s : σ) :
    let c := establish x registry excerpt d settings cancelled s
    ∃ b answers, c.outcome = .ok b ∧
      calls x registry excerpt d settings cancelled s =
        List.zipWith attemptCall b.plans answers ∧
      Journal.calls c.journal = b.plans.map (.ran · Step.all) ∧
      settings.effectiveAttempts ≤ 3 ∧
      Accounted (registry.ecosystemFor d.language) d settings excerpt cancelled answers
        c.cancelled b := by
  dsimp only
  cases cancelled with
  | true =>
    have hc : establish x registry excerpt d settings true s =
        .done ⟨unattempted, [], [], .cancelled⟩ true s := by
      rw [unattempted, show "cancelled before attempt 1" = s!"cancelled before attempt {1}" from
        by decide +kernel]
      rfl
    rw [hc]
    exact ⟨_, [], rfl, rfl, rfl, settings.effectiveAttempts_le, accounted_of_cancelled _ _ _ _⟩
  | false =>
    obtain ⟨b, hb⟩ := outcome_of_answers x registry excerpt d settings false s hx
    obtain ⟨he, hj⟩ := established x registry excerpt d settings false s
    rw [hb] at he
    cases he with
    | attempted h =>
      obtain ⟨answers, hmade, ha⟩ := h.accounted
      refine ⟨b, answers, hb, hmade, ?_, settings.effectiveAttempts_le, ha⟩
      rw [hj, hmade, map_entry_zipWith_attemptCall ha.length_eq]

/-- A baseline that passes on the second attempt, after the first ran out of memory. -/
theorem establish_accounted_second :
    let failing : PipelineRun Float :=
      .ofSteps [⟨"test", "npm test", 1, 0, "", "out of memory", false⟩] none
    let passing : PipelineRun Float := .ofSteps [⟨"test", "npm test", 0, 0, "", "", false⟩] none
    let x : Executor Nat :=
      ⟨fun _ _ _ n => ⟨.ok (if n = 0 then failing else passing), [], false, n + 1⟩⟩
    let d : Detection :=
      { language := .node, commands := { PerStep.const none with test := some "npm test" } }
    ∃ b answers, (establish x .standard 4000 d .default false 0).outcome = .ok b ∧
      (b.plans.length, b.failures.map (·.reason), b.stopReason) =
        (2, [.concurrencyOom], .succeeded) ∧
      Accounted .node d .default 4000 false answers
        (establish x .standard 4000 d .default false 0).cancelled b := by
  intro failing passing x d
  have hend : (establish x .standard 4000 d .default false 0).outcome.toOption.map (fun b =>
      (b.plans.length, b.failures.map (·.reason), b.stopReason)) =
        some (2, [.concurrencyOom], .succeeded) := by decide +kernel
  obtain ⟨b, answers, hb, -, -, -, ha⟩ := establish_accounted x
    (fun _ _ _ n => ⟨if n = 0 then failing else passing, rfl⟩) .standard 4000 d .default false 0
  rw [hb] at hend
  exact ⟨b, answers, hb, Option.some.inj hend, ha⟩

end Baseline

end PatchTrial
