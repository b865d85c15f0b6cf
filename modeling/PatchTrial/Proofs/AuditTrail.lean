import Mathlib.Data.List.Forall2
import PatchTrial.Proofs.Revision
import PatchTrial.Run
import PatchTrial.Script

/-!
# The log of a run mirrors its report

`Course.Logs` relates the events of a course to its result. The events of a run that gives a
report are a block for each plan of the baseline and a block for each evaluation, between the
start and the finish of the run, and the report determines all of them but the durations. This is
said of executors that note no events of their own.
-/
namespace PatchTrial

variable {σ α β : Type}

/-- An executor that notes no events. -/
def Executor.Silent (x : Executor σ) : Prop :=
  ∀ plan steps cancelled s, (x.runSteps plan steps cancelled s).events = []

theorem Script.executor_silent : Script.executor.Silent := by
  intro plan steps cancelled s
  dsimp only [Script.executor]
  split <;> rfl

namespace Journal

@[simp] theorem events_event (e : Event) (j : Journal) :
    events (.event e :: j) = e :: events j := rfl

@[simp] theorem events_ran (plan : Plan) (steps : List Step) (j : Journal) :
    events (.ran plan steps :: j) = events j := rfl

@[simp] theorem events_patched (direction : PatchDirection) (diff : String) (j : Journal) :
    events (.patched direction diff :: j) = events j := rfl

@[simp] theorem events_nil : events [] = [] := rfl

end Journal

namespace Course

/-- If a course gave a result, `P` relates it to the events noted on the way. -/
def Logs (P : α → List Event → Prop) (c : Course σ α) : Prop :=
  ∀ a, c.outcome = .ok a → P a (Journal.events c.journal)

namespace Logs

variable {P : α → List Event → Prop} {c : Course σ α}

theorem done {a : α} {cancelled : Bool} {s : σ} (h : P a []) :
    (Course.done a cancelled s).Logs P := by
  rintro _ ⟨⟩
  exact h

theorem since {before : Journal} (h : c.Logs fun a es => P a (Journal.events before ++ es)) :
    (c.since before).Logs P := by
  intro a ha
  rw [since_journal, Journal.events_append]
  exact h a ha

theorem log {e : Event} (h : c.Logs fun a es => P a (es ++ [e])) : (c.log e).Logs P := by
  intro a ha
  rw [Course.log, Journal.events_append]
  exact h a ha

theorem map {Q : β → List Event → Prop} {f : α → β} (h : c.Logs fun a es => Q (f a) es) :
    (c.map f).Logs Q := by
  intro b hb
  obtain ⟨a, ha, rfl⟩ := of_map_ok hb
  exact h a ha

theorem andThen {Q : β → List Event → Prop} {next : α → Bool → σ → Course σ β} (h : c.Logs P)
    (hn : ∀ a es cancelled s, P a es →
      (next a cancelled s).Logs fun b more => Q b (es ++ more)) :
    (c.andThen next).Logs Q := by
  intro b hb
  obtain ⟨a, ha, hb⟩ := of_andThen_ok hb
  rw [andThen_of_ok ha, since_journal, Journal.events_append]
  exact hn a _ _ _ (h a ha) b hb

end Logs

end Course

theorem Executor.Silent.run {x : Executor σ} (hx : x.Silent) (plan : Plan) (steps : List Step)
    (cancelled : Bool) (s : σ) : Journal.events (x.run plan steps cancelled s).journal = [] := by
  simp only [Executor.run, hx plan steps cancelled s, List.map_nil, Journal.events_ran,
    Journal.events_nil]

namespace Baseline

/-- The events of an attempt that was made for a reason, took so long and met this failure or
none. -/
def attemptEvents (reason : String) (plan : Plan) (durationMs : Nat) (failure : Option Failure) :
    List Event :=
  [.attemptStarted plan.attempt plan.mode reason,
    .attemptFinished plan.attempt failure.isNone durationMs
      (failure.map fun f => (f.step, f.reason))]

/-- A block of events for each attempt of a baseline. The first attempt was made for the reason
`first`, each later one for the reason of the failure before it. -/
structure Logged (first : String) (b : Baseline) (blocks : List (List Event)) : Prop where
  length_eq : blocks.length = b.plans.length
  block_eq : ∀ (i : Nat) (p : Plan), b.plans[i]? = some p → ∃ reason durationMs,
    (first :: b.failures.map (·.reason.name))[i]? = some reason ∧
    blocks[i]? = some (attemptEvents reason p durationMs b.failures[i]?)
  succeeded_iff : b.run.succeeded = true ↔ b.failures.length < b.plans.length

namespace Logged

variable {first : String} {run : PipelineRun Float} {plan : Plan} {reason : StopReason}

theorem none (hs : run.succeeded = false) : Logged first ⟨run, [], [], reason⟩ [] where
  length_eq := rfl
  block_eq := by rintro i p ⟨⟩
  succeeded_iff := by simp [hs]

theorem passed (hs : run.succeeded = true) (durationMs : Nat) :
    Logged first ⟨run, [plan], [], reason⟩ [attemptEvents first plan durationMs .none] where
  length_eq := rfl
  block_eq := by
    intro i p hp
    obtain ⟨rfl, rfl⟩ : i = 0 ∧ plan = p := by simpa [List.getElem?_singleton] using hp
    exact ⟨first, durationMs, rfl, rfl⟩
  succeeded_iff := by simp [hs]

theorem failed (hs : run.succeeded = false) (durationMs : Nat) (f : Failure) :
    Logged first ⟨run, [plan], [f], reason⟩ [attemptEvents first plan durationMs f] where
  length_eq := rfl
  block_eq := by
    intro i p hp
    obtain ⟨rfl, rfl⟩ : i = 0 ∧ plan = p := by simpa [List.getElem?_singleton] using hp
    exact ⟨first, durationMs, rfl, rfl⟩
  succeeded_iff := by simp [hs]

/-- The attempt after a failure is made for its reason. -/
theorem afterFailure {b : Baseline} {blocks : List (List Event)} {f : Failure}
    (h : Logged f.reason.name b blocks) (durationMs : Nat) :
    Logged first (b.afterFailure plan f) (attemptEvents first plan durationMs f :: blocks) where
  length_eq := congrArg (· + 1) h.length_eq
  block_eq := by
    intro i p hp
    cases i with
    | zero =>
      cases hp
      exact ⟨first, durationMs, rfl, rfl⟩
    | succ i => exact h.block_eq i p hp
  succeeded_iff := h.succeeded_iff.trans Nat.succ_lt_succ_iff.symm

end Logged

variable {x : Executor σ} {eco : Ecosystem} {d : Detection} {mode : Mode} {excerpt : Nat}

/-- A revised plan states the reason of the failure that it answers. -/
theorem ofPlan_revisedPlan? {p q : Plan} {f : Failure} (h : eco.revisedPlan? d p f = some q) :
    Event.ofPlan q = .attemptStarted q.attempt q.mode f.reason.name := by
  obtain ⟨remedy, hnotes⟩ := (Ecosystem.revises_of_revisedPlan? h).metadata_eq
  rw [Event.ofPlan, hnotes]
  rfl

theorem attempt_logs (hx : x.Silent) (plan : Plan) (s : σ) :
    (attempt x excerpt plan s).Logs fun run es => es = [.ofPlan plan,
      .attemptFinished plan.attempt run.succeeded run.totalMs
        (if run.succeeded then none
          else some ((Failure.classify excerpt run).step,
            (Failure.classify excerpt run).reason))] := by
  intro run hrun
  unfold attempt at hrun ⊢
  dsimp only at hrun ⊢
  split at hrun
  next p hp => cases hp.symm.trans hrun
  next run' hrun' =>
  cases hrun'.symm.trans hrun
  simp only [Course.log, Course.since_journal, Journal.events_append, hx.run]
  rfl

theorem attemptThen_logs (hx : x.Silent) {again? : Option (Plan → σ → Course σ Baseline)}
    {first : String} {plan : Plan}
    (hplan : Event.ofPlan plan = .attemptStarted plan.attempt plan.mode first)
    (hagain : ∀ again, again? = some again → ∀ f next, eco.revisedPlan? d plan f = some next →
      ∀ s, (again next s).Logs fun b es => ∃ blocks, es = blocks.flatten ∧
        Logged f.reason.name b blocks) (s : σ) :
    (attemptThen x eco d mode excerpt again? plan s).Logs fun b es => ∃ blocks,
      es = blocks.flatten ∧ Logged first b blocks := by
  refine (attempt_logs hx plan s).andThen ?_
  rintro run _ cancelled s rfl
  rw [hplan]
  dsimp only
  split
  next hs =>
    refine .done ⟨[attemptEvents first plan run.totalMs none], ?_, .passed hs _⟩
    simp only [hs, List.append_nil]
    rfl
  next hs =>
  have hs : run.succeeded = false := Bool.eq_false_iff.mpr hs
  generalize Failure.classify excerpt run = f
  have hblock : [Event.attemptStarted plan.attempt plan.mode first,
      .attemptFinished plan.attempt run.succeeded run.totalMs (some (f.step, f.reason))] =
      attemptEvents first plan run.totalMs (some f) := by
    rw [hs]
    rfl
  rw [hblock]
  have hstop (reason : StopReason) : (Course.done (⟨run, [plan], [f], reason⟩ : Baseline)
      cancelled s).Logs fun b es => ∃ blocks,
        attemptEvents first plan run.totalMs (some f) ++ es = blocks.flatten ∧
          Logged first b blocks :=
    .done ⟨[attemptEvents first plan run.totalMs (some f)], rfl, .failed hs _ f⟩
  split
  · exact hstop .cancelled
  split
  · exact hstop .singleAttempt
  cases again? with
  | none => exact hstop .attemptsExhausted
  | some again =>
    dsimp only
    split
    · exact hstop .noRemediation
    next next hn =>
    refine .map fun b hb => ?_
    obtain ⟨blocks, hes, hl⟩ := hagain again rfl f next hn s b hb
    refine ⟨attemptEvents first plan run.totalMs (some f) :: blocks, ?_, hl.afterFailure _⟩
    rw [hes, List.flatten_cons]

theorem attempts_logs (hx : x.Silent) (more : Nat) {first : String} {plan : Plan}
    (hplan : Event.ofPlan plan = .attemptStarted plan.attempt plan.mode first) (s : σ) :
    (attempts x eco d mode excerpt more plan s).Logs fun b es => ∃ blocks,
      es = blocks.flatten ∧ Logged first b blocks := by
  induction more generalizing first plan s with
  | zero =>
    refine attemptThen_logs hx hplan ?_ s
    rintro again ⟨⟩
  | succ more ih =>
    refine attemptThen_logs hx hplan ?_ s
    rintro again ⟨⟩ f next hn s
    exact ih (ofPlan_revisedPlan? hn) s

theorem establish_logs (hx : x.Silent) (registry : Registry) (settings : Settings)
    (cancelled : Bool) (s : σ) :
    (establish x registry excerpt d settings cancelled s).Logs fun b es => ∃ blocks,
      es = blocks.flatten ∧ Logged "initial" b blocks := by
  unfold establish
  dsimp only
  split
  · exact .done ⟨[], rfl, .none rfl⟩
  · exact attempts_logs hx _ rfl s

end Baseline

/-- The events about the result of a candidate: its rejection if it was rejected, and the failure
to take the patch back if the tree is left dirty. The error of the result ends with the latter. -/
def CandidateRun.Noted (id : String) (r : CandidateRun Float) (es : List Event) : Prop :=
  ∃ note, (r.treeClean = false →
      ∃ before, r.error = some (before ++ ("revert failed: " ++ note))) ∧
    es = (r.rejection.map fun rejection => .candidateRejected id rejection.message).toList ++
      (if r.treeClean then [] else [.revertFailed id note])

namespace CandidateRun

/-- Nothing is noted about a patch that was applied and taken back. -/
theorem noted_ofRun (id : String) (run : PipelineRun Float) : Noted id (.ofRun id run) [] :=
  ⟨"", by rintro ⟨⟩, rfl⟩

theorem noted_rejected (id : String) (r : Rejection) :
    Noted id (.rejected id r) [.candidateRejected id r.message] :=
  ⟨"", by rintro ⟨⟩, rfl⟩

theorem noted_leftDirty (id : String) (run : PipelineRun Float) (e : PatchError) :
    Noted id ((CandidateRun.ofRun id run).leftDirty e) [.revertFailed id e.message] := by
  refine ⟨e.message, fun _ => ?_, rfl⟩
  have hnote : s!"revert failed: {e.message}" = "revert failed: " ++ e.message := by
    simp [toString]
  simp only [leftDirty, hnote]
  split
  next text _ => exact ⟨text ++ "; ", by simp [toString, String.append_assoc]⟩
  next => exact ⟨"", by simp⟩

end CandidateRun

/-- The events about an evaluation: those about its result, and what the verdict says. -/
def Evaluation.Logged (e : Evaluation) (es : List Event) : Prop :=
  ∃ before, e.result.Noted e.candidateId before ∧
    es = before ++ [.candidateEvaluated e.candidateId e.verdict.accepted e.verdict.confidence
      e.verdict.riskScore]

namespace Trial

open CandidateRun (Noted noted_ofRun noted_rejected noted_leftDirty)

variable {x : Executor σ} {a : Applicator σ}

theorem applied_logs (hx : x.Silent) (plan : Plan) (c : Candidate) (cancelled : Bool) (s : σ) :
    (applied x a plan c cancelled s).Logs (Noted c.id) := by
  have he (j : Journal) : Journal.events ((x.run plan Step.revalidated cancelled s).journal ++ j) =
      Journal.events j := by rw [Journal.events_append, hx.run, List.nil_append]
  unfold applied
  dsimp only
  split
  · rintro r ⟨⟩
  · rintro r ⟨⟩
  · rintro r ⟨⟩
    dsimp only
    rw [he]
    exact noted_ofRun c.id _
  · rintro r ⟨⟩
    dsimp only
    rw [List.append_assoc, he]
    exact noted_leftDirty c.id _ _

theorem validate_logs (hx : x.Silent) (policy : GatePolicy) (plan : Option Plan) (c : Candidate)
    (cancelled : Bool) (s : σ) : (validate x a policy plan c cancelled s).Logs (Noted c.id) := by
  unfold validate
  split
  next v _ => exact .since (.done (noted_rejected c.id (.constraint v)))
  split
  · exact .done (noted_ofRun c.id _)
  dsimp only
  split
  next e _ => exact .since (.since (.done (noted_rejected c.id e.rejection)))
  · exact .since (applied_logs hx _ c _ _)

end Trial

namespace Run

variable {x : Executor σ} {a : Applicator σ}

theorem tryAll_logs (hx : x.Silent) (config : Config) (baseline : Baseline) (cs : List Candidate)
    (treeDirty cancelled : Bool) (s : σ) :
    (tryAll x a config baseline cs treeDirty cancelled s).Logs fun t es => ∃ blocks,
      es = blocks.flatten ∧ List.Forall₂ Evaluation.Logged t.evaluations blocks := by
  induction cs generalizing treeDirty cancelled s with
  | nil => exact .done ⟨[], rfl, .nil⟩
  | cons c cs ih =>
    unfold tryAll
    split
    · exact .done ⟨[], rfl, .nil⟩
    refine (Trial.validate_logs hx _ _ c cancelled s).andThen ?_
    intro r es cancelled s hr
    refine .since (.map fun t ht => ?_)
    obtain ⟨blocks, hes, hl⟩ := ih (!r.treeClean) cancelled s t ht
    refine ⟨_ :: blocks, ?_, .cons ⟨es, hr, rfl⟩ hl⟩
    rw [hes, List.flatten_cons, List.append_assoc]
    rfl

/-- The events of a run that gave a report, between its start and its finish. -/
structure Logged (r : Report) (attempts evaluations : List (List Event)) : Prop where
  attempts : r.strategy.Logged "initial" attempts
  evaluations : List.Forall₂ Evaluation.Logged r.evaluations evaluations

theorem withApplicator_logs (hx : x.Silent) (config : Config) (registry : Registry)
    (stamp : RunStamp) (d : Detection) (settings : Settings) (cs : List Candidate)
    (cancelled : Bool) (s : σ) :
    (withApplicator x a config registry stamp d settings cs cancelled s).Logs fun r es =>
      (r.runId = stamp.runId ∧ r.language = d.language) ∧ ∃ attempts evaluations,
        es = attempts.flatten ++ (evaluations.flatten ++
          [.runFinished r.runId stamp.elapsedMs r.accepted.length r.cancelled]) ∧
        Logged r attempts evaluations := by
  refine (Baseline.establish_logs hx registry settings cancelled s).andThen ?_
  rintro b _ cancelled s ⟨attempts, rfl, hb⟩
  have htrials : (if b.run.succeeded then tryAll x a config b cs false cancelled s
      else .done (.skip cs false) cancelled s).Logs fun t es => ∃ blocks,
        es = blocks.flatten ∧ List.Forall₂ Evaluation.Logged t.evaluations blocks := by
    split
    · exact tryAll_logs hx config b cs false cancelled s
    · exact .done ⟨[], rfl, .nil⟩
  refine htrials.andThen ?_
  rintro t _ cancelled s ⟨evaluations, rfl, ht⟩
  exact .log (.done ⟨⟨rfl, rfl⟩, attempts, evaluations, rfl, hb, ht⟩)

/-- The events of a run that gives a report are those that the report tells of, on a host whose
executor notes none: the start with the number of candidates, a block for each attempt at the
baseline, a block for each evaluation and the finish with the number of accepted evaluations. -/
theorem execute_logged (host : Host σ) (hx : host.executor.Silent) (config : Config)
    (registry : Registry) (stamp : RunStamp) (d : Detection) (settings : Settings)
    (cs : List Candidate) (cancelled : Bool) (s : σ) {r : Report}
    (hr : (execute host config registry stamp d settings cs cancelled s).outcome = .ok (.ok r)) :
    ∃ attempts evaluations, Logged r attempts evaluations ∧
      Journal.events (execute host config registry stamp d settings cs cancelled s).journal =
        [.runStarted r.runId r.language.name cs.length] ++ attempts.flatten ++
          evaluations.flatten ++
          [.runFinished r.runId stamp.elapsedMs
            (r.evaluations.filter (·.verdict.accepted)).length r.cancelled] := by
  unfold execute at hr ⊢
  rcases hfound : host.applicator? s with ⟨_ | a, s'⟩
  · simp only [hfound] at hr
    cases hr
  simp only [hfound] at hr ⊢
  obtain ⟨r', hr', hr⟩ := Course.of_map_ok hr
  cases hr
  obtain ⟨⟨hid, hlang⟩, attempts, evaluations, hes, hl⟩ := withApplicator_logs hx config registry
    stamp d settings cs cancelled s' r hr'
  refine ⟨attempts, evaluations, hl, ?_⟩
  rw [Course.since_journal, Journal.events_append, Course.map_journal, hes, hid, hlang]
  simp only [List.append_assoc]
  rfl

/-- A baseline that runs out of memory at first, then a candidate that the gate turns away, one
that is taken back and one that leaves the tree dirty. The first is refused, the others are
accepted. -/
theorem execute_logged_dirty :
    let stepRun (exitCode : Int32) (durationMs : UInt64) (stderr : String) : PipelineRun Float :=
      .ofSteps [⟨"test", "npm test", exitCode, durationMs, "", stderr, false⟩] none
    let script : Script :=
      { runs := [stepRun 1 30 "out of memory", stepRun 0 20 "", stepRun 0 20 "",
          stepRun 0 20 ""].map (⟨false, .ok ·⟩),
        reverts := [none, some .emptyDiff] }
    let d : Detection :=
      { language := .node, commands := { PerStep.const none with test := some "npm test" } }
    let cs : List Candidate :=
      [⟨{ id := "gated", riskLevel := .high }, ⟨"+x", ["package.json"], 1⟩⟩,
        ⟨{ id := "clean", riskLevel := .low }, .ofDiff "+x"⟩,
        ⟨{ id := "dirty", riskScore := some 0.25 }, .ofDiff "+x"⟩]
    let stamp : RunStamp := ⟨"run", default, default, 60⟩
    let c := execute Script.host {} .standard stamp d .default cs false script
    Script.host.executor.Silent ∧
    ∃ r attempts evaluations, c.outcome = .ok (.ok r) ∧ Logged r attempts evaluations ∧
      Journal.events c.journal =
        [.runStarted r.runId r.language.name 3] ++ attempts.flatten ++ evaluations.flatten ++
          [.runFinished r.runId 60 (r.evaluations.filter (·.verdict.accepted)).length
            r.cancelled] ∧
      r.evaluations.map (fun e => (e.result.rejection.isSome, e.result.treeClean,
        e.verdict.accepted)) =
          [(true, true, false), (false, true, true), (false, false, true)] ∧
      Journal.events c.journal =
        [.runStarted "run" "node" 3,
          .attemptStarted 1 .strict "initial",
          .attemptFinished 1 false 30 (some ("test", .concurrencyOom)),
          .attemptStarted 2 .adaptive "concurrency_oom",
          .attemptFinished 2 true 20 none,
          .candidateRejected "gated" ("constraint forbidden_file violated: " ++
            "package.json matches forbidden pattern 'package.json'"),
          .candidateEvaluated "gated" false .low 0.8,
          .candidateEvaluated "clean" true .low 0.2,
          .revertFailed "dirty" "refusing to revert an empty diff",
          .candidateEvaluated "dirty" true .low 0.25,
          .runFinished "run" 60 2 false] := by
  intro stepRun script d cs stamp c
  have hsome : (c.outcome.toOption.bind Except.toOption).map (fun r =>
      r.evaluations.map fun e => (e.result.rejection.isSome, e.result.treeClean,
        e.verdict.accepted)) =
          some [(true, true, false), (false, true, true), (false, false, true)] := by
    decide +kernel
  obtain ⟨r, hr, hmarks⟩ := Option.map_eq_some_iff.mp hsome
  have hr : c.outcome = .ok (.ok r) := reported_of_toOption hr
  obtain ⟨attempts, evaluations, hl, hes⟩ := execute_logged Script.host Script.executor_silent {}
    .standard stamp d .default cs false script hr
  exact ⟨Script.executor_silent, r, attempts, evaluations, hr, hl, hes, hmarks, by decide +kernel⟩

end Run

end PatchTrial
