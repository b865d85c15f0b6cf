import PatchTrial.Proofs.Attempts
import PatchTrial.Proofs.Visits
import PatchTrial.Script

/-!
# The calls of a whole run, and what its report accounts for

A run makes the calls for the baseline and, if that succeeded, those for the candidates.
`Executed` puts the two together. It holds of every run on every host.

A report lists every candidate once, in order, as tried or as skipped. Candidates are tried only
after a baseline that succeeded, and none after one that left the tree dirty. Once the run is
cancelled, or the tree is dirty, the host is left alone, but for a revert that is due.
-/
namespace PatchTrial

variable {σ : Type}

namespace Run

/-- The calls of a run, given whether it is cancelled beforehand, with its outcome and whether it
is cancelled afterwards. -/
inductive Executed (config : Config) (registry : Registry) (stamp : RunStamp) (d : Detection)
    (settings : Settings) (cs : List Candidate) (cancelled : Bool) :
    List Call → Except Panic (Except TrialError Report) → Bool → Prop
  | toolMissing (e : TrialError) :
    Executed config registry stamp d settings cs cancelled [] (.ok (.error e)) cancelled
  | baselinePanicked {made : List Call} {p : Panic} {k : Bool}
      (hb : Baseline.Established registry config.excerptBytes.toNat d settings cancelled made
        (.error p) k) :
    Executed config registry stamp d settings cs cancelled made (.error p) k
  | baselineFailed {made : List Call} {b : Baseline} {k : Bool}
      (hb : Baseline.Established registry config.excerptBytes.toNat d settings cancelled made
        (.ok b) k)
      (hs : b.run.succeeded = false) :
    Executed config registry stamp d settings cs cancelled made
      (.ok (.ok (report stamp d settings b (.skip cs false) k))) k
  | tried {made : List Call} {b : Baseline} {k : Bool} {plan : Plan} {vs : List Visit}
      {outcome : Except Panic Trials} {k' : Bool}
      (hb : Baseline.Established registry config.excerptBytes.toNat d settings cancelled made
        (.ok b) k)
      (hs : b.run.succeeded = true) (hp : b.finalPlan? = some plan)
      (hv : Visits config b plan k cs vs outcome k') :
    Executed config registry stamp d settings cs cancelled (made ++ vs.flatMap Visit.calls)
      (outcome.map fun t => .ok (report stamp d settings b t k')) k'

theorem withApplicator_yields (x : Executor σ) (a : Applicator σ) (config : Config)
    (registry : Registry) (stamp : RunStamp) (d : Detection) (settings : Settings)
    (cs : List Candidate) (cancelled : Bool) (s : σ) (before : List Call) :
    (withApplicator x.recorded a.recorded config registry stamp d settings cs cancelled
      (s, before)).Yields before (fun made outcome k =>
        Executed config registry stamp d settings cs cancelled made (outcome.map .ok) k) := by
  refine (Baseline.establish_yields x registry _ d settings cancelled s before).andThen ?_ ?_
  · intro made p k hb
    exact .baselinePanicked hb
  intro made b k s hb
  cases hs : b.run.succeeded with
  | false =>
    have hskip : (Course.done (Trials.skip cs false) k (s, before ++ made)).Yields (before ++ made)
        (fun more outcome k' => more = [] ∧ outcome = .ok (.skip cs false) ∧ k' = k) :=
      .done ⟨rfl, rfl, rfl⟩
    refine hskip.andThen ?_ ?_
    · rintro more p k' ⟨_, hp, _⟩
      cases hp
    rintro more t k' s ⟨rfl, ht, rfl⟩
    cases ht
    refine (Course.Yields.done ?_).log _
    rw [List.append_nil, List.append_nil]
    exact .baselineFailed hb hs
  | true =>
    obtain ⟨-, quiet, plan, he⟩ := hb.ends_of_succeeded hs
    have hp := he.final_plan b rfl
    refine (tryAll_yields x a config hp cs k s (before ++ made)).andThen ?_ ?_
    · rintro more p k' ⟨vs, rfl, hv⟩
      exact .tried hb hs hp hv
    rintro more t k' s ⟨vs, rfl, hv⟩
    refine (Course.Yields.done ?_).log _
    rw [List.append_nil]
    exact .tried hb hs hp hv

theorem execute_yields (host : Host σ) (config : Config) (registry : Registry) (stamp : RunStamp)
    (d : Detection) (settings : Settings) (cs : List Candidate) (cancelled : Bool) (s : σ)
    (before : List Call) :
    (execute host.recorded config registry stamp d settings cs cancelled (s, before)).Yields before
      (Executed config registry stamp d settings cs cancelled) := by
  simp only [execute, Host.recorded]
  refine Course.Yields.sinceEvent _ ?_
  cases (host.applicator? s).1 with
  | error e => exact .done (.toolMissing _)
  | ok a => exact (withApplicator_yields host.executor a config registry stamp d settings cs
      cancelled _ before).map _ fun _ _ _ h => h

/-- Every run is as `Executed` says, and its journal tells of its calls. -/
theorem executed (host : Host σ) (config : Config) (registry : Registry) (stamp : RunStamp)
    (d : Detection) (settings : Settings) (cs : List Candidate) (cancelled : Bool) (s : σ) :
    let c := execute host config registry stamp d settings cs cancelled s
    let log := calls host config registry stamp d settings cs cancelled s
    Executed config registry stamp d settings cs cancelled log c.outcome c.cancelled ∧
      Journal.calls c.journal = log.map Call.entry := by
  dsimp only
  have hr := execute_recorded host config registry stamp d settings cs cancelled s
  obtain ⟨made, hl, hj, he⟩ :=
    execute_yields host config registry stamp d settings cs cancelled s []
  rw [List.nil_append] at hl
  rw [← hr.outcome, ← hr.cancelled, ← hr.journal, calls, hl]
  exact ⟨he, hj⟩

/-- How a run came to its report: the baseline failed, or the candidates were visited. -/
theorem Executed.reported {config : Config} {registry : Registry} {stamp : RunStamp}
    {d : Detection} {settings : Settings} {cs : List Candidate} {cancelled k : Bool}
    {log : List Call} {outcome : Except Panic (Except TrialError Report)} {r : Report}
    (h : Executed config registry stamp d settings cs cancelled log outcome k)
    (hr : outcome = .ok (.ok r)) :
    ∃ b t, r = report stamp d settings b t k ∧
      ((b.run.succeeded = false ∧ t = .skip cs false ∧ Baseline.Established registry
          config.excerptBytes.toNat d settings cancelled log (.ok b) k) ∨
        (∃ made k' plan vs, b.run.succeeded = true ∧ b.finalPlan? = some plan ∧
          Baseline.Established registry config.excerptBytes.toNat d settings cancelled made
            (.ok b) k' ∧
          Visits config b plan k' cs vs (.ok t) k ∧ log = made ++ vs.flatMap Visit.calls)) := by
  cases h with
  | toolMissing e => cases hr
  | baselinePanicked hb => cases hr
  | baselineFailed hb hs =>
    cases hr
    exact ⟨_, .skip cs false, rfl, Or.inl ⟨hs, rfl, hb⟩⟩
  | @tried made b k' plan vs trials _ hb hs hp hv =>
    cases trials with
    | error p => cases hr
    | ok t =>
      cases hr
      exact ⟨b, t, rfl, Or.inr ⟨made, k', plan, vs, hs, hp, hb, hv, rfl⟩⟩

end Run

/-! ### What a report accounts for -/

namespace Baseline.EndsWith

variable {made : List Call} {outcome : Except Panic Baseline} {k : Bool} {quiet : List Call}
  {plan : Plan}

theorem quiet_stops (h : EndsWith made outcome k quiet plan) :
    ∀ call ∈ quiet, call.stops = false := by
  intro call hc
  obtain ⟨plan, run, rfl⟩ := h.quiet_ran call hc
  rfl

theorem stopsLast (h : EndsWith made outcome k quiet plan) : Call.StopsLast made := by
  rw [h.made_eq]
  exact (Call.StopsLast.singleton _).append h.quiet_stops

theorem stops (h : EndsWith made outcome k quiet plan) (hk : k = false) :
    ∀ call ∈ made, call.stops = false := by
  intro call hc
  rw [h.made_eq, List.mem_append, List.mem_singleton] at hc
  rcases hc with hc | rfl
  · exact h.quiet_stops call hc
  · exact hk

end Baseline.EndsWith

namespace Run

section Executed

variable {config : Config} {registry : Registry} {stamp : RunStamp} {d : Detection}
  {settings : Settings} {cs : List Candidate} {cancelled k : Bool} {log : List Call}
  {outcome : Except Panic (Except TrialError Report)} {report : Report}

/-- On a run that is cancelled beforehand no call is made. -/
theorem Executed.eq_nil (h : Executed config registry stamp d settings cs true log outcome k) :
    log = [] := by
  cases h with
  | toolMissing e => rfl
  | baselinePanicked hb => cases hb
  | baselineFailed hb hs =>
    cases hb
    rfl
  | tried hb hs hp hv =>
    cases hb
    cases hs

/-- After a call that stops the run comes at most the revert that is due. -/
theorem Executed.stopsLast
    (h : Executed config registry stamp d settings cs cancelled log outcome k) :
    Call.StopsLast log := by
  cases h with
  | toolMissing e => exact .nil
  | baselinePanicked hb =>
    rcases hb.ends with ⟨_, rfl, _⟩ | ⟨_, quiet, plan, he⟩
    · exact .nil
    · exact he.stopsLast
  | baselineFailed hb hs =>
    rcases hb.ends with ⟨_, rfl, _⟩ | ⟨_, quiet, plan, he⟩
    · exact .nil
    · exact he.stopsLast
  | @tried made b k plan vs outcome k' hb hs hp hv =>
    obtain ⟨-, quiet, plan, he⟩ := hb.ends_of_succeeded hs
    cases k with
    | true =>
      rw [hv.eq_nil, List.flatMap_nil, List.append_nil]
      exact he.stopsLast
    | false => exact hv.stopsLast.append (he.stops rfl)

theorem Executed.ids (h : Executed config registry stamp d settings cs cancelled log outcome k)
    (hr : outcome = .ok (.ok report)) :
    report.evaluations.map Evaluation.candidateId ++ report.skipped = cs.map Candidate.id := by
  obtain ⟨b, t, rfl, ⟨_, rfl, _⟩ | ⟨made, k', plan, vs, _, _, _, hv, _⟩⟩ := h.reported hr
  · rfl
  · exact hv.ids rfl

theorem Executed.evaluations_eq_nil
    (h : Executed config registry stamp d settings cs cancelled log outcome k)
    (hr : outcome = .ok (.ok report)) (hs : report.strategy.run.succeeded = false) :
    report.evaluations = [] := by
  obtain ⟨b, t, rfl, ⟨_, rfl, _⟩ | ⟨made, k', plan, vs, hs', _⟩⟩ := h.reported hr
  · rfl
  · exact absurd (hs.symm.trans hs') Bool.false_ne_true

theorem Executed.treeDirty_iff
    (h : Executed config registry stamp d settings cs cancelled log outcome k)
    (hr : outcome = .ok (.ok report)) :
    report.treeDirty = true ↔ ∃ e ∈ report.evaluations, e.result.treeClean = false := by
  obtain ⟨b, t, rfl, ⟨_, rfl, _⟩ | ⟨made, k', plan, vs, _, _, _, hv, _⟩⟩ := h.reported hr
  · simp [Run.report, Trials.skip]
  · exact hv.treeDirty_iff rfl

theorem Executed.dirty_last
    (h : Executed config registry stamp d settings cs cancelled log outcome k)
    (hr : outcome = .ok (.ok report)) {before after : List Evaluation} {e : Evaluation}
    (he : report.evaluations = before ++ e :: after) (hd : e.result.treeClean = false) :
    after = [] := by
  obtain ⟨b, t, rfl, ⟨_, rfl, _⟩ | ⟨made, k', plan, vs, _, _, _, hv, _⟩⟩ := h.reported hr
  · cases before <;> cases he
  · exact hv.dirty_last rfl he hd

/-- The tree is left dirty exactly if some call to take a patch back failed. -/
theorem Executed.treeDirty_iff_revert
    (h : Executed config registry stamp d settings cs cancelled log outcome k)
    (hr : outcome = .ok (.ok report)) :
    report.treeDirty = true ↔ ∃ diff e k, Call.patched .revert diff (.error e) k ∈ log := by
  rw [h.treeDirty_iff hr]
  obtain ⟨b, t, rfl, ⟨_, rfl, hb⟩ | ⟨made, k', plan, vs, _, _, hb, hv, rfl⟩⟩ := h.reported hr
  · refine iff_of_false ?_ ?_
    · rintro ⟨e, he, -⟩
      cases he
    · rintro ⟨diff, e, k', hc⟩
      exact hb.patched_not_mem _ _ _ _ hc
  · simp only [List.mem_append, hb.patched_not_mem, false_or]
    exact hv.dirty_iff rfl

end Executed

/-- What the report of a run accounts for, and which calls the run makes once it is cancelled or
has left the tree dirty. -/
theorem report_accounts (host : Host σ) (config : Config) (registry : Registry)
    (stamp : RunStamp) (d : Detection) (settings : Settings) (cs : List Candidate)
    (cancelled : Bool) (s : σ) (r : Report)
    (hr : (execute host config registry stamp d settings cs cancelled s).outcome = .ok (.ok r)) :
    r.evaluations.map Evaluation.candidateId ++ r.skipped = cs.map Candidate.id ∧
    (r.strategy.run.succeeded = false → r.evaluations = []) ∧
    (r.treeDirty = true ↔ ∃ e ∈ r.evaluations, e.result.treeClean = false) ∧
    (∀ before e after, r.evaluations = before ++ e :: after → e.result.treeClean = false →
      after = []) ∧
    (r.treeDirty = true ↔ ∃ diff e k, Call.patched .revert diff (.error e) k ∈
      calls host config registry stamp d settings cs cancelled s) ∧
    (cancelled = true → calls host config registry stamp d settings cs cancelled s = []) ∧
    Call.StopsLast (calls host config registry stamp d settings cs cancelled s) ∧
    Journal.calls (execute host config registry stamp d settings cs cancelled s).journal =
      (calls host config registry stamp d settings cs cancelled s).map Call.entry := by
  obtain ⟨h, hj⟩ := executed host config registry stamp d settings cs cancelled s
  refine ⟨h.ids hr, h.evaluations_eq_nil hr, h.treeDirty_iff hr, ?_, h.treeDirty_iff_revert hr, ?_,
    h.stopsLast, hj⟩
  · intro before e after he hd
    exact h.dirty_last hr he hd
  · rintro rfl
    exact h.eq_nil

/-- Of three candidates, two of them with the same id, the second leaves the tree dirty. -/
theorem report_accounts_dirty :
    let cs : List Candidate := ["a", "a", "b"].map fun id => ⟨{ id := id }, .ofDiff "+x"⟩
    let passing : ScriptedRun := ⟨false, .ok (.ofSteps [] none)⟩
    let script : Script := { runs := [passing, passing], reverts := [none, some .emptyDiff] }
    let stamp : RunStamp := ⟨"run", default, default, 0⟩
    ∃ r, (execute Script.host {} .standard stamp {} .default cs false script).outcome =
        .ok (.ok r) ∧
      r.treeDirty = true ∧ r.skipped = ["b"] ∧
      r.evaluations.map Evaluation.candidateId ++ r.skipped = ["a", "a", "b"] ∧
      Call.StopsLast (calls Script.host {} .standard stamp {} .default cs false script) := by
  intro cs passing script stamp
  obtain ⟨r, hr, hd, hs⟩ : ∃ r, (execute Script.host {} .standard stamp {} .default cs false
      script).outcome = .ok (.ok r) ∧ r.treeDirty = true ∧ r.skipped = ["b"] :=
    ⟨_, rfl, rfl, rfl⟩
  obtain ⟨hids, _, _, _, _, _, hlast, _⟩ :=
    report_accounts Script.host {} .standard stamp {} .default cs false script r hr
  exact ⟨r, hr, hd, hs, hids, hlast⟩

end Run

end PatchTrial
