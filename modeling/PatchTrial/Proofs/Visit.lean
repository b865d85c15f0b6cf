import PatchTrial.Proofs.Recording

/-!
# The calls for a candidate

A visit is a candidate that was tried, with the calls made for it and what came of it.
`Visit.Paired` lists the visits that there are: none of them applies a patch without taking it
back, and none takes back what was not applied.
-/
namespace PatchTrial

variable {σ : Type}

namespace Call

/-- Whether a call is followed by no other than the revert that is still due: the run was cancelled
while steps ran or a patch was taken back, or the patch could not be taken back. -/
def stops : Call → Bool
  | .ran _ _ _ cancels => cancels
  | .patched .apply _ _ _ => false
  | .patched .revert _ (.ok ()) cancels => cancels
  | .patched .revert _ (.error _) _ => true

/-- After a call that stops the run comes at most the revert of the patch just applied. -/
def StopsLast (log : List Call) : Prop :=
  ∀ before call after, log = before ++ call :: after → call.stops = true →
    after = [] ∨ ∃ diff cancels answer cancels',
      before.getLast? = some (.patched .apply diff (.ok ()) cancels) ∧
      after = [.patched .revert diff answer cancels']

theorem StopsLast.nil : StopsLast [] := by
  intro before call after h
  cases before <;> cases h

theorem StopsLast.singleton (call : Call) : StopsLast [call] := by
  rintro before call' after h _
  cases before with
  | nil =>
    cases h
    exact Or.inl rfl
  | cons first before =>
    have hl := congrArg List.length h
    simp only [List.cons_append, List.length_cons, List.length_append, List.length_nil] at hl
    omega

/-- Calls that stop nothing may come before. -/
theorem StopsLast.append {quiet log : List Call} (hq : ∀ call ∈ quiet, call.stops = false)
    (hl : StopsLast log) : StopsLast (quiet ++ log) := by
  induction quiet with
  | nil => exact hl
  | cons first quiet ih =>
    have ih := ih fun call hc => hq call (List.mem_cons_of_mem _ hc)
    intro before call after h hs
    cases before with
    | nil =>
      cases h
      rw [hq first List.mem_cons_self] at hs
      cases hs
    | cons first' before =>
      simp only [List.cons_append, List.cons.injEq] at h
      obtain ⟨rfl, h⟩ := h
      refine (ih before call after h hs).imp_right ?_
      rintro ⟨diff, cancels, answer, cancels', hlast, ha⟩
      refine ⟨diff, cancels, answer, cancels', ?_, ha⟩
      rw [List.getLast?_cons, hlast, Option.getD_some]

/-- A patch that is applied and taken back. -/
theorem StopsLast.round (diff : String) (plan : Plan) (steps : List Step)
    (ran : Except Panic (PipelineRun Float)) (answer : Except PatchError Unit) (k₁ k₂ k₃ : Bool) :
    StopsLast [.patched .apply diff (.ok ()) k₁, .ran plan steps ran k₂,
      .patched .revert diff answer k₃] := by
  intro before call after h hs
  match before, h with
  | [], h =>
    cases h
    cases hs
  | [_], h =>
    cases h
    exact Or.inr ⟨diff, k₁, answer, k₃, rfl, rfl⟩
  | [_, _], h =>
    cases h
    exact Or.inl rfl
  | _ :: _ :: _ :: before, h =>
    have hl := congrArg List.length h
    simp only [List.cons_append, List.length_cons, List.length_append, List.length_nil] at hl
    omega

end Call

/-- A candidate that was tried, with the calls made for it and what came of it. -/
structure Visit where
  candidate : Candidate
  calls : List Call
  outcome : Except Panic (CandidateRun Float)

namespace Visit

/-- Whether the run was cancelled during a visit. -/
def cancels (v : Visit) : Bool := v.calls.any Call.cancels

/-- The visits that a gate and a plan allow. -/
inductive Paired (policy : GatePolicy) (plan : Plan) : Visit → Prop
  /-- The gate turned the patch away. -/
  | gated {c : Candidate} {violation : Violation} (hg : policy.check c.patch = .error violation) :
    Paired policy plan ⟨c, [], .ok (.rejected c.id (.constraint violation))⟩
  /-- The patch could not be applied. -/
  | unapplied {c : Candidate} {e : PatchError} {k : Bool} (hg : policy.check c.patch = .ok ()) :
    Paired policy plan ⟨c, [.patched .apply c.patch.diff (.error e) k],
      .ok (.rejected c.id e.rejection)⟩
  /-- The patch was applied and taken back. -/
  | reverted {c : Candidate} {run : PipelineRun Float} {k₁ k₂ k₃ : Bool}
      (hg : policy.check c.patch = .ok ()) :
    Paired policy plan ⟨c, [.patched .apply c.patch.diff (.ok ()) k₁,
      .ran plan Step.revalidated (.ok run) k₂, .patched .revert c.patch.diff (.ok ()) k₃],
      .ok (.ofRun c.id run)⟩
  /-- The patch was applied and could not be taken back. -/
  | leftDirty {c : Candidate} {run : PipelineRun Float} {e : PatchError} {k₁ k₂ k₃ : Bool}
      (hg : policy.check c.patch = .ok ()) :
    Paired policy plan ⟨c, [.patched .apply c.patch.diff (.ok ()) k₁,
      .ran plan Step.revalidated (.ok run) k₂, .patched .revert c.patch.diff (.error e) k₃],
      .ok ((CandidateRun.ofRun c.id run).leftDirty e)⟩
  /-- The steps blew up, and the patch was taken back before that went on. -/
  | panicked {c : Candidate} {p : Panic} {answer : Except PatchError Unit} {k₁ k₂ k₃ : Bool}
      (hg : policy.check c.patch = .ok ()) :
    Paired policy plan ⟨c, [.patched .apply c.patch.diff (.ok ()) k₁,
      .ran plan Step.revalidated (.error p) k₂, .patched .revert c.patch.diff answer k₃],
      .error p⟩

section Paired

variable {policy : GatePolicy} {plan : Plan} {v : Visit}

theorem Paired.stopsLast (h : v.Paired policy plan) : Call.StopsLast v.calls := by
  cases h with
  | gated hg => exact .nil
  | unapplied hg => exact .singleton _
  | reverted hg => exact .round _ _ _ _ _ _ _ _
  | leftDirty hg => exact .round _ _ _ _ _ _ _ _
  | panicked hg => exact .round _ _ _ _ _ _ _ _

/-- A visit that leaves the tree clean and sees no cancellation stops nothing. -/
theorem Paired.quiet (h : v.Paired policy plan) {r : CandidateRun Float} (ho : v.outcome = .ok r)
    (ht : r.treeClean = true) (hk : v.cancels = false) :
    ∀ call ∈ v.calls, call.stops = false := by
  cases h with
  | gated hg => exact List.forall_mem_nil _
  | unapplied hg => exact List.forall_mem_singleton.mpr rfl
  | @reverted c run k₁ k₂ k₃ hg =>
    have hk : (k₁ || (k₂ || (k₃ || false))) = false := hk
    simp only [Bool.or_eq_false_iff] at hk
    obtain ⟨-, hk₂, hk₃, -⟩ := hk
    rintro call hc
    simp only [List.mem_cons, List.not_mem_nil, or_false] at hc
    rcases hc with rfl | rfl | rfl
    · rfl
    · exact hk₂
    · exact hk₃
  | leftDirty hg =>
    cases ho
    cases ht
  | panicked hg => cases ho

/-- The tree is left dirty exactly if the patch could not be taken back. -/
theorem Paired.dirty_iff (h : v.Paired policy plan) {r : CandidateRun Float}
    (ho : v.outcome = .ok r) :
    r.treeClean = false ↔ ∃ diff e k, Call.patched .revert diff (.error e) k ∈ v.calls := by
  cases h with
  | gated hg =>
    cases ho
    simp [CandidateRun.rejected]
  | unapplied hg =>
    cases ho
    simp [CandidateRun.rejected]
  | reverted hg =>
    cases ho
    simp [CandidateRun.ofRun]
  | leftDirty hg =>
    cases ho
    simp [CandidateRun.leftDirty]
  | panicked hg => cases ho

/-- A candidate is rejected exactly if the gate turns its patch away or the patch cannot be
applied, and then no step is run. -/
theorem Paired.rejection_iff (h : v.Paired policy plan) {r : CandidateRun Float}
    (ho : v.outcome = .ok r) :
    (r.rejection.isSome = true ↔ (∃ violation, policy.check v.candidate.patch = .error violation) ∨
      ∃ diff e k, Call.patched .apply diff (.error e) k ∈ v.calls) ∧
    (r.rejection.isSome = true → r.steps = []) := by
  cases h with
  | gated hg =>
    cases ho
    exact ⟨⟨fun _ => Or.inl ⟨_, hg⟩, fun _ => rfl⟩, fun _ => rfl⟩
  | unapplied hg =>
    cases ho
    exact ⟨⟨fun _ => Or.inr ⟨_, _, _, List.mem_cons_self⟩, fun _ => rfl⟩, fun _ => rfl⟩
  | reverted hg =>
    cases ho
    simp [CandidateRun.ofRun, hg]
  | leftDirty hg =>
    cases ho
    simp [CandidateRun.leftDirty, CandidateRun.ofRun, hg]
  | panicked hg => cases ho

/-- A candidate that was not rejected was tried with its patch applied. -/
theorem Paired.ran_of_not_rejected (h : v.Paired policy plan) {r : CandidateRun Float}
    (ho : v.outcome = .ok r) (hr : r.rejection = none) :
    policy.check v.candidate.patch = .ok () ∧ ∃ run k₁ k₂ answer k₃,
      v.calls = [.patched .apply v.candidate.patch.diff (.ok ()) k₁,
        .ran plan Step.revalidated (.ok run) k₂,
        .patched .revert v.candidate.patch.diff answer k₃] ∧
      r.steps = run.steps ∧ r.succeeded = run.succeeded ∧ r.measurement = run.measurement := by
  cases h with
  | gated hg =>
    cases ho
    cases hr
  | unapplied hg =>
    cases ho
    cases hr
  | @reverted c run k₁ k₂ k₃ hg =>
    cases ho
    exact ⟨hg, run, k₁, k₂, .ok (), k₃, rfl, rfl, rfl, rfl⟩
  | @leftDirty c run e k₁ k₂ k₃ hg =>
    cases ho
    exact ⟨hg, run, k₁, k₂, .error e, k₃, rfl, rfl, rfl, rfl⟩
  | panicked hg => cases ho

end Paired

end Visit

namespace Trial

/-- The calls for a candidate whose patch is applied. -/
theorem applied_yields (x : Executor σ) (a : Applicator σ) (plan : Plan) (c : Candidate)
    (cancelled : Bool) (s : σ) (before : List Call) :
    (applied x.recorded a.recorded plan c cancelled (s, before)).Yields before
      (fun made outcome k => ∃ ran k₁ answer k₂,
        made = [.ran plan Step.revalidated ran k₁, .patched .revert c.patch.diff answer k₂] ∧
        k = (cancelled || k₁ || k₂) ∧
        outcome = ran.map fun run => match answer with
          | .ok () => .ofRun c.id run
          | .error e => (CandidateRun.ofRun c.id run).leftDirty e) := by
  obtain ⟨outcome, events, k₁, s₁, hr⟩ :=
    x.recorded_run plan Step.revalidated cancelled s before
  obtain ⟨answer, k₂, s₂, hw⟩ := a.recorded_patch .revert c.patch.diff s₁
    (before ++ [.ran plan Step.revalidated outcome k₁])
  simp only [applied, hr, hw]
  have hj : Journal.calls (.ran plan Step.revalidated :: events.map .event ++
      [.patched .revert c.patch.diff]) =
      [.ran plan Step.revalidated, .patched .revert c.patch.diff] := by
    rw [Journal.calls_append, Journal.calls_ran, Journal.calls_map_event]
    rfl
  have hj' (e : Event) : Journal.calls (.ran plan Step.revalidated :: events.map .event ++
      [.patched .revert c.patch.diff] ++ [.event e]) =
      [.ran plan Step.revalidated, .patched .revert c.patch.diff] := by
    rw [Journal.calls_append, hj]
    rfl
  cases outcome with
  | error p =>
    cases answer with
    | error e => exact ⟨_, List.append_assoc .., hj' _, _, k₁, .error e, k₂, rfl, rfl, rfl⟩
    | ok u => exact ⟨_, List.append_assoc .., hj, _, k₁, .ok u, k₂, rfl, rfl, rfl⟩
  | ok run =>
    cases answer with
    | error e => exact ⟨_, List.append_assoc .., hj' _, _, k₁, .error e, k₂, rfl, rfl, rfl⟩
    | ok u => exact ⟨_, List.append_assoc .., hj, _, k₁, .ok u, k₂, rfl, rfl, rfl⟩

/-- Trying a candidate with a plan is a visit. -/
theorem validate_yields (x : Executor σ) (a : Applicator σ) (policy : GatePolicy) (plan : Plan)
    (c : Candidate) (cancelled : Bool) (s : σ) (before : List Call) :
    (validate x.recorded a.recorded policy (some plan) c cancelled (s, before)).Yields before
      (fun made outcome k => Visit.Paired policy plan ⟨c, made, outcome⟩ ∧
        k = (cancelled || made.any Call.cancels)) := by
  cases hg : policy.check c.patch with
  | error violation =>
    rw [validate_of_violation hg]
    exact (Course.Yields.done ⟨.gated hg, (Bool.or_false _).symm⟩).sinceEvent _
  | ok u =>
  obtain ⟨answer, k, s', hw⟩ := a.recorded_patch .apply c.patch.diff s before
  cases answer with
  | error e =>
    rw [validate_of_patch_error hg hw]
    exact ⟨_, rfl, rfl, .unapplied hg, congrArg (cancelled || ·) (Bool.or_false k).symm⟩
  | ok u =>
    rw [validate_of_patch_ok hg hw]
    obtain ⟨made, hl, hj, ran, k₁, answer, k₂, rfl, hk, ho⟩ := applied_yields x a plan c
      (cancelled || k) s' (before ++ [.patched .apply c.patch.diff (.ok u) k])
    refine ⟨[.patched .apply c.patch.diff (.ok u) k, .ran plan Step.revalidated ran k₁,
      .patched .revert c.patch.diff answer k₂], ?_, ?_, ?_, ?_⟩
    · exact hl.trans (List.append_assoc ..)
    · exact congrArg (Entry.patched .apply c.patch.diff :: ·) hj
    · dsimp only [Course.since_outcome]
      rw [ho]
      cases ran with
      | error p => exact .panicked hg
      | ok run =>
        cases answer with
        | error e => exact .leftDirty hg
        | ok u => exact .reverted hg
    · refine hk.trans ?_
      simp only [List.any_cons, List.any_nil, Call.cancels, Bool.or_false, Bool.or_assoc]

end Trial

end PatchTrial
