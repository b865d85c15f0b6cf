import PatchTrial.Host
import PatchTrial.Patch.Gate

/-!
Trying a candidate.

The gate looks at the patch first. A patch that passes is applied, the steps are run again, and
the patch is taken back, whatever came of the steps. The result says whether the working tree is
as it was.
-/
namespace PatchTrial

/-- A candidate's run after its patch could not be taken back. -/
def CandidateRun.leftDirty (e : PatchError) (r : CandidateRun Float) : CandidateRun Float :=
  let note := s!"revert failed: {e.message}"
  let error := match r.error with
    | some text => s!"{text}; {note}"
    | none => note
  { r with error := some error, treeClean := false }

namespace Trial

variable {σ : Type}

/-- Run the steps of a candidate whose patch is applied, and take the patch back. -/
def applied (x : Executor σ) (a : Applicator σ) (plan : Plan) (c : Candidate) (cancelled : Bool)
    (s : σ) : Course σ (CandidateRun Float) :=
  let ran := x.run plan Step.revalidated cancelled s
  let reverted := a.patch .revert c.patch.diff ran.after
  let journal := ran.journal ++ [.patched .revert c.patch.diff]
  let cancelled := ran.cancelled || reverted.cancels
  match ran.outcome, reverted.answer with
  | .error p, .ok () => ⟨.error p, journal, cancelled, reverted.after⟩
  | .error p, .error e =>
    ⟨.error p, journal ++ [.event (.revertFailedInPanic e.message)], cancelled, reverted.after⟩
  | .ok run, .ok () => ⟨.ok (.ofRun c.id run), journal, cancelled, reverted.after⟩
  | .ok run, .error e =>
    ⟨.ok ((CandidateRun.ofRun c.id run).leftDirty e),
      journal ++ [.event (.revertFailed c.id e.message)], cancelled, reverted.after⟩

/-- Turn a candidate away. -/
def reject (c : Candidate) (reason : String) (r : Rejection) (cancelled : Bool) (s : σ) :
    Course σ (CandidateRun Float) :=
  .since [.event (.candidateRejected c.id reason)] (.done (.rejected c.id r) cancelled s)

/-- Try a candidate with the plan that the baseline ended with, if it has one. -/
def validate (x : Executor σ) (a : Applicator σ) (policy : GatePolicy) (plan : Option Plan)
    (c : Candidate) (cancelled : Bool) (s : σ) : Course σ (CandidateRun Float) :=
  match policy.check c.patch with
  | .error v => reject c v.message (.constraint v) cancelled s
  | .ok () =>
    match plan with
    | none => .done (.ofRun c.id (.interrupted [] "baseline has no executed plan")) cancelled s
    | some plan =>
      let tried := a.patch .apply c.patch.diff s
      let journal := [.patched .apply c.patch.diff]
      let cancelled := cancelled || tried.cancels
      match tried.answer with
      | .error e => (reject c e.rejection.message e.rejection cancelled tried.after).since journal
      | .ok () => (applied x a plan c cancelled tried.after).since journal

section Validate

variable {x : Executor σ} {a : Applicator σ} {policy : GatePolicy} {c : Candidate}
  {cancelled : Bool} {s : σ}

theorem validate_of_violation {plan : Option Plan} {v : Violation}
    (hg : policy.check c.patch = .error v) :
    validate x a policy plan c cancelled s = reject c v.message (.constraint v) cancelled s := by
  simp only [validate, hg]

theorem validate_of_patch_error {plan : Plan} {e : PatchError} {k : Bool} {s' : σ}
    (hg : policy.check c.patch = .ok ())
    (ht : a.patch .apply c.patch.diff s = ⟨.error e, k, s'⟩) :
    validate x a policy (some plan) c cancelled s =
      (reject c e.rejection.message e.rejection (cancelled || k) s').since
        [.patched .apply c.patch.diff] := by
  simp only [validate, hg, ht]

theorem validate_of_patch_ok {plan : Plan} {k : Bool} {s' : σ}
    (hg : policy.check c.patch = .ok ())
    (ht : a.patch .apply c.patch.diff s = ⟨.ok (), k, s'⟩) :
    validate x a policy (some plan) c cancelled s =
      (applied x a plan c (cancelled || k) s').since [.patched .apply c.patch.diff] := by
  simp only [validate, hg, ht]

end Validate

end Trial

end PatchTrial
