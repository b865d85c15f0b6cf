import Mathlib.Data.List.Forall2
import PatchTrial.Proofs.Visit

/-!
# The calls for all candidates

`Visits` says which candidates are visited, one after another, and what is reported of them. The
visits end when the candidates do, when the run is cancelled, with a panic, or with a tree that is
left dirty. What holds of every run of visits is shown by induction on them.
-/
namespace PatchTrial

variable {σ : Type}

/-- The visits to candidates, given whether the run is cancelled beforehand, with what is reported
of them and whether the run is cancelled afterwards. -/
inductive Visits (config : Config) (baseline : Baseline) (plan : Plan) :
    Bool → List Candidate → List Visit → Except Panic Trials → Bool → Prop
  | ended {cs : List Candidate} {cancelled : Bool} (h : cs = [] ∨ cancelled = true) :
    Visits config baseline plan cancelled cs [] (.ok (.skip cs false)) cancelled
  | panicked {v : Visit} (cs : List Candidate) {p : Panic} (hv : v.Paired config.gate plan)
      (ho : v.outcome = .error p) :
    Visits config baseline plan false (v.candidate :: cs) [v] (.error p) v.cancels
  | leftDirty {v : Visit} (cs : List Candidate) {r : CandidateRun Float}
      (hv : v.Paired config.gate plan) (ho : v.outcome = .ok r) (ht : r.treeClean = false) :
    Visits config baseline plan false (v.candidate :: cs) [v]
      (.ok ((Trials.skip cs true).add (Run.judged config baseline v.candidate r))) v.cancels
  | visited {v : Visit} {cs : List Candidate} {r : CandidateRun Float} {vs : List Visit}
      {outcome : Except Panic Trials} {k : Bool} (hv : v.Paired config.gate plan)
      (ho : v.outcome = .ok r) (ht : r.treeClean = true)
      (rest : Visits config baseline plan v.cancels cs vs outcome k) :
    Visits config baseline plan false (v.candidate :: cs) (v :: vs)
      (outcome.map (.add (Run.judged config baseline v.candidate r))) k

namespace Run

theorem tryAll_yields (x : Executor σ) (a : Applicator σ) (config : Config) {baseline : Baseline}
    {plan : Plan} (hp : baseline.finalPlan? = some plan) (cs : List Candidate) (cancelled : Bool)
    (s : σ) (before : List Call) :
    (tryAll x.recorded a.recorded config baseline cs false cancelled (s, before)).Yields before
      (fun made outcome k => ∃ vs, made = vs.flatMap Visit.calls ∧
        Visits config baseline plan cancelled cs vs outcome k) := by
  induction cs generalizing cancelled s before with
  | nil => exact .done ⟨[], rfl, .ended (Or.inl rfl)⟩
  | cons c cs ih =>
    simp only [tryAll, hp, Bool.or_false]
    split
    next hk => exact .done ⟨[], rfl, .ended (Or.inr hk)⟩
    next hk =>
    have hk : cancelled = false := Bool.eq_false_iff.mpr hk
    subst hk
    refine (Trial.validate_yields x a config.gate plan c false s before).andThen ?_ ?_
    · rintro made p k ⟨hv, rfl⟩
      exact ⟨[⟨c, made, .error p⟩], (List.append_nil made).symm, .panicked cs hv rfl⟩
    rintro made r k s ⟨hv, rfl⟩
    refine Course.Yields.sinceEvent _ ?_
    cases ht : r.treeClean with
    | false =>
      rw [Bool.not_false, tryAll_dirty]
      refine Course.Yields.done (P := fun more outcome k => ∃ vs, made ++ more = _ ∧ _)
        ⟨[⟨c, made, .ok r⟩], rfl, .leftDirty cs hv rfl ht⟩
    | true =>
      refine (ih (made.any Call.cancels) s (before ++ made)).map _ ?_
      rintro more outcome k ⟨vs, rfl, h⟩
      exact ⟨⟨c, made, .ok r⟩ :: vs, rfl, .visited hv rfl ht h⟩

end Run

namespace Visits

variable {config : Config} {baseline : Baseline} {plan : Plan} {cancelled k : Bool}
  {cs : List Candidate} {vs : List Visit} {outcome : Except Panic Trials}

theorem paired (h : Visits config baseline plan cancelled cs vs outcome k) :
    ∀ v ∈ vs, v.Paired config.gate plan := by
  induction h with
  | ended h => exact List.forall_mem_nil _
  | panicked cs hv ho => exact List.forall_mem_singleton.mpr hv
  | leftDirty cs hv ho ht => exact List.forall_mem_singleton.mpr hv
  | visited hv ho ht rest ih => exact List.forall_mem_cons.mpr ⟨hv, ih⟩

/-- Candidates are visited in order, from the first one on. -/
theorem candidates_prefix (h : Visits config baseline plan cancelled cs vs outcome k) :
    vs.map Visit.candidate <+: cs := by
  induction h with
  | ended h => exact List.nil_prefix
  | @panicked v cs p hv ho => exact ⟨cs, rfl⟩
  | @leftDirty v cs r hv ho ht => exact ⟨cs, rfl⟩
  | visited hv ho ht rest ih => exact (List.prefix_cons_inj _).mpr ih

theorem eq_nil (h : Visits config baseline plan true cs vs outcome k) : vs = [] := by
  cases h with
  | ended h => rfl

/-- Every candidate is reported once, in order, as tried or as skipped. -/
theorem ids (h : Visits config baseline plan cancelled cs vs outcome k) {t : Trials}
    (ht : outcome = .ok t) :
    t.evaluations.map Evaluation.candidateId ++ t.skipped = cs.map Candidate.id := by
  induction h generalizing t with
  | ended h =>
    cases ht
    rfl
  | panicked cs hv ho => cases ht
  | leftDirty cs hv ho hd =>
    cases ht
    rfl
  | @visited v cs r vs outcome k hv ho hd rest ih =>
    cases outcome with
    | error p => cases ht
    | ok t' =>
      cases ht
      exact congrArg (v.candidate.id :: ·) (ih rfl)

/-- The evaluations are those of the visits, in order. -/
theorem evaluated (h : Visits config baseline plan cancelled cs vs outcome k) {t : Trials}
    (ht : outcome = .ok t) :
    List.Forall₂ (fun v e => ∃ r, v.outcome = .ok r ∧
      e = Run.judged config baseline v.candidate r) vs t.evaluations := by
  induction h generalizing t with
  | ended h =>
    cases ht
    exact .nil
  | panicked cs hv ho => cases ht
  | leftDirty cs hv ho hd =>
    cases ht
    exact .cons ⟨_, ho, rfl⟩ .nil
  | @visited v cs r vs outcome k hv ho hd rest ih =>
    cases outcome with
    | error p => cases ht
    | ok t' =>
      cases ht
      exact .cons ⟨r, ho, rfl⟩ (ih rfl)

/-- Some visit left the tree dirty exactly if some patch could not be taken back. -/
theorem dirty_iff (h : Visits config baseline plan cancelled cs vs outcome k) {t : Trials}
    (ht : outcome = .ok t) :
    (∃ e ∈ t.evaluations, e.result.treeClean = false) ↔
      ∃ diff e k, Call.patched .revert diff (.error e) k ∈ vs.flatMap Visit.calls := by
  induction h generalizing t with
  | ended h =>
    cases ht
    simp [Trials.skip]
  | panicked cs hv ho => cases ht
  | @leftDirty v cs r hv ho hr =>
    cases ht
    rw [List.flatMap_singleton, ← hv.dirty_iff ho]
    simp [Trials.add, Trials.skip, Run.judged]
  | @visited v cs r vs outcome k hv ho hr rest ih =>
    cases outcome with
    | error p => cases ht
    | ok t' =>
      cases ht
      have hclean : ∀ diff e k, Call.patched .revert diff (.error e) k ∉ v.calls := by
        intro diff e k hc
        rw [(hv.dirty_iff ho).mpr ⟨diff, e, k, hc⟩] at hr
        cases hr
      simp only [List.flatMap_cons, List.mem_append, hclean, false_or]
      rw [← ih rfl]
      simp [Trials.add, Run.judged, hr]

/-- The flag that the visits carry tells whether some visit left the tree dirty. -/
theorem treeDirty_iff (h : Visits config baseline plan cancelled cs vs outcome k) {t : Trials}
    (ht : outcome = .ok t) :
    t.treeDirty = true ↔ ∃ e ∈ t.evaluations, e.result.treeClean = false := by
  induction h generalizing t with
  | ended h =>
    cases ht
    simp [Trials.skip]
  | panicked cs hv ho => cases ht
  | @leftDirty v cs r hv ho hr =>
    cases ht
    exact iff_of_true rfl ⟨_, List.mem_cons_self, hr⟩
  | @visited v cs r vs outcome k hv ho hr rest ih =>
    cases outcome with
    | error p => cases ht
    | ok t' =>
      cases ht
      have hfirst : (Run.judged config baseline v.candidate r).result.treeClean = true := hr
      simpa [Trials.add, hfirst] using ih rfl

/-- Nothing is tried on a tree that was left dirty. -/
theorem dirty_last (h : Visits config baseline plan cancelled cs vs outcome k) {t : Trials}
    (ht : outcome = .ok t) {before after : List Evaluation} {e : Evaluation}
    (he : t.evaluations = before ++ e :: after) (hd : e.result.treeClean = false) :
    after = [] := by
  induction h generalizing t before with
  | ended h =>
    cases ht
    cases before <;> cases he
  | panicked cs hv ho => cases ht
  | leftDirty cs hv ho hr =>
    cases ht
    cases before with
    | nil =>
      cases he
      rfl
    | cons first before =>
      have hl := congrArg List.length he
      simp only [Trials.add, Trials.skip, List.cons_append, List.length_cons,
        List.length_append, List.length_nil] at hl
      omega
  | @visited v cs r vs outcome k hv ho hr rest ih =>
    cases outcome with
    | error p => cases ht
    | ok t' =>
      cases ht
      cases before with
      | nil =>
        cases he
        rw [show (Run.judged config baseline v.candidate r).result = r from rfl, hr] at hd
        cases hd
      | cons first before => exact ih rfl (List.cons.inj he).2

/-- All visits but the last leave the tree clean and see no cancellation. -/
theorem quiet (h : Visits config baseline plan cancelled cs vs outcome k) :
    ∀ v ∈ vs.dropLast, v.cancels = false ∧ ∃ r, v.outcome = .ok r ∧ r.treeClean = true := by
  induction h with
  | ended h => exact List.forall_mem_nil _
  | panicked cs hv ho => exact List.forall_mem_nil _
  | leftDirty cs hv ho ht => exact List.forall_mem_nil _
  | @visited v cs r vs outcome k hv ho ht rest ih =>
    cases hvs : vs with
    | nil => exact List.forall_mem_nil _
    | cons second others =>
      -- a visit follows, so the run was not cancelled meanwhile
      have hk : v.cancels = false := by
        refine Bool.eq_false_iff.mpr fun hk => ?_
        rw [hk] at rest
        rw [rest.eq_nil] at hvs
        cases hvs
      rw [List.dropLast_cons_cons, ← hvs]
      exact List.forall_mem_cons.mpr ⟨⟨hk, r, ho, ht⟩, ih⟩

/-- Candidates are visited to the last one, unless the run is cancelled or the tree left dirty. -/
theorem candidates_eq (h : Visits config baseline plan cancelled cs vs outcome k) {t : Trials}
    (ht : outcome = .ok t) (hd : t.treeDirty = false) (hk : k = false) :
    vs.map Visit.candidate = cs := by
  induction h generalizing t with
  | ended h => exact (h.resolve_right (Bool.eq_false_iff.mp hk)).symm
  | panicked cs hv ho => cases ht
  | leftDirty cs hv ho hr =>
    cases ht
    cases hd
  | @visited v cs r vs outcome k hv ho hr rest ih =>
    cases outcome with
    | error p => cases ht
    | ok t' =>
      cases ht
      exact congrArg (v.candidate :: ·) (ih rfl hd hk)

/-- A panic comes from the last visit, and the visits before it came to a result. -/
theorem panic_last (h : Visits config baseline plan cancelled cs vs outcome k) {p : Panic}
    (hp : outcome = .error p) : ∃ front v, vs = front ++ [v] ∧ v.outcome = .error p ∧
      ∀ u ∈ front, ∃ r, u.outcome = .ok r := by
  induction h with
  | ended h => cases hp
  | @panicked v cs q hv ho =>
    cases hp
    exact ⟨[], v, rfl, ho, List.forall_mem_nil _⟩
  | leftDirty cs hv ho ht => cases hp
  | @visited v cs r vs outcome k hv ho ht rest ih =>
    cases outcome with
    | ok t => cases hp
    | error q =>
      cases hp
      obtain ⟨front, last, rfl, hl, hf⟩ := ih rfl
      exact ⟨v :: front, last, rfl, hl, List.forall_mem_cons.mpr ⟨⟨r, ho⟩, hf⟩⟩

/-- After a call that stops the run comes at most the revert that is due. -/
theorem stopsLast (h : Visits config baseline plan cancelled cs vs outcome k) :
    Call.StopsLast (vs.flatMap Visit.calls) := by
  induction h with
  | ended h => exact .nil
  | @panicked v cs p hv ho =>
    rw [List.flatMap_singleton]
    exact hv.stopsLast
  | @leftDirty v cs r hv ho ht =>
    rw [List.flatMap_singleton]
    exact hv.stopsLast
  | @visited v cs r vs outcome k hv ho ht rest ih =>
    rw [List.flatMap_cons]
    cases hk : v.cancels with
    | true =>
      rw [hk] at rest
      rw [rest.eq_nil, List.flatMap_nil, List.append_nil]
      exact hv.stopsLast
    | false => exact ih.append (hv.quiet ho ht hk)

end Visits

end PatchTrial
