import PatchTrial.PatchTool
import PatchTrial.Proofs.Simulation

/-!
# When the working tree is what it was

A tool may change the tree and fail all the same. A diff that passed on trial may fail in earnest,
and then its candidate is rejected as one that never touched the tree. This is the one way in which
a result can say that the tree is clean when it is not.
-/
namespace PatchTrial

variable {σ τ : Type} {invoke : PatchTool.Invoke σ} {tree : σ → τ}

namespace PatchTool

/-- What a tool does to the working tree, which is a part of the state. A call on trial leaves it
alone, and a diff that is applied can be taken back. A call in earnest that fails may do
anything. -/
structure Laws (invoke : Invoke σ) (tree : σ → τ) : Prop where
  trial : ∀ d diff s, tree (invoke d true diff s).2 = tree s
  undo : ∀ diff s s', (invoke .apply false diff s).1 = .ok () →
    tree s' = tree (invoke .apply false diff s).2 → (invoke .revert false diff s').1 = .ok () →
    tree (invoke .revert false diff s').2 = tree s

/-- A diff that passes on trial and fails in earnest, with another tree afterwards. -/
structure HalfDone (invoke : Invoke σ) (tree : σ → τ) (d : PatchDirection) (diff : String)
    (s : σ) : Prop where
  not_blank : isBlankText diff = false
  passes_trial : (invoke d true diff s).1 = .ok ()
  fails : ∃ e, (invoke d false diff (invoke d true diff s).2).1 = .error e
  tree_ne : tree (invoke d false diff (invoke d true diff s).2).2 ≠ tree s

variable {d : PatchDirection} {diff : String} {s s' : σ}

theorem patch_of_blank (hb : isBlankText diff = true) :
    patch invoke d diff s = (.error (.emptyDiff d), s) := by
  unfold patch
  rw [if_pos hb]

theorem patch_of_trial_failed (hb : isBlankText diff = false) {e : PatchError}
    (ht : (invoke d true diff s).1 = .error e) :
    patch invoke d diff s = (.error e, (invoke d true diff s).2) := by
  unfold patch
  rw [hb, if_neg Bool.false_ne_true]
  generalize invoke d true diff s = trial at ht ⊢
  obtain ⟨answer, s₁⟩ := trial
  cases ht
  rfl

/-- After a call on trial that passed, the tool is called in earnest. -/
theorem patch_of_trial_passed (hb : isBlankText diff = false)
    (ht : (invoke d true diff s).1 = .ok ()) :
    patch invoke d diff s = invoke d false diff (invoke d true diff s).2 := by
  unfold patch
  rw [hb, if_neg Bool.false_ne_true]
  generalize invoke d true diff s = trial at ht ⊢
  obtain ⟨answer, s₁⟩ := trial
  cases ht
  rfl

/-- Either the tool is called in earnest, or it fails and the tree is left alone. -/
theorem patch_cases (laws : Laws invoke tree) (d : PatchDirection) (diff : String) (s : σ) :
    (isBlankText diff = false ∧ (invoke d true diff s).1 = .ok () ∧
      patch invoke d diff s = invoke d false diff (invoke d true diff s).2) ∨
    ((isBlankText diff = false → (invoke d true diff s).1 ≠ .ok ()) ∧
      (∃ e, (patch invoke d diff s).1 = .error e) ∧ tree (patch invoke d diff s).2 = tree s) := by
  cases hb : isBlankText diff with
  | true =>
    rw [patch_of_blank hb]
    exact Or.inr ⟨nofun, ⟨_, rfl⟩, rfl⟩
  | false =>
    cases ht : (invoke d true diff s).1 with
    | ok u => exact Or.inl ⟨rfl, rfl, patch_of_trial_passed hb ht⟩
    | error e =>
      rw [patch_of_trial_failed hb ht]
      exact Or.inr ⟨fun _ => nofun, ⟨e, rfl⟩, laws.trial d diff s⟩

/-- A diff that could not be applied has changed the tree only if it is half done. -/
theorem tree_ne_iff_of_error (laws : Laws invoke tree) {e : PatchError}
    (h : (patch invoke d diff s).1 = .error e) :
    tree (patch invoke d diff s).2 ≠ tree s ↔ HalfDone invoke tree d diff s := by
  rcases patch_cases laws d diff s with ⟨hb, ht, hp⟩ | ⟨hn, -, hs⟩
  · rw [hp] at h ⊢
    exact ⟨fun hne => ⟨hb, ht, ⟨e, h⟩, hne⟩, fun hd => hd.tree_ne⟩
  · exact ⟨fun hne => absurd hs hne, fun hd => absurd hd.passes_trial (hn hd.not_blank)⟩

theorem applicator_patch {answer : Except PatchError Unit}
    (h : (patch invoke d diff s).1 = answer) :
    (applicator invoke).patch d diff s = ⟨answer, false, (patch invoke d diff s).2⟩ := by
  cases h
  rfl

theorem HalfDone.patch_fails (h : HalfDone invoke tree d diff s) :
    ∃ e, (patch invoke d diff s).1 = .error e := by
  rw [patch_of_trial_passed h.not_blank h.passes_trial]
  exact h.fails

/-- Taking a diff back restores the tree from before it was applied. -/
theorem tree_undone (laws : Laws invoke tree) (ha : (patch invoke .apply diff s).1 = .ok ())
    (hs : tree s' = tree (patch invoke .apply diff s).2)
    (hr : (patch invoke .revert diff s').1 = .ok ()) :
    tree (patch invoke .revert diff s').2 = tree s := by
  rcases patch_cases laws .apply diff s with ⟨-, -, hp⟩ | ⟨-, ⟨e, he⟩, -⟩
  · rcases patch_cases laws .revert diff s' with ⟨-, -, hp'⟩ | ⟨-, ⟨e, he⟩, -⟩
    · rw [hp] at ha hs
      rw [hp'] at hr ⊢
      rw [← laws.trial .revert diff s'] at hs
      rw [laws.undo diff _ _ ha hs hr]
      exact laws.trial .apply diff s
    · rw [hr] at he
      cases he
  · rw [ha] at he
    cases he

end PatchTool

/-- A tool whose tree is a list of diffs, with room for only so many. It writes down one more before
it says that there is no room. -/
def PatchTool.withRoom (room : Nat) : PatchTool.Invoke (List String) :=
  fun d dryRun diff diffs =>
    if dryRun then (.ok (), diffs)
    else
      match d with
      | .apply =>
        (if diffs.length < room then .ok () else .error (.failed .apply false 2 "" "no room"),
          diffs ++ [diff])
      | .revert => (.ok (), diffs.dropLast)

theorem PatchTool.withRoom_laws (room : Nat) : PatchTool.Laws (withRoom room) id where
  trial d diff diffs := rfl
  undo diff diffs diffs' _ heq _ := by
    have heq : diffs' = diffs ++ [diff] := heq
    rw [heq]
    exact List.dropLast_concat

namespace Trial

/-- The patch was taken back if the result says that the tree is clean. -/
theorem reverted_of_treeClean {x : Executor σ} {a : Applicator σ} {plan : Plan} {c : Candidate}
    {cancelled : Bool} {s : σ} {r : CandidateRun Float}
    (hr : (applied x a plan c cancelled s).outcome = .ok r) (hclean : r.treeClean = true) :
    let reverted := a.patch .revert c.patch.diff
      (x.runSteps plan Step.revalidated cancelled s).after
    reverted.answer = .ok () ∧ (applied x a plan c cancelled s).after = reverted.after := by
  intro reverted
  have ha : (applied x a plan c cancelled s).after = reverted.after := by
    unfold applied
    dsimp only
    split <;> rfl
  refine ⟨?_, ha⟩
  unfold applied at hr
  dsimp only at hr
  split at hr
  · cases hr
  · cases hr
  next hrev => exact hrev
  next =>
    cases hr
    cases hclean

section Visit

variable {x : Executor σ} {policy : GatePolicy} {c : Candidate} {cancelled : Bool} {s : σ}
  {r : CandidateRun Float}

/-- What is half done is reported as a patch that was never applied. -/
theorem treeClean_of_halfDone (laws : PatchTool.Laws invoke tree) {plan : Plan}
    (hg : policy.check c.patch = .ok ()) (hd : PatchTool.HalfDone invoke tree .apply c.patch.diff s)
    (hr : (validate x (PatchTool.applicator invoke) policy (some plan) c cancelled s).outcome =
      .ok r) :
    r.treeClean = true ∧
      tree (validate x (PatchTool.applicator invoke) policy (some plan) c cancelled s).after ≠
        tree s := by
  obtain ⟨e, he⟩ := hd.patch_fails
  rw [validate_of_patch_error hg (PatchTool.applicator_patch he)] at hr ⊢
  cases hr
  exact ⟨rfl, (PatchTool.tree_ne_iff_of_error laws he).mpr hd⟩

/-- Nothing else leaves another tree behind a result that says that the tree is clean. -/
theorem halfDone_of_treeClean (laws : PatchTool.Laws invoke tree)
    (hx : ∀ plan steps cancelled s, tree (x.runSteps plan steps cancelled s).after = tree s)
    {plan : Option Plan}
    (hr : (validate x (PatchTool.applicator invoke) policy plan c cancelled s).outcome = .ok r)
    (hclean : r.treeClean = true)
    (hne : tree (validate x (PatchTool.applicator invoke) policy plan c cancelled s).after ≠
      tree s) :
    policy.check c.patch = .ok () ∧ plan.isSome = true ∧
      PatchTool.HalfDone invoke tree .apply c.patch.diff s := by
  cases hg : policy.check c.patch with
  | error violation =>
    rw [validate_of_violation hg] at hne
    exact absurd rfl hne
  | ok u =>
  cases plan with
  | none =>
    simp only [validate, hg] at hne
    exact absurd rfl hne
  | some plan =>
  cases ht : (PatchTool.patch invoke .apply c.patch.diff s).1 with
  | error e =>
    rw [validate_of_patch_error hg (PatchTool.applicator_patch ht)] at hne
    exact ⟨rfl, rfl, (PatchTool.tree_ne_iff_of_error laws ht).mp hne⟩
  | ok u =>
    rw [validate_of_patch_ok hg (PatchTool.applicator_patch ht)] at hr hne
    obtain ⟨hrev, hafter⟩ := reverted_of_treeClean hr hclean
    rw [Course.since, hafter] at hne
    exact absurd (PatchTool.tree_undone laws ht (hx ..) hrev) hne

/-- A candidate that is not half done leaves the tree as it was if its result says so. -/
theorem validate_keeps_tree (laws : PatchTool.Laws invoke tree)
    (hx : ∀ plan steps cancelled s, tree (x.runSteps plan steps cancelled s).after = tree s)
    {plan : Option Plan}
    (hr : (validate x (PatchTool.applicator invoke) policy plan c cancelled s).outcome = .ok r)
    (hclean : r.treeClean = true)
    (hwhole : ¬ PatchTool.HalfDone invoke tree .apply c.patch.diff s) :
    tree (validate x (PatchTool.applicator invoke) policy plan c cancelled s).after = tree s := by
  refine Classical.byContradiction fun hne => ?_
  obtain ⟨-, -, hd⟩ := halfDone_of_treeClean laws hx hr hclean hne
  exact hwhole hd

end Visit

/-- A result that says the tree is clean is wrong exactly if the diff of a candidate that passes the
gate is half done. -/
theorem treeClean_wrong_iff (x : Executor σ) (laws : PatchTool.Laws invoke tree)
    (hx : ∀ plan steps cancelled s, tree (x.runSteps plan steps cancelled s).after = tree s)
    (policy : GatePolicy) (plan : Option Plan) (c : Candidate) (cancelled : Bool) (s : σ)
    (r : CandidateRun Float)
    (hr : (validate x (PatchTool.applicator invoke) policy plan c cancelled s).outcome = .ok r) :
    (r.treeClean = true ∧
      tree (validate x (PatchTool.applicator invoke) policy plan c cancelled s).after ≠ tree s) ↔
    policy.check c.patch = .ok () ∧ plan.isSome = true ∧
      PatchTool.HalfDone invoke tree .apply c.patch.diff s := by
  constructor
  · rintro ⟨hclean, hne⟩
    exact halfDone_of_treeClean laws hx hr hclean hne
  · rintro ⟨hg, hplan, hd⟩
    obtain ⟨plan, rfl⟩ := Option.isSome_iff_exists.mp hplan
    exact treeClean_of_halfDone laws hg hd hr

/-- A diff that does not fit is half done, and the result says that the tree is clean. -/
theorem treeClean_wrong_no_room :
    let idle : Executor (List String) := ⟨fun _ _ _ s => ⟨.ok .nothing, [], false, s⟩⟩
    let tool : Applicator (List String) := PatchTool.applicator (PatchTool.withRoom 0)
    let c : Candidate := ⟨{ id := "a" }, .ofDiff "+x"⟩
    let plan : Plan := .ofDetection {} .strict
    ∃ r, (validate idle tool {} (some plan) c false []).outcome = .ok r ∧ r.treeClean = true ∧
      (validate idle tool {} (some plan) c false []).after ≠ [] := by
  dsimp only
  refine ⟨_, rfl, ?_⟩
  exact (treeClean_wrong_iff _ (PatchTool.withRoom_laws 0) (fun _ _ _ _ => rfl) {}
    (some (.ofDetection {} .strict)) ⟨{ id := "a" }, .ofDiff "+x"⟩ false [] _ rfl).mpr
    ⟨rfl, rfl, rfl, rfl, ⟨_, rfl⟩, List.cons_ne_nil _ _⟩

/-- So a result cannot be trusted that says the tree is clean, whatever laws the tool keeps. -/
theorem not_treeClean_trusted :
    ¬ ∀ (invoke : PatchTool.Invoke (List String)) (x : Executor (List String)) (policy : GatePolicy)
        (plan : Option Plan) (c : Candidate) (cancelled : Bool) (s : List String)
        (r : CandidateRun Float), PatchTool.Laws invoke id →
      (∀ plan steps cancelled s, (x.runSteps plan steps cancelled s).after = s) →
      (validate x (PatchTool.applicator invoke) policy plan c cancelled s).outcome = .ok r →
      r.treeClean = true →
      (validate x (PatchTool.applicator invoke) policy plan c cancelled s).after = s := by
  intro h
  have hs := h (PatchTool.withRoom 0) ⟨fun _ _ _ s => ⟨.ok .nothing, [], false, s⟩⟩ {}
    (some (.ofDetection {} .strict)) ⟨{ id := "a" }, .ofDiff "+x"⟩ false [] _
    (PatchTool.withRoom_laws 0) (fun _ _ _ _ => rfl) rfl rfl
  cases hs

end Trial

/-! ### Whole runs -/

namespace Run

variable {x : Executor σ}

/-- The candidates are tried on the tree that was there at first, and it is there at the end. -/
theorem tryAll_keeps_tree (laws : PatchTool.Laws invoke tree)
    (hx : ∀ plan steps cancelled s, tree (x.runSteps plan steps cancelled s).after = tree s)
    (config : Config) (baseline : Baseline) (cs : List Candidate) (cancelled : Bool) (s : σ)
    {t : Trials}
    (hwhole : ∀ c ∈ cs, ∀ s', tree s' = tree s →
      ¬ PatchTool.HalfDone invoke tree .apply c.patch.diff s')
    (ht : (tryAll x (PatchTool.applicator invoke) config baseline cs false cancelled s).outcome =
      .ok t)
    (hclean : t.treeDirty = false) :
    tree (tryAll x (PatchTool.applicator invoke) config baseline cs false cancelled s).after =
      tree s := by
  induction cs generalizing cancelled s t with
  | nil => rfl
  | cons c cs ih =>
    unfold tryAll at ht ⊢
    split
    · rfl
    next hk =>
    rw [if_neg hk] at ht
    obtain ⟨result, hv, hrest⟩ := Course.of_andThen_ok ht
    rw [Course.andThen_of_ok hv]
    generalize hc : Trial.validate x (PatchTool.applicator invoke) config.gate
      baseline.finalPlan? c cancelled s = tried at hv hrest ⊢
    cases hr : result.treeClean with
    | false =>
      rw [hr, Bool.not_false, tryAll_dirty] at hrest
      cases hrest
      cases hclean
    | true =>
      have hsame : tree tried.after = tree s := by
        subst hc
        exact Trial.validate_keeps_tree laws hx hv hr (hwhole c List.mem_cons_self s rfl)
      simp only [hr, Bool.not_true, Course.since_outcome] at hrest
      obtain ⟨t', ht', rfl⟩ := Course.of_map_ok hrest
      rw [← hsame]
      refine ih tried.cancelled tried.after ?_ ht' hclean
      intro c' hc' s' hs'
      exact hwhole c' (List.mem_cons_of_mem _ hc') s' (hs'.trans hsame)

theorem withApplicator_keeps_tree (laws : PatchTool.Laws invoke tree)
    (hx : ∀ plan steps cancelled s, tree (x.runSteps plan steps cancelled s).after = tree s)
    (config : Config) (registry : Registry) (stamp : RunStamp) (d : Detection)
    (settings : Settings) (cs : List Candidate) (cancelled : Bool) (s : σ) {r : Report}
    (hwhole : ∀ c ∈ cs, ∀ s', tree s' = tree s →
      ¬ PatchTool.HalfDone invoke tree .apply c.patch.diff s')
    (hr : (withApplicator x (PatchTool.applicator invoke) config registry stamp d settings cs
      cancelled s).outcome = .ok r)
    (hclean : r.treeDirty = false) :
    tree (withApplicator x (PatchTool.applicator invoke) config registry stamp d settings cs
      cancelled s).after = tree s := by
  have hself : x.Alike (fun t s' => t = s' ∧ tree t = tree s) x := by
    rintro plan steps cancelled t _ ⟨rfl, ht⟩
    exact ⟨rfl, rfl, rfl, rfl, (hx plan steps cancelled t).trans ht⟩
  have hbase := (Baseline.establish_alike hself registry config.excerptBytes.toNat d settings
    cancelled ⟨rfl, rfl⟩).after.2
  unfold withApplicator at hr ⊢
  generalize Baseline.establish x registry config.excerptBytes.toNat d settings cancelled s = tried
    at hbase hr ⊢
  obtain ⟨b, hb, hrest⟩ := Course.of_andThen_ok hr
  rw [Course.andThen_of_ok hb]
  obtain ⟨t, ht, hlast⟩ := Course.of_andThen_ok hrest
  cases hlast
  rw [Course.andThen_of_ok ht]
  cases hs : b.run.succeeded with
  | false => exact hbase
  | true =>
    rw [hs] at ht
    rw [← hbase]
    refine tryAll_keeps_tree laws hx config b cs tried.cancelled tried.after ?_ ht hclean
    intro c hc s' hs'
    exact hwhole c hc s' (hs'.trans hbase)

/-- A run that leaves no candidate half done ends on the tree that it began on, unless its report
says that the tree is dirty. -/
theorem execute_keeps_tree (laws : PatchTool.Laws invoke tree)
    (hx : ∀ plan steps cancelled s, tree (x.runSteps plan steps cancelled s).after = tree s)
    {find : σ → Except PatchError (Applicator σ) × σ}
    (hfind : ∀ s, tree (find s).2 = tree s ∧
      ∀ a, (find s).1 = .ok a → a = PatchTool.applicator invoke)
    (config : Config) (registry : Registry) (stamp : RunStamp) (d : Detection)
    (settings : Settings) (cs : List Candidate) (cancelled : Bool) (s : σ) {r : Report}
    (hwhole : ∀ c ∈ cs, ∀ s', tree s' = tree s →
      ¬ PatchTool.HalfDone invoke tree .apply c.patch.diff s')
    (hr : (execute ⟨x, find⟩ config registry stamp d settings cs cancelled s).outcome =
      .ok (.ok r))
    (hclean : r.treeDirty = false) :
    tree (execute ⟨x, find⟩ config registry stamp d settings cs cancelled s).after = tree s := by
  obtain ⟨hs, hfound⟩ := hfind s
  unfold execute at hr ⊢
  dsimp only at hr ⊢
  generalize (find s).1 = found at hfound hr ⊢
  generalize (find s).2 = s' at hs hr ⊢
  cases found with
  | error e => cases hr
  | ok a =>
  cases hfound a rfl
  dsimp only at hr ⊢
  rw [Course.since_outcome] at hr
  obtain ⟨r', hr', heq⟩ := Course.of_map_ok hr
  cases heq
  rw [← hs]
  refine withApplicator_keeps_tree laws hx config registry stamp d settings cs cancelled s' ?_ hr'
    hclean
  intro c hc s'' hs''
  exact hwhole c hc s'' (hs''.trans hs)

end Run

end PatchTrial
