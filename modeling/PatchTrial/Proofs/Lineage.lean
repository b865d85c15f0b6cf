import Mathlib.Data.List.Nodup
import PatchTrial.Proofs.Revision

/-!
# Lines of revised plans

A line of plans starts with the strict plan; each plan after it answers a failure of the one
before. The notes of a plan list the reasons answered so far, and no reason is answered twice, so
a line is no longer than the list of reasons that the ecosystem has a remedy for.
-/
namespace PatchTrial

/-! ### Reading the notes back -/

theorem filterMap_string?_map (names : List String) :
    (names.map Json.string).filterMap Json.string? = names := by
  rw [List.filterMap_map]
  exact List.filterMap_some

namespace Ecosystem

variable {e : Ecosystem} {d : Detection} {p q : Plan} {f : Failure} {fs : List Failure}
  {qs : List Plan}

/-- A revised plan has answered one reason more than the plan before it. -/
theorem Revises.appliedRemediations_eq (h : e.Revises p f q) :
    q.appliedRemediations = p.appliedRemediations ++ [f.reason.name] := by
  obtain ⟨remedy, hnotes⟩ := h.metadata_eq
  rw [Plan.appliedRemediations, hnotes]
  exact filterMap_string?_map _

/-! ### Lines -/

/-- The plans that answer one failure after another, if there is one for each of them. -/
def revisedPlans? (e : Ecosystem) (d : Detection) : Plan → List Failure → Option (List Plan)
  | _, [] => some []
  | p, f :: fs =>
    match e.revisedPlan? d p f with
    | none => none
    | some q => (revisedPlans? e d q fs).map (q :: ·)

theorem revisedPlans?_cons (h : e.revisedPlans? d p (f :: fs) = some qs) :
    ∃ q rest, qs = q :: rest ∧ e.Revises p f q ∧ e.revisedPlan? d p f = some q ∧
      e.revisedPlans? d q fs = some rest := by
  rw [revisedPlans?] at h
  split at h
  · cases h
  next q hq =>
  obtain ⟨rest, hrest, rfl⟩ := Option.map_eq_some_iff.mp h
  exact ⟨q, rest, rfl, revises_of_revisedPlan? hq, hq, hrest⟩

theorem revisedPlans?_length (h : e.revisedPlans? d p fs = some qs) : qs.length = fs.length := by
  induction fs generalizing p qs with
  | nil =>
    cases h
    rfl
  | cons f fs ih =>
    obtain ⟨q, rest, rfl, -, -, hrest⟩ := revisedPlans?_cons h
    exact congrArg (· + 1) (ih hrest)

/-- Each plan of a line revises the one before it, after which the failures so far are answered. -/
theorem revisedPlans?_get (h : e.revisedPlans? d p fs = some qs) {k : Nat} (hf : fs[k]? = some f)
    (hq : qs[k]? = some q) :
    ∃ previous, e.Revises previous f q ∧ previous.attempt = p.attempt + UInt32.ofNat k ∧
      previous.appliedRemediations =
        p.appliedRemediations ++ (fs.take k).map (·.reason.name) := by
  induction fs generalizing p qs k with
  | nil => cases hf
  | cons first fs ih =>
    obtain ⟨next, rest, rfl, hnext, -, hrest⟩ := revisedPlans?_cons h
    cases k with
    | zero =>
      cases hf
      cases hq
      exact ⟨p, hnext, (UInt32.add_zero _).symm, (List.append_nil _).symm⟩
    | succ k =>
      obtain ⟨previous, hprev, hattempt, happlied⟩ := ih hrest hf hq
      refine ⟨previous, hprev, ?_, ?_⟩
      · rw [hattempt, hnext.attempt_eq, UInt32.ofNat_add, UInt32.add_assoc,
          UInt32.add_comm (UInt32.ofNat k)]
        rfl
      · rw [happlied, hnext.appliedRemediations_eq, List.append_assoc]
        rfl

/-- The reasons answered before a line and those answered in it are all different. -/
theorem revisedPlans?_nodup (h : e.revisedPlans? d p fs = some qs)
    (hp : p.appliedRemediations.Nodup) :
    (p.appliedRemediations ++ fs.map (·.reason.name)).Nodup := by
  induction fs generalizing p qs with
  | nil => rwa [List.map_nil, List.append_nil]
  | cons f fs ih =>
    obtain ⟨q, rest, -, hq, -, hrest⟩ := revisedPlans?_cons h
    have hnodup : q.appliedRemediations.Nodup := by
      rw [hq.appliedRemediations_eq, List.nodup_append]
      refine ⟨hp, List.pairwise_singleton _ _, ?_⟩
      rintro name hname _ hf rfl
      exact hq.new_reason (List.mem_singleton.mp hf ▸ hname)
    have hall := ih hrest hnodup
    rwa [hq.appliedRemediations_eq, List.append_assoc] at hall

/-! ### Reasons with a remedy -/

/-- The reasons that an ecosystem has a remedy for. -/
def answered : Ecosystem → List Reason
  | .node => [.lockfileDrift, .oom, .concurrencyOom, .missingDevDependencies, .engineMismatch]
  | .python => [.missingDevDependencies, .commandNotFound, .lockfileDrift, .concurrencyOom]
  | .go => [.oom, .concurrencyOom, .lockfileDrift]
  | .jvm => [.wrapperMissing, .oom, .concurrencyOom]
  | .ruby => [.lockfileDrift, .missingDevDependencies, .commandNotFound]
  | .rust => [.lockfileDrift, .oom, .concurrencyOom]
  | .cpp => [.oom, .concurrencyOom]
  | .generic => []

theorem nodup_answered (e : Ecosystem) : e.answered.Nodup := by
  cases e <;> decide

theorem mem_answered_of_remedy? {r : Reason} (h : (e.remedy? d p r).isSome = true) :
    r ∈ e.answered := by
  cases e <;> cases r <;> first | decide | cases h

/-- A repository for which an ecosystem has all its remedies. -/
def remediable (e : Ecosystem) : Detection where
  packageManager := if e = .python then some "poetry" else none
  commands := {
    install := some "npm ci"
    build := some "./gradlew build --locked"
    typecheck := none
    test := some "pytest -n 4"
    bench := none }

theorem revisedPlan?_isSome_of_mem_answered {r : Reason} (h : r ∈ e.answered) :
    (e.revisedPlan? e.remediable (e.strictPlan e.remediable) ⟨"test", r, "", ""⟩).isSome =
      true := by
  revert r
  cases e <;> decide +kernel

/-- These are the reasons that some plan is revised for. -/
theorem mem_answered_iff {r : Reason} :
    r ∈ e.answered ↔ ∃ d p f q, f.reason = r ∧ e.revisedPlan? d p f = some q := by
  constructor
  · intro h
    obtain ⟨q, hq⟩ := Option.isSome_iff_exists.mp (revisedPlan?_isSome_of_mem_answered h)
    exact ⟨_, _, _, q, rfl, hq⟩
  · rintro ⟨d, p, f, q, rfl, hq⟩
    obtain ⟨-, q', remedy, hr, -, -⟩ := revisedPlan?_eq_some_iff.mp hq
    exact mem_answered_of_remedy? (Option.isSome_of_eq_some hr)

/-! ### What a line tells of itself -/

/-- A plan that answers failure `f` after the reasons of `fs`, as its notes tell. -/
structure Answers (e : Ecosystem) (fs : List Failure) (f : Failure) (q : Plan) : Prop where
  attempt_eq : q.attempt.toNat = fs.length + 2
  mode_eq : q.mode = .adaptive
  applied_eq : q.appliedRemediations = (fs ++ [f]).map (·.reason.name)
  adapter_eq : q.metadata.field? "adapter" = some (.string e.name)
  reason_eq : q.metadata.field? "reason" = some (.string f.reason.name)
  step_eq : q.metadata.field? "failed_step" = some (.string f.step)
  previous_eq : q.metadata.field? "previous_attempt" = some (Json.nat (fs.length + 1))

theorem Revises.answers (h : e.Revises p f q) {before : List Failure}
    (ha : p.attempt = 1 + UInt32.ofNat before.length) (hb : before.length ≤ 12)
    (hp : p.appliedRemediations = before.map (·.reason.name)) : e.Answers before f q := by
  have hlen : p.attempt.toNat = before.length + 1 := by
    rw [ha, UInt32.toNat_add, UInt32.toNat_ofNat', UInt32.toNat_one]
    omega
  obtain ⟨remedy, hnotes⟩ := h.metadata_eq
  refine ⟨?_, h.mode_eq, ?_, ?_, ?_, ?_, ?_⟩
  · rw [h.attempt_eq, UInt32.toNat_add, UInt32.toNat_one, hlen]
    omega
  · rw [h.appliedRemediations_eq, hp, List.map_append]
    rfl
  all_goals rw [hnotes]
  · rfl
  · rfl
  · rfl
  · rw [← hlen]
    rfl

theorem appliedRemediations_strictPlan (e : Ecosystem) (d : Detection) :
    (e.strictPlan d).appliedRemediations = [] := rfl

/-- The reasons of a line that starts with a strict plan are all different. -/
theorem nodup_reasons (h : e.revisedPlans? d (e.strictPlan d) fs = some qs) :
    (fs.map Failure.reason).Nodup := by
  have hnodup := revisedPlans?_nodup h List.Pairwise.nil
  rw [appliedRemediations_strictPlan, List.nil_append] at hnodup
  refine List.Nodup.of_map Reason.name ?_
  rwa [List.map_map]

/-- Every reason of a line has a remedy. -/
theorem reasons_subset (h : e.revisedPlans? d p fs = some qs) :
    fs.map Failure.reason ⊆ e.answered := by
  induction fs generalizing p qs with
  | nil => exact List.nil_subset _
  | cons f fs ih =>
    obtain ⟨q, rest, -, -, hq, hrest⟩ := revisedPlans?_cons h
    exact List.cons_subset.mpr ⟨mem_answered_iff.mpr ⟨d, p, f, q, rfl, hq⟩, ih hrest⟩

theorem length_le_answered (h : e.revisedPlans? d (e.strictPlan d) fs = some qs) :
    fs.length ≤ e.answered.length := by
  have hle := (nodup_reasons h).length_le_of_subset (reasons_subset h)
  rwa [List.length_map] at hle

theorem length_answered_le (e : Ecosystem) : e.answered.length ≤ 12 := by
  cases e <;> decide

/-- In a line that starts with a strict plan no reason is answered twice, and each plan tells which
failure it answers, after which attempt and which reasons. So a line is no longer than the list of
reasons that the ecosystem ever revises a plan for, whatever the budget. -/
theorem lineage (e : Ecosystem) (d : Detection) (fs : List Failure) (qs : List Plan)
    (h : e.revisedPlans? d (e.strictPlan d) fs = some qs) :
    (fs.map Failure.reason).Nodup ∧ qs.length = fs.length ∧
      (∀ k f q, fs[k]? = some f → qs[k]? = some q → e.Answers (fs.take k) f q) ∧
      fs.length ≤ e.answered.length ∧ e.answered.Nodup ∧
      ∀ r, r ∈ e.answered ↔ ∃ d p f q, f.reason = r ∧ e.revisedPlan? d p f = some q := by
  have hle := length_le_answered h
  refine ⟨nodup_reasons h, revisedPlans?_length h, ?_, hle, e.nodup_answered,
    fun r => mem_answered_iff⟩
  intro k f q hf hq
  obtain ⟨previous, hprev, hattempt, happlied⟩ := revisedPlans?_get h hf hq
  obtain ⟨hk, -⟩ := List.getElem?_eq_some_iff.mp hf
  have hlen : (fs.take k).length = k := List.length_take_of_le (Nat.le_of_lt hk)
  refine hprev.answers ?_ ?_ happlied
  · rw [hattempt, hlen]
    rfl
  · have := e.length_answered_le
    omega

/-- Cargo runs out of memory and then finds its lock file outdated. -/
theorem lineage_cargo :
    let d : Detection := { language := .rust, commands :=
      { PerStep.const none with test := some "cargo test --locked" } }
    let fs : List Failure := [⟨"test", .concurrencyOom, "", ""⟩, ⟨"test", .lockfileDrift, "", ""⟩]
    ∃ first second, rust.revisedPlans? d (rust.strictPlan d) fs = some [first, second] ∧
      second.command .test = some "cargo test -- --test-threads=1" ∧
      rust.Answers (fs.take 1) ⟨"test", .lockfileDrift, "", ""⟩ second ∧
      (fs.map Failure.reason).Nodup ∧ fs.length ≤ rust.answered.length := by
  intro d fs
  obtain ⟨first, second, hline, hcommand⟩ : ∃ first second,
      rust.revisedPlans? d (rust.strictPlan d) fs = some [first, second] ∧
        second.command .test = some "cargo test -- --test-threads=1" :=
    ⟨_, _, rfl, by decide +kernel⟩
  obtain ⟨hnodup, -, hall, hle, -, -⟩ := lineage rust d fs [first, second] hline
  exact ⟨first, second, hline, hcommand, hall 1 _ second rfl rfl, hnodup, hle⟩

end Ecosystem

end PatchTrial
