import PatchTrial.Proofs.Environments
import PatchTrial.Proofs.Lineage

/-!
# What accumulates along a line of plans

A line is followed reason by reason. The variables that its plans set come from the reasons
answered so far, an ecosystem never assigns two values to one variable, so no value is lost. If the
environments are the same at two places of a line, no remedy in between added a variable; one that
always sets some then finds it set, by the one other reason that has the same remedy.
-/
namespace PatchTrial

namespace Plan

theorem sameExecution_iff {p q : Plan} :
    p.sameExecution q = true ↔ (∀ s, p.command s = q.command s) ∧ p.env = q.env := by
  simp only [sameExecution, Bool.and_eq_true, List.all_eq_true, decide_eq_true_eq]
  exact and_congr_left fun _ => ⟨fun h s => h s s.mem_all, fun h s _ => h s⟩

end Plan

namespace Ecosystem

variable {e : Ecosystem} {d : Detection} {p q : Plan} {r r' : Reason} {rs before : List Reason}
  {s : Step} {key value : String}

/-! ### Tables -/

/-- The other reason that has the same remedy. -/
def twin? : Ecosystem → Reason → Option Reason
  | .node, .oom | .go, .oom | .jvm, .oom | .rust, .oom | .cpp, .oom => some .concurrencyOom
  | .node, .concurrencyOom | .go, .concurrencyOom | .jvm, .concurrencyOom
  | .rust, .concurrencyOom | .cpp, .concurrencyOom => some .oom
  | .python, .missingDevDependencies | .ruby, .missingDevDependencies => some .commandNotFound
  | .python, .commandNotFound | .ruby, .commandNotFound => some .missingDevDependencies
  | _, _ => none

/-- No variable is assigned two values. -/
theorem assigned_agree {value' : String} (h : (key, value) ∈ e.assigned r)
    (h' : (key, value') ∈ e.assigned r') : value' = value := by
  have hall : ∀ r ∈ Reason.all, ∀ r' ∈ Reason.all, ∀ x ∈ e.assigned r, ∀ y ∈ e.assigned r',
      x.1 = y.1 → y.2 = x.2 := by
    cases e <;> decide +kernel
  exact hall r r.mem_all r' r'.mem_all _ h _ h' rfl

/-- Only twins assign the same variable. -/
theorem twin?_of_assigned (h : (key, value) ∈ e.assigned r) (h' : (key, value) ∈ e.assigned r') :
    r' = r ∨ e.twin? r = some r' := by
  have hall : ∀ r ∈ Reason.all, ∀ r' ∈ Reason.all, ∀ x ∈ e.assigned r, x ∈ e.assigned r' →
      r' = r ∨ e.twin? r = some r' := by
    cases e <;> decide +kernel
  exact hall r r.mem_all r' r'.mem_all _ h h'

/-- An ecosystem has a single pair of twins. -/
theorem twin?_unique {r₁ r₁' : Reason} (h : e.twin? r = some r') (h₁ : e.twin? r₁ = some r₁') :
    r₁ = r ∨ r₁ = r' := by
  cases e <;> cases r <;> cases h <;> cases r₁ <;> first | exact Or.inl rfl | exact Or.inr rfl |
    cases h₁

/-! ### Lines -/

/-- Plan `q` answers reason `r` after plan `p`. -/
structure Follows (e : Ecosystem) (d : Detection) (p : Plan) (r : Reason) (q : Plan) : Prop where
  remedied : ∃ q' t, e.remedy? d p.revise r = some (q', t) ∧
    (∀ s, q.command s = q'.command s) ∧ q.env = q'.env
  changed : q.sameExecution p = false

/-- From one plan to another, step by step, for one reason after the other. -/
inductive Line (R : Plan → Reason → Plan → Prop) : Plan → List Reason → Plan → Prop
  | nil (p : Plan) : Line R p [] p
  | cons {p next q : Plan} {r : Reason} {rs : List Reason} (h : R p r next)
      (rest : Line R next rs q) : Line R p (r :: rs) q

theorem follows_of_revisedPlan? {f : Failure} (h : e.revisedPlan? d p f = some q) :
    e.Follows d p f.reason q := by
  obtain ⟨-, q', remedy, hr, hsame, rfl⟩ := revisedPlan?_eq_some_iff.mp h
  exact ⟨⟨q', remedy, hr, fun _ => rfl, rfl⟩, hsame⟩

theorem line_of_revisedPlans? {fs : List Failure} {qs : List Plan} {n : Nat}
    (h : e.revisedPlans? d p fs = some qs) (hq : (p :: qs)[n]? = some q) :
    Line (e.Follows d) p ((fs.take n).map Failure.reason) q := by
  induction n generalizing p fs qs with
  | zero =>
    cases hq
    exact .nil _
  | succ n ih =>
    cases fs with
    | nil =>
      cases h
      cases hq
    | cons f fs =>
      obtain ⟨next, rest, rfl, -, hnext, hrest⟩ := revisedPlans?_cons h
      exact .cons (follows_of_revisedPlan? hnext) (ih hrest hq)

theorem revisedPlans?_drop {fs : List Failure} {qs : List Plan} {n : Nat}
    (h : e.revisedPlans? d p fs = some qs) (hq : (p :: qs)[n]? = some q) :
    e.revisedPlans? d q (fs.drop n) = some (qs.drop n) := by
  induction n generalizing p fs qs with
  | zero =>
    cases hq
    exact h
  | succ n ih =>
    cases fs with
    | nil =>
      cases h
      cases hq
    | cons f fs =>
      obtain ⟨next, rest, rfl, -, -, hrest⟩ := revisedPlans?_cons h
      exact ih hrest hq

/-! ### Variables -/

section Variables

theorem Follows.mem_assigned (h : e.Follows d p r q) (hq : q.envValue? s key = some value) :
    p.envValue? s key = some value ∨ (key, value) ∈ e.assigned r := by
  obtain ⟨q', t, hr, -, henv⟩ := h.remedied
  rw [Plan.envValue?, henv] at hq
  exact (remedy?_edits hr).mem_assigned hq

/-- The values that the reasons answered so far assign. -/
def Known (e : Ecosystem) (before : List Reason) (p : Plan) : Prop :=
  ∀ s key value, p.envValue? s key = some value → ∃ r ∈ before, (key, value) ∈ e.assigned r

theorem known_strictPlan (e : Ecosystem) (d : Detection) : e.Known [] (e.strictPlan d) := by
  intro s key value h
  have hnone : (e.strictPlan d).env.get s = none := PerStep.get_const none s
  rw [Plan.envValue?, hnone] at h
  cases h

theorem Known.follows (hp : e.Known before p) (h : e.Follows d p r q) :
    e.Known (before ++ [r]) q := by
  intro s key value hq
  rcases h.mem_assigned hq with hp' | hr
  · obtain ⟨r', hmem, hassigned⟩ := hp s key value hp'
    exact ⟨r', List.mem_append_left _ hmem, hassigned⟩
  · exact ⟨r, List.mem_append_right _ List.mem_cons_self, hr⟩

theorem Known.line (hp : e.Known before p) (h : Line (e.Follows d) p rs q) :
    e.Known (before ++ rs) q := by
  induction h generalizing before with
  | nil p => rwa [List.append_nil]
  | @cons p next q r rs h _ ih =>
    rw [← List.singleton_append, ← List.append_assoc]
    exact ih (hp.follows h)

theorem Follows.keeps (h : e.Follows d p r q) (hk : e.Known before p)
    (hp : p.envValue? s key = some value) : q.envValue? s key = some value := by
  obtain ⟨q', t, hr, -, henv⟩ := h.remedied
  obtain ⟨r', -, hassigned⟩ := hk s key value hp
  rw [Plan.envValue?, henv]
  exact (remedy?_edits hr).keeps hp fun value' hv => assigned_agree hassigned hv

/-- Along a line no variable loses its value. -/
theorem Line.keeps (h : Line (e.Follows d) p rs q) (hk : e.Known before p)
    (hp : p.envValue? s key = some value) : q.envValue? s key = some value := by
  induction h generalizing before with
  | nil p => exact hp
  | cons h _ ih => exact ih (hk.follows h) (h.keeps hk hp)

/-- A step that leads to a place where the environments are as before leaves them alone. -/
theorem Follows.env_eq {next : Plan} (h : e.Follows d p r next)
    (rest : Line (e.Follows d) next rs q) (hk : e.Known before p) (henv : q.env = p.env) :
    next.env = p.env := by
  obtain ⟨q', t, hr, -, henv'⟩ := h.remedied
  have hcases := (remedy?_edits hr).env_cases
    (fun s key value value' hp hv => by
      obtain ⟨r', -, hassigned⟩ := hk s key value hp
      exact assigned_agree hassigned hv)
    (fun key value value' => assigned_agree)
  rw [henv']
  refine hcases.resolve_right ?_
  rintro ⟨s, key, hnone, hsome⟩
  obtain ⟨value, hvalue⟩ := Option.isSome_iff_exists.mp hsome
  rw [Plan.envValue?, ← henv'] at hvalue
  have hend := rest.keeps (hk.follows h) hvalue
  rw [Plan.envValue?, henv] at hend
  cases hnone.symm.trans hend

end Variables

/-! ### Places with the same environments -/

/-- The remedy for a reason sets a variable whenever it changes anything. -/
def Marks (e : Ecosystem) (d : Detection) (r : Reason) : Prop :=
  ∀ p q t, e.remedy? d p r = some (q, t) → q.sameExecution p = true ∨
    ∃ s key value, (key, value) ∈ e.assigned r ∧ q.envValue? s key = some value

/-- A step that leaves the environments alone. Its reason has a twin if its remedy sets a
variable. -/
structure Quiet (e : Ecosystem) (d : Detection) (p : Plan) (r : Reason) (q : Plan) : Prop
    extends e.Follows d p r q where
  env_eq : q.env = p.env
  twin : e.Marks d r → ∃ r', e.twin? r = some r'

/-- A remedy that sets a variable and adds none finds it set for the twin of its reason. -/
theorem Follows.exists_twin (h : e.Follows d p r q) (hk : e.Known before p) (hr : r ∉ before)
    (henv : q.env = p.env) (hm : e.Marks d r) : ∃ r' ∈ before, e.twin? r = some r' := by
  obtain ⟨q', t, hremedy, hcommand, henv'⟩ := h.remedied
  rcases hm p.revise q' t hremedy with hsame | ⟨s, key, value, hassigned, hvalue⟩
  · have hq : q.sameExecution p = true := by
      rw [Plan.sameExecution_iff] at hsame ⊢
      simp only [hcommand, henv']
      exact hsame
    cases h.changed.symm.trans hq
  · rw [Plan.envValue?, ← henv', henv] at hvalue
    obtain ⟨r', hmem, hassigned'⟩ := hk s key value hvalue
    refine ⟨r', hmem, (twin?_of_assigned hassigned hassigned').resolve_left ?_⟩
    rintro rfl
    exact hr hmem

theorem Line.quiet (h : Line (e.Follows d) p rs q) (hk : e.Known before p)
    (hnodup : (before ++ rs).Nodup) (henv : q.env = p.env) : Line (e.Quiet d) p rs q := by
  induction h generalizing before with
  | nil p => exact .nil p
  | @cons p next q r rs h rest ih =>
    have hnext := h.env_eq rest hk henv
    have hr : r ∉ before := fun hmem =>
      (List.nodup_append.mp hnodup).2.2 r hmem r List.mem_cons_self rfl
    refine .cons ⟨h, hnext, fun hm => ?_⟩ ?_
    · obtain ⟨r', -, htwin⟩ := h.exists_twin hk hr hnext hm
      exact ⟨r', htwin⟩
    · refine ih (hk.follows h) ?_ (henv.trans hnext.symm)
      rwa [List.append_assoc, List.singleton_append]

section Marked

variable {R : Plan → Reason → Plan → Prop} {α : Type} {mark : Plan → α} {once : Reason}

theorem Line.eq_of_not_mem (hother : ∀ p r q, R p r q → r ≠ once → mark q = mark p)
    (h : Line R p rs q) (hmem : once ∉ rs) : mark q = mark p := by
  induction h with
  | nil p => rfl
  | cons h _ ih =>
    simp only [List.mem_cons, not_or] at hmem
    exact (ih hmem.2).trans (hother _ _ _ h (Ne.symm hmem.1))

/-- What one step changes and no other is changed at the end of the line. -/
theorem Line.ne_of_mem (honce : ∀ p q, R p once q → mark q ≠ mark p)
    (hother : ∀ p r q, R p r q → r ≠ once → mark q = mark p)
    (h : Line R p rs q) (hnodup : rs.Nodup) (hmem : once ∈ rs) : mark q ≠ mark p := by
  induction h with
  | nil p => cases hmem
  | @cons p next q r rs h rest ih =>
    obtain ⟨hr, hrs⟩ := List.nodup_cons.mp hnodup
    rcases List.mem_cons.mp hmem with rfl | hmem
    · rw [rest.eq_of_not_mem hother hr]
      exact honce _ _ h
    · have hne : r ≠ once := by
        rintro rfl
        exact hr hmem
      rw [← hother _ _ _ h hne]
      exact ih hrs hmem

end Marked

/-- Only a single reason may be answered without setting a variable, and it changes what no other
quiet step changes: then no plan runs what an earlier one of the line ran. -/
theorem Line.changed_of_mark {α : Type} (mark : Plan → α) (once : Reason)
    (hmark : ∀ p q, q.sameExecution p = true → mark q = mark p)
    (honce : ∀ p q, e.Quiet d p once q → mark q ≠ mark p)
    (hother : ∀ p r q, e.Quiet d p r q → r ≠ once → mark q = mark p ∧ e.Marks d r)
    (h : Line (e.Follows d) p rs q) (hk : e.Known before p) (hnodup : (before ++ rs).Nodup)
    (hne : rs ≠ []) : q.sameExecution p = false := by
  refine Bool.eq_false_iff.mpr fun hsame => ?_
  have henv : q.env = p.env := (Plan.sameExecution_iff.mp hsame).2
  have hquiet := h.quiet hk hnodup henv
  have hrs : rs.Nodup := (List.nodup_append.mp hnodup).2.1
  by_cases hmem : once ∈ rs
  · exact hquiet.ne_of_mem honce (fun p r q h hr => (hother p r q h hr).1) hrs hmem
      (hmark p q hsame)
  cases hquiet with
  | nil p => exact hne rfl
  | @cons p next q r rs hq rest =>
  cases rest with
  | nil p => exact Bool.false_ne_true (hq.changed.symm.trans hsame)
  | @cons next next' q r₁ rs hq₁ rest =>
  -- The first two reasons would be twins of each other, and the first found the second answered.
  simp only [List.mem_cons, not_or] at hmem
  have hm := (hother _ _ _ hq (Ne.symm hmem.1)).2
  obtain ⟨r₁', htwin₁⟩ := hq₁.twin (hother _ _ _ hq₁ (Ne.symm hmem.2.1)).2
  have hr : r ∉ before := fun hmem =>
    (List.nodup_append.mp hnodup).2.2 r hmem r List.mem_cons_self rfl
  obtain ⟨r', hbefore, htwin⟩ := hq.toFollows.exists_twin hk hr hq.env_eq hm
  rcases twin?_unique htwin htwin₁ with rfl | rfl
  · exact (List.nodup_cons.mp hrs).1 List.mem_cons_self
  · exact (List.nodup_append.mp hnodup).2.2 _ hbefore _
      (List.mem_cons_of_mem _ List.mem_cons_self) rfl

end Ecosystem

end PatchTrial
