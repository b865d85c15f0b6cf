import PatchTrial.Proofs.Repeats
import PatchTrial.Proofs.Treatments

/-!
# Two reasons with one remedy

A plan that was revised for a reason is not revised for another one with the same remedy: all that
the remedy does is in place. Only Python's tests are the exception, for a test command that starts
pytest by its name is rewritten a second time.

Main statement: `answered_again_iff`.
-/
namespace PatchTrial

open Command

namespace Ecosystem

variable {e : Ecosystem} {d : Detection} {p q q' : Plan} {r r' : Reason} {f f' : Failure}

/-! ### Twins -/

theorem remedy?_twin (htwin : e.twin? r = some r') (d : Detection) (p : Plan) :
    e.remedy? d p r' = e.remedy? d p r := by
  cases e <;> cases r <;> cases htwin <;> rfl

/-- What is said about a remedy tells it apart from the others of an ecosystem. -/
theorem twin?_of_text (hr : r ∈ e.answered) (hne : r' ≠ r)
    (htext : (e.remedy? e.remediable (e.strictPlan e.remediable) r').map Prod.snd =
      (e.remedy? e.remediable (e.strictPlan e.remediable) r).map Prod.snd) :
    e.twin? r = some r' := by
  have hall : ∀ r ∈ e.answered, ∀ r' ∈ Reason.all,
      (e.remedy? e.remediable (e.strictPlan e.remediable) r').map Prod.snd =
        (e.remedy? e.remediable (e.strictPlan e.remediable) r).map Prod.snd →
      r' = r ∨ e.twin? r = some r' := by
    cases e <;> decide +kernel
  exact (hall r hr r' r'.mem_all htext).resolve_left hne

/-- Twins are the pairs of reasons that are answered by one remedy. -/
theorem twin?_iff :
    e.twin? r = some r' ↔ r ∈ e.answered ∧ r' ≠ r ∧ ∀ d p, e.remedy? d p r' = e.remedy? d p r := by
  constructor
  · intro htwin
    have hpair : r ∈ e.answered ∧ r' ≠ r := by
      cases e <;> cases r <;> cases htwin <;> decide
    exact ⟨hpair.1, hpair.2, remedy?_twin htwin⟩
  · rintro ⟨hr, hne, hsame⟩
    exact twin?_of_text hr hne (by rw [hsame])

/-! ### Plans in which all is in place -/

theorem Follows.slot_eq (h : e.Follows d p r q) :
    ∃ q' t, e.remedy? d p.revise r = some (q', t) ∧ ∀ s, q.slot s = q'.slot s := by
  obtain ⟨q', t, hr, hcommand, henv⟩ := h.remedied
  exact ⟨q', t, hr, fun s => by rw [Plan.slot, Plan.slot, hcommand, henv]⟩

theorem revisedPlan?_eq_none {t : String} (hr : e.remedy? d p.revise f.reason = some (q, t))
    (hsame : q.sameExecution p = true) : e.revisedPlan? d p f = none := by
  rw [Option.eq_none_iff_forall_ne_some]
  intro q' hq'
  obtain ⟨-, q', remedy, hr', hchange, -⟩ := revisedPlan?_eq_some_iff.mp hq'
  cases hr.symm.trans hr'
  exact Bool.eq_false_iff.mp hchange hsame

theorem revisedPlan?_isSome {t : String} (hnew : f.reason.name ∉ p.appliedRemediations)
    (hr : e.remedy? d p.revise f.reason = some (q, t)) (hchange : q.sameExecution p = false) :
    (e.revisedPlan? d p f).isSome = true :=
  Option.isSome_of_eq_some (revisedPlan?_eq_some_iff.mpr ⟨hnew, q, t, hr, hchange, rfl⟩)

/-- But for Python, a shared remedy is not used again. -/
theorem Follows.revisedPlan?_twin (h : e.Follows d p r q) (he : e ≠ .python)
    (htwin : e.twin? r = some f.reason) : e.revisedPlan? d q f = none := by
  obtain ⟨F, text, honce, hr, hr'⟩ := remedy?_runsOnce he htwin d
  obtain ⟨q', t, hq', hslot⟩ := h.slot_eq
  cases (hr p.revise).symm.trans hq'
  exact revisedPlan?_eq_none (hr' q.revise)
    (Plan.sameExecution_iff_slot.mpr (honce p.revise q.revise hslot))

/-! ### Python -/

theorem installsPytest_of_twin (htwin : python.twin? r = some r') :
    installsPytest r = true ∧ installsPytest r' = true := by
  cases r <;> cases htwin <;> exact ⟨rfl, rfl⟩

/-- Tests that start pytest by its name, or none at all, name pytest afterwards. -/
theorem Follows.mem_pytest (h : python.Follows d p r q) (hr : installsPytest r = true)
    (hname : ¬NamesNoPytest p) : "pytest" ∈ q.tokensOf .test := by
  rw [h.tokensOf_test_pytest hr]
  cases htest : p.command .test with
  | none => exact by decide
  | some test =>
    have htoken : hasToken test "pytest" = true := by
      by_contra hno
      exact hname ⟨test, htest, Bool.eq_false_iff.mpr hno⟩
    exact List.mem_flatMap.mpr ⟨"pytest", List.contains_iff_mem.mp htoken, by decide⟩

/-- Tests that name pytest are changed by running it as a module. -/
theorem installPytest_changes (h : "pytest" ∈ p.tokensOf .test) :
    (Remedy.installPytest p).sameExecution p = false := by
  obtain ⟨test, htest, hmem⟩ := Plan.exists_command_of_mem h
  refine Bool.eq_false_iff.mpr fun hsame => ?_
  have hcommand := (Plan.sameExecution_iff.mp hsame).1 .test
  have htokens : (Remedy.installPytest p).tokensOf .test = p.tokensOf .test := by
    rw [Plan.tokensOf, Plan.tokensOf, hcommand]
  have hmore : (Remedy.installPytest p).tokensOf .test = asModule (p.tokensOf .test) := by
    rw [installPytest_eq, Plan.tokensOf_setCommand_self, Plan.tokensOf, htest, Option.elim_some,
      Option.elim_some, pytestTest, tokens_replaceToken, pytest_texts.2.1]
    rfl
  exact absurd (htokens ▸ hmore ▸ length_lt_asModule h) (Nat.lt_irrefl _)

theorem remedy?_pytest (hr : installsPytest r = true) (d : Detection) (p : Plan) :
    ∃ t, python.remedy? d p r = some (Remedy.installPytest p, t) := by
  cases r <;> cases hr <;> exact ⟨_, rfl⟩

/-- Pytest is installed by then, so only the tests are a matter for the second reason. -/
theorem revisedPlan?_twin_python (h : python.revisedPlan? d p f = some q)
    (htwin : python.twin? f.reason = some f'.reason) :
    (python.revisedPlan? d q f').isSome = true ↔
      f'.reason.name ∉ p.appliedRemediations ∧ ¬NamesNoPytest p := by
  obtain ⟨hr, hr'⟩ := installsPytest_of_twin htwin
  have hq := follows_of_revisedPlan? h
  have happlied := (revises_of_revisedPlan? h).appliedRemediations_eq
  constructor
  · intro hsome
    obtain ⟨q', hq'⟩ := Option.isSome_iff_exists.mp hsome
    have hnext := follows_of_revisedPlan? hq'
    have hnew := (revises_of_revisedPlan? hq').new_reason
    rw [happlied, List.mem_append, not_or] at hnew
    refine ⟨hnew.1, fun hname => ?_⟩
    have hname' := hname.of_eq (hq.command_test_pytest hr hname)
    have hstill : Still d q f'.reason q' :=
      ⟨hnext, Or.inl ⟨hr', hname'⟩, hnext.command_test_pytest hr' hname'⟩
    cases (hq.hasPip hr).symm.trans (hstill.hasPip_of_pytest hr').1
  · rintro ⟨hnew, hname⟩
    obtain ⟨t, hremedy⟩ := remedy?_pytest hr' d q.revise
    refine revisedPlan?_isSome ?_ hremedy (installPytest_changes (p := q.revise) ?_)
    · rw [happlied, List.mem_append, List.mem_singleton, not_or]
      exact ⟨hnew, fun heq => (twin?_iff.mp htwin).2.1 (Reason.name_injective heq)⟩
    · exact hq.mem_pytest hr hname

/-- The tests name pytest once more than they should, and the name gives way to the module. -/
theorem Follows.tokensOf_twin (h : python.Follows d q r q') (hr : installsPytest r = true)
    (hmem : "pytest" ∈ q.tokensOf .test) : q'.tokensOf .test = asModule (q.tokensOf .test) := by
  obtain ⟨test, htest, -⟩ := Plan.exists_command_of_mem hmem
  rw [h.tokensOf_test_pytest hr, Plan.tokensOf, htest]
  rfl

/-- A plan that was revised for a reason is revised for another reason with the same remedy only
where it is one of Python's, the other reason was not answered yet, and the tests started pytest by
its name or were missing. Then the install command stays, but the tests are rewritten once more, so
that they run python as a module. -/
theorem answered_again_iff (e : Ecosystem) (d : Detection) (p q : Plan) (f f' : Failure)
    (h : e.revisedPlan? d p f = some q) (hne : f'.reason ≠ f.reason)
    (hsame : ∀ d p, e.remedy? d p f'.reason = e.remedy? d p f.reason) :
    ((e.revisedPlan? d q f').isSome = true ↔
      e = .python ∧ f'.reason.name ∉ p.appliedRemediations ∧ ¬NamesNoPytest p) ∧
    ∀ q', e.revisedPlan? d q f' = some q' →
      q'.command .install = q.command .install ∧ "pytest" ∈ q.tokensOf .test ∧
        q'.tokensOf .test = asModule (q.tokensOf .test) := by
  have hanswered : f.reason ∈ e.answered := mem_answered_iff.mpr ⟨d, p, f, q, rfl, h⟩
  have htwin : e.twin? f.reason = some f'.reason := twin?_iff.mpr ⟨hanswered, hne, hsame⟩
  have hq := follows_of_revisedPlan? h
  by_cases he : e = .python
  · subst he
    obtain ⟨hr, hr'⟩ := installsPytest_of_twin htwin
    have hiff := revisedPlan?_twin_python h htwin
    refine ⟨by rw [hiff, eq_self, true_and], fun q' hq' => ?_⟩
    have hnext := follows_of_revisedPlan? hq'
    have hmem := hq.mem_pytest hr (hiff.mp (Option.isSome_of_eq_some hq')).2
    exact ⟨hnext.install_eq hr' (hq.hasPip hr), hmem, hnext.tokensOf_twin hr' hmem⟩
  · have hnone := hq.revisedPlan?_twin he htwin
    rw [hnone]
    refine ⟨⟨fun hsome => ?_, fun hpython => absurd hpython.1 he⟩, fun q' hq' => ?_⟩
    · cases hsome
    · cases hq'

/-- A site that starts pytest by its name. -/
def pytestSite : Detection :=
  { language := .python, commands := { PerStep.const none with test := some "pytest -q" } }

theorem answered_again_pytest :
    ∃ first second,
      python.revisedPlan? pytestSite (python.strictPlan pytestSite)
        ⟨"test", .missingDevDependencies, "", ""⟩ = some first ∧
      python.revisedPlan? pytestSite first ⟨"test", .commandNotFound, "", ""⟩ = some second ∧
      first.tokensOf .test = ["python", "-m", "pytest", "-q"] ∧
      second.tokensOf .test = ["python", "-m", "python", "-m", "pytest", "-q"] := by
  obtain ⟨first, second, hfirst, hsecond, htokens⟩ : ∃ first second,
      python.revisedPlan? pytestSite (python.strictPlan pytestSite)
        ⟨"test", .missingDevDependencies, "", ""⟩ = some first ∧
      python.revisedPlan? pytestSite first ⟨"test", .commandNotFound, "", ""⟩ = some second ∧
      first.tokensOf .test = ["python", "-m", "pytest", "-q"] :=
    ⟨_, _, rfl, rfl, by decide +kernel⟩
  have hagain := (answered_again_iff python pytestSite _ _ _ ⟨"test", .commandNotFound, "", ""⟩
    hfirst (by decide) (fun _ _ => rfl)).2 second hsecond
  refine ⟨first, second, hfirst, hsecond, htokens, ?_⟩
  rw [hagain.2.2, htokens]
  rfl

/-- So what a remedy has put in place can be rewritten by the next reason that it answers. -/
theorem not_all_answered_once :
    ¬∀ (e : Ecosystem) (d : Detection) (p q : Plan) (f f' : Failure),
      e.revisedPlan? d p f = some q → f'.reason ≠ f.reason →
      (∀ d p, e.remedy? d p f'.reason = e.remedy? d p f.reason) →
      e.revisedPlan? d q f' = none := by
  intro hall
  have hnone := hall python pytestSite (python.strictPlan pytestSite) _
    ⟨"test", .missingDevDependencies, "", ""⟩ ⟨"test", .commandNotFound, "", ""⟩ rfl (by decide)
    (fun _ _ => rfl)
  cases hnone

end Ecosystem

end PatchTrial
