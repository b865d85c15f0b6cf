import PatchTrial.Proofs.PythonSteps

/-!
# Plans that come back

Two of Python's remedies undo each other: one appends the installation of pytest to the install
command, the other puts a command of its own in the place of the install command. Where the tests
do not name pytest, answering both reasons in turn can lead back to the plan before the two. No
other plan of any line runs what an earlier plan ran.
-/
namespace PatchTrial

open Command

namespace Ecosystem

variable {e : Ecosystem} {d : Detection} {p q : Plan} {r r' : Reason} {rs : List Reason}

/-! ### Steps that leave the tests -/

/-- Whether the install command installs pytest. -/
def hasPip (p : Plan) : Bool :=
  (p.command .install).any (Plan.mentions · Remedy.pipInstallPytest)

theorem targets_python (r : Reason) : python.targets r ⊆ [.install, .test] := by
  cases r <;> decide

/-- Python's remedies leave the other steps and the environments. -/
theorem Line.sameExecution_python (h : Line (python.Follows d) p rs q)
    (hinstall : q.command .install = p.command .install)
    (htest : q.command .test = p.command .test) : q.sameExecution p = true := by
  have hrest : (∀ s, s ∉ [Step.install, .test] → q.command s = p.command s) ∧ q.env = p.env := by
    clear hinstall htest
    induction h with
    | nil p => exact ⟨fun _ _ => rfl, rfl⟩
    | @cons p next q r rs h _ ih =>
      refine ⟨fun s hs => (ih.1 s hs).trans (h.command_eq fun hmem => hs ?_),
        ih.2.trans h.env_python⟩
      exact targets_python r hmem
  refine Plan.sameExecution_iff.mpr ⟨fun s => ?_, hrest.2⟩
  by_cases hs : s ∈ [Step.install, .test]
  · simp only [List.mem_cons, List.not_mem_nil, or_false] at hs
    rcases hs with rfl | rfl
    · exact hinstall
    · exact htest
  · exact hrest.1 s hs

theorem Still.install_ne (h : Still d p r q) : q.command .install ≠ p.command .install := fun heq =>
  have hline : Line (python.Follows d) p [r] q := .cons h.toFollows (.nil q)
  Bool.false_ne_true (h.changed.symm.trans (hline.sameExecution_python heq h.test_eq))

theorem Follows.hasPip (h : python.Follows d p r q) (hr : installsPytest r = true) :
    hasPip q = true := by
  rw [Ecosystem.hasPip, (h.pytest hr).1]
  exact mentions_pytestInstall _

/-- Where pytest is installed already, the install command stays. -/
theorem Follows.install_eq (h : python.Follows d p r q) (hr : installsPytest r = true)
    (hpip : Ecosystem.hasPip p = true) : q.command .install = p.command .install := by
  obtain ⟨c, hc, hmention⟩ := (Option.any_eq_true _ _).mp hpip
  rw [(h.pytest hr).1, hc, pytestInstall, if_pos hmention]

/-- Pytest is installed by such a step only where it was not. -/
theorem Still.hasPip_of_pytest (h : Still d p r q) (hr : installsPytest r = true) :
    hasPip p = false ∧ hasPip q = true :=
  ⟨Bool.eq_false_iff.mpr fun hpip => h.install_ne (h.toFollows.install_eq hr hpip),
    h.toFollows.hasPip hr⟩

/-- As long as no lock file is outdated, pytest is installed once. -/
theorem Line.hasPip_of_still (h : Line (Still d) p rs q) (hrs : .lockfileDrift ∉ rs) :
    (hasPip p = true → rs = []) ∧ (rs ≠ [] → hasPip q = true) := by
  induction h with
  | nil p => exact ⟨fun _ => rfl, fun hne => absurd rfl hne⟩
  | @cons p next q r rs h rest ih =>
    simp only [List.mem_cons, not_or] at hrs
    obtain ⟨hr, -⟩ := h.reason.resolve_right (Ne.symm hrs.1)
    obtain ⟨hp, hnext⟩ := h.hasPip_of_pytest hr
    obtain rfl := (ih hrs.2).1 hnext
    cases rest
    exact ⟨fun hpip => absurd (hp.symm.trans hpip) Bool.false_ne_true, fun _ => hnext⟩

/-! ### Two reasons in turn -/

/-- After plan `p`, the answer to the second of two reasons undoes the answer to the first: the
tests do not name pytest, and the install command is a fresh one before pytest is installed, or
a fresh one with pytest appended before the lock file is found outdated. -/
structure Undoes (d : Detection) (p : Plan) (r r' : Reason) : Prop where
  tests : NamesNoPytest p
  install : ∃ c, IsFresh d c ∧
    (installsPytest r = true ∧ r' = .lockfileDrift ∧ p.command .install = some c ∨
      r = .lockfileDrift ∧ installsPytest r' = true ∧
        p.command .install = some (c ++ " && " ++ Remedy.pipInstallPytest))

theorem Undoes.sameExecution (hu : Undoes d p r r')
    (h : Line (python.Follows d) p [r, r'] q) : q.sameExecution p = true := by
  have hline := h
  obtain ⟨c, hc, hinstall⟩ := hu.install
  cases h with
  | @cons p next q r rs h rest =>
  cases rest with
  | @cons next q' q r' rs h' rest =>
  cases rest
  rcases hinstall with ⟨hr, rfl, hinstall⟩ | ⟨rfl, hr, hinstall⟩
  · refine hline.sameExecution_python ?_ ?_
    · rw [h'.fresh, (h.pytest hr).1, hinstall, pytestInstall_fresh hc, Option.getD_some,
        freshInstall_append hc]
    · exact h'.command_test_fresh.trans (h.command_test_pytest hr hu.tests)
  · have htest := h.command_test_fresh
    refine hline.sameExecution_python ?_ ?_
    · rw [(h'.pytest hr).1, h.fresh, hinstall, Option.getD_some, freshInstall_append hc,
        pytestInstall_fresh hc]
    · exact (h'.command_test_pytest hr (hu.tests.of_eq htest)).trans htest

/-- A line of steps that leave the tests comes back after two of them only. -/
theorem Line.undoes (h : Line (Still d) p rs q) (hnodup : rs.Nodup) (hne : rs ≠ [])
    (hinstall : q.command .install = p.command .install) :
    ∃ r r', rs = [r, r'] ∧ Undoes d p r r' := by
  have hpip : hasPip q = hasPip p := by rw [hasPip, hasPip, hinstall]
  cases h with
  | nil p => exact absurd rfl hne
  | @cons p next q r rs h rest =>
  cases rest with
  | nil p => exact absurd hinstall h.install_ne
  | @cons next next' q r' rs h' rest =>
  obtain ⟨hr, hrs⟩ := List.nodup_cons.mp hnodup
  obtain ⟨hr', -⟩ := List.nodup_cons.mp hrs
  simp only [List.mem_cons, not_or] at hr
  rcases h.reason with ⟨hpytest, hname⟩ | rfl
  · obtain ⟨hp, hnext⟩ := h.hasPip_of_pytest hpytest
    rcases h'.reason with ⟨hpytest', -⟩ | rfl
    · cases hnext.symm.trans (h'.hasPip_of_pytest hpytest').1
    -- Were there more reasons, pytest would be installed in the end but not at the start.
    obtain rfl : rs = [] := by
      by_contra hmore
      have hq := (rest.hasPip_of_still hr').2 hmore
      cases hp.symm.trans (hpip.symm.trans hq)
    cases rest
    have hfresh := h'.fresh
    rw [hinstall] at hfresh
    exact ⟨r, _, rfl, hname, _, freshInstall_isFresh d _, Or.inl ⟨hpytest, rfl, hfresh⟩⟩
  · obtain ⟨hpytest, hname⟩ := h'.reason.resolve_right (Ne.symm hr.1)
    have hnext' := (h'.hasPip_of_pytest hpytest).2
    obtain rfl : rs = [] := (rest.hasPip_of_still hr.2).1 hnext'
    cases rest
    have happended := (h'.pytest hpytest).1
    rw [hinstall, h.fresh, pytestInstall_fresh (freshInstall_isFresh d _)] at happended
    exact ⟨_, r', rfl, hname.of_eq h.test_eq.symm, _, freshInstall_isFresh d _,
      Or.inr ⟨rfl, hpytest, happended⟩⟩

/-- In a line of Python only two reasons in turn can lead back. -/
theorem Line.sameExecution_iff_undoes (h : Line (python.Follows d) p rs q) (hnodup : rs.Nodup)
    (hne : rs ≠ []) : q.sameExecution p = true ↔ ∃ r r', rs = [r, r'] ∧ Undoes d p r r' := by
  constructor
  · intro hsame
    have hcommands := (Plan.sameExecution_iff.mp hsame).1
    exact (h.still (hcommands .test)).undoes hnodup hne (hcommands .install)
  · rintro ⟨r, r', rfl, hu⟩
    exact hu.sameExecution h

/-- Elsewhere no line leads back. -/
theorem Line.sameExecution_iff {before : List Reason} (h : Line (e.Follows d) p rs q)
    (hk : e.Known before p) (hnodup : (before ++ rs).Nodup) (hne : rs ≠ []) :
    q.sameExecution p = true ↔ e = .python ∧ ∃ r r', rs = [r, r'] ∧ Undoes d p r r' := by
  by_cases he : e = .python
  · subst he
    have hrs : rs.Nodup := (List.nodup_append.mp hnodup).2.1
    rw [h.sameExecution_iff_undoes hrs hne, eq_self, true_and]
  · rw [h.changed he hk hnodup hne]
    exact ⟨fun hfalse => absurd hfalse Bool.false_ne_true, fun hand => absurd hand.1 he⟩

/-! ### Lines -/

/-- The line between two of the plans, and what is known at the first one. -/
theorem line_between {fs : List Failure} {qs : List Plan} {i k : Nat}
    (h : e.revisedPlans? d (e.strictPlan d) fs = some qs)
    (hp : (e.strictPlan d :: qs)[i]? = some p) (hq : (e.strictPlan d :: qs)[i + k]? = some q) :
    e.Known ((fs.take i).map Failure.reason) p ∧
      Line (e.Follows d) p (((fs.drop i).take k).map Failure.reason) q := by
  have hdrop : (p :: qs.drop i)[k]? = some q := by
    cases k with
    | zero => exact hp.symm.trans hq
    | succ k =>
      rw [List.getElem?_cons_succ, List.getElem?_drop]
      exact hq
  have hknown := (known_strictPlan e d).line (line_of_revisedPlans? h hp)
  exact ⟨hknown, line_of_revisedPlans? (revisedPlans?_drop h hp) hdrop⟩

theorem take_drop_eq_pair {α : Type} {xs : List α} {i n : Nat} {x y : α}
    (hn : i + n ≤ xs.length) :
    (xs.drop i).take n = [x, y] ↔ n = 2 ∧ xs[i]? = some x ∧ xs[i + 1]? = some y := by
  constructor
  · intro h
    have hlen := congrArg List.length h
    rw [List.length_take_of_le (by rw [List.length_drop]; omega)] at hlen
    obtain rfl : n = 2 := hlen
    have hget (k : Nat) (hk : k < 2) : xs[i + k]? = [x, y][k]? := by
      rw [← h, List.getElem?_take_of_lt hk, List.getElem?_drop]
    exact ⟨rfl, hget 0 (by decide), hget 1 (by decide)⟩
  · rintro ⟨rfl, hx, hy⟩
    obtain ⟨hi, rfl⟩ := List.getElem?_eq_some_iff.mp hx
    obtain ⟨hi', rfl⟩ := List.getElem?_eq_some_iff.mp hy
    rw [List.drop_eq_getElem_cons hi, List.drop_eq_getElem_cons hi']
    rfl

/-- A site that installs past its lock file and tests with a script of its own. -/
def pipenvSite : Detection :=
  { language := .python, packageManager := some "pipenv", commands :=
    { PerStep.const none with
      install := some "pipenv install --skip-lock", test := some "python manage.py test" } }

/-- The tests lack a tool, then the lock file is outdated. -/
def pipenvFailures : List Failure :=
  [⟨"test", .missingDevDependencies, "", ""⟩, ⟨"install", .lockfileDrift, "", ""⟩]

theorem exists_line_pipenv : ∃ first second,
    python.revisedPlans? pipenvSite (python.strictPlan pipenvSite) pipenvFailures =
      some [first, second] := ⟨_, _, rfl⟩

theorem undoes_pipenv :
    Undoes pipenvSite (python.strictPlan pipenvSite) .missingDevDependencies .lockfileDrift where
  tests := ⟨"python manage.py test", rfl, rfl⟩
  install := ⟨"pipenv install --skip-lock", ⟨false, false, id, rfl⟩,
    Or.inl ⟨rfl, rfl, rfl⟩⟩

/-- Along a line that starts with a strict plan no variable loses its value. A plan runs what an
earlier one ran just where the line is one of Python's, the plan is the second after the earlier
one, and the answer to the second reason in between undoes the answer to the first. -/
theorem comes_back_iff (e : Ecosystem) (d : Detection) (fs : List Failure) (qs : List Plan)
    (h : e.revisedPlans? d (e.strictPlan d) fs = some qs) :
    ∀ i j p q, i < j → (e.strictPlan d :: qs)[i]? = some p →
      (e.strictPlan d :: qs)[j]? = some q →
      (∀ s key value, p.envValue? s key = some value → q.envValue? s key = some value) ∧
        (q.sameExecution p = true ↔ e = .python ∧ j = i + 2 ∧
          ∃ f f', fs[i]? = some f ∧ fs[i + 1]? = some f' ∧ Undoes d p f.reason f'.reason) := by
  intro i j p q hij hp hq
  obtain ⟨n, rfl⟩ := Nat.exists_eq_add_of_le (Nat.le_of_lt hij)
  obtain ⟨hknown, hline⟩ := line_between h hp hq
  have hn : i + n ≤ fs.length := by
    obtain ⟨hlt, -⟩ := List.getElem?_eq_some_iff.mp hq
    rw [List.length_cons, revisedPlans?_length h] at hlt
    omega
  have hnodup : ((fs.take i).map Failure.reason ++
      ((fs.drop i).take n).map Failure.reason).Nodup := by
    rw [← List.map_append, ← List.take_add]
    exact (nodup_reasons h).sublist ((List.take_sublist _ _).map _)
  have hne : ((fs.drop i).take n).map Failure.reason ≠ [] := by
    refine List.ne_nil_of_length_pos ?_
    rw [List.length_map, List.length_take_of_le (by rw [List.length_drop]; omega)]
    omega
  refine ⟨fun s key value hvalue => hline.keeps hknown hvalue, ?_⟩
  rw [hline.sameExecution_iff hknown hnodup hne]
  refine and_congr_right fun _ => ?_
  constructor
  · rintro ⟨r, r', hpair, hu⟩
    obtain ⟨f, rest, hfs, rfl, hrest⟩ := List.map_eq_cons_iff.mp hpair
    obtain ⟨f', none, rfl, rfl, hnone⟩ := List.map_eq_cons_iff.mp hrest
    obtain rfl := List.map_eq_nil_iff.mp hnone
    obtain ⟨rfl, hf, hf'⟩ := (take_drop_eq_pair hn).mp hfs
    exact ⟨rfl, f, f', hf, hf', hu⟩
  · rintro ⟨hj, f, f', hf, hf', hu⟩
    have hpair := (take_drop_eq_pair hn).mpr ⟨Nat.add_left_cancel hj, hf, hf'⟩
    exact ⟨f.reason, f'.reason, by rw [hpair]; rfl, hu⟩

/-- The install command is what it was at first. -/
theorem comes_back_pipenv :
    ∃ first second,
      python.revisedPlans? pipenvSite (python.strictPlan pipenvSite) pipenvFailures =
        some [first, second] ∧
      second.sameExecution (python.strictPlan pipenvSite) = true := by
  obtain ⟨first, second, hline⟩ := exists_line_pipenv
  have hback := (comes_back_iff python pipenvSite pipenvFailures _ hline 0 2 _ second (by decide)
    rfl rfl).2
  exact ⟨first, second, hline, hback.mpr ⟨rfl, rfl, _, _, rfl, rfl, undoes_pipenv⟩⟩

/-- So an answer can undo an earlier one, and what failed before is run again. -/
theorem not_all_plans_new :
    ¬∀ (e : Ecosystem) (d : Detection) (fs : List Failure) (qs : List Plan),
      e.revisedPlans? d (e.strictPlan d) fs = some qs →
      ∀ (i j : Nat) (p q : Plan), i < j → (e.strictPlan d :: qs)[i]? = some p →
        (e.strictPlan d :: qs)[j]? = some q →
        (∀ s key value, p.envValue? s key = some value → q.envValue? s key = some value) ∧
          q.sameExecution p = false := by
  intro h
  obtain ⟨first, second, hline⟩ := exists_line_pipenv
  have hsame := undoes_pipenv.sameExecution (line_of_revisedPlans? (n := 2) hline rfl)
  have hnew := (h python pipenvSite pipenvFailures _ hline 0 2 _ second (by decide) rfl rfl).2
  cases hnew.symm.trans hsame

end Ecosystem

end PatchTrial
