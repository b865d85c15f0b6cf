import PatchTrial.Proofs.QuietSteps

/-!
# What Python's remedies do

One remedy installs pytest and runs it as a module, one puts a command of its own in the place of
the install command, one switches off the workers of pytest. None sets a variable. The tests keep
the word that switches off workers and get more words when they name pytest, so where they are as
before, no step in between changed them.
-/
namespace PatchTrial

open Command

namespace Ecosystem

variable {d : Detection} {p q : Plan} {r r' : Reason} {rs before : List Reason} {s : Step}

/-! ### Install commands -/

/-- Whether a reason is answered by installing pytest. -/
def installsPytest (r : Reason) : Bool := r = .missingDevDependencies || r = .commandNotFound

/-- The install command once pytest is installed. -/
def pytestInstall : Option String → String
  | some cmd =>
    if Plan.mentions cmd Remedy.pipInstallPytest then cmd
    else cmd ++ " && " ++ Remedy.pipInstallPytest
  | none => Remedy.pipInstallPytest

/-- The install commands for an outdated lock file. -/
def freshCommand (poetry dev : Bool) : String :=
  if poetry then "poetry lock --no-update && poetry install"
  else if dev then "pipenv install --dev --skip-lock"
  else "pipenv install --skip-lock"

/-- The install command that an outdated lock file leads to, whatever it was. -/
def freshInstall (d : Detection) (install : String) : String :=
  freshCommand (d.uses "poetry" || Plan.mentions install "poetry") (hasToken install "--dev")

/-- An install command that an outdated lock file can lead to. -/
def IsFresh (d : Detection) (c : String) : Prop :=
  ∃ poetry dev, (d.uses "poetry" = true → poetry = true) ∧ c = freshCommand poetry dev

/-- What the commands say, and what they say with pytest appended. -/
theorem freshCommand_texts : ∀ poetry dev,
    isBlankText (freshCommand poetry dev) = false ∧
      Plan.mentions (freshCommand poetry dev) Remedy.pipInstallPytest = false ∧
      Plan.mentions (freshCommand poetry dev ++ " && " ++ Remedy.pipInstallPytest) "poetry" =
        poetry ∧
      (poetry = false →
        hasToken (freshCommand poetry dev ++ " && " ++ Remedy.pipInstallPytest) "--dev" = dev) := by
  intro poetry dev
  cases poetry with
  | true => cases dev <;> exact ⟨rfl, rfl, rfl, fun h => by cases h⟩
  | false => cases dev <;> exact ⟨rfl, rfl, rfl, fun _ => rfl⟩

theorem freshInstall_isFresh (d : Detection) (install : String) :
    IsFresh d (freshInstall d install) :=
  ⟨_, _, fun huses => by rw [huses, Bool.true_or], rfl⟩

/-- With pytest appended, a fresh command is replaced by itself. -/
theorem freshInstall_append {c : String} (h : IsFresh d c) :
    freshInstall d (c ++ " && " ++ Remedy.pipInstallPytest) = c := by
  obtain ⟨poetry, dev, huses, rfl⟩ := h
  obtain ⟨-, -, hpoetry, hdev⟩ := freshCommand_texts poetry dev
  rw [freshInstall, hpoetry]
  cases poetry with
  | true =>
    rw [Bool.or_true]
    simp only [freshCommand, if_true]
  | false =>
    have hother : d.uses "poetry" = false := Bool.eq_false_iff.mpr fun h => by cases huses h
    rw [hother, hdev rfl]
    rfl

theorem not_mentions_of_fresh {c : String} (h : IsFresh d c) :
    Plan.mentions c Remedy.pipInstallPytest = false := by
  obtain ⟨poetry, dev, -, rfl⟩ := h
  exact (freshCommand_texts poetry dev).2.1

theorem pytestInstall_fresh {c : String} (h : IsFresh d c) :
    pytestInstall (some c) = c ++ " && " ++ Remedy.pipInstallPytest := by
  simp only [pytestInstall, not_mentions_of_fresh h, Bool.false_eq_true, if_false]

theorem mentions_pytestInstall (c : Option String) :
    Plan.mentions (pytestInstall c) Remedy.pipInstallPytest = true := by
  unfold pytestInstall
  split
  · split
    next h => exact h
    next => exact Plan.mentions_append _ _
  · exact Plan.mentions_iff.mpr List.infix_rfl

/-! ### Steps of Python -/

/-- The test command that runs pytest as a module. -/
def pytestTest : Option String → String
  | some cmd => replaceToken cmd "pytest" "python -m pytest"
  | none => "python -m pytest"

/-- The words that the remedies put in. -/
theorem pytest_texts :
    tokens Remedy.pipInstallPytest = ["python", "-m", "pip", "install", "pytest"] ∧
      tokens "python -m pytest" = ["python", "-m", "pytest"] ∧
      tokens "-p no:xdist" = ["-p", "no:xdist"] := ⟨rfl, rfl, rfl⟩

theorem installPytest_eq (p : Plan) :
    Remedy.installPytest p =
      (p.setCommand .install (some (pytestInstall (p.command .install)))).setCommand .test
        (some (pytestTest (p.command .test))) := by
  unfold Remedy.installPytest pytestInstall pytestTest
  cases p.command .install <;> cases p.command .test <;> rfl

theorem isBlankText_pytestInstall (p : Plan) :
    isBlankText (pytestInstall (p.command .install)) = false := by
  have hpip : tokens Remedy.pipInstallPytest ≠ [] := by
    rw [pytest_texts.1]
    exact List.cons_ne_nil _ _
  unfold pytestInstall
  split
  next cmd hcmd =>
    split
    · exact Plan.isBlankText_of_command hcmd
    · refine Bool.eq_false_iff.mpr fun hblank => hpip ?_
      have htext : (cmd ++ " && " ++ Remedy.pipInstallPytest).toList =
          (cmd ++ " &&").toList ++ ' ' :: Remedy.pipInstallPytest.toList := by
        simp
      have hwords := words_of_isBlankText hblank
      rw [htext, Text.words_append_blank (by decide), List.append_eq_nil_iff] at hwords
      rw [tokens, hwords.2, List.map_nil]
  · exact Bool.eq_false_iff.mpr fun hblank => hpip (tokens_of_isBlankText hblank)

theorem relaxPythonLockfile_eq {t : String} (h : Remedy.relaxPythonLockfile d p = some (q, t)) :
    q = p.setCommand .install (some (freshInstall d ((p.command .install).getD ""))) := by
  simp only [Remedy.relaxPythonLockfile] at h
  unfold freshInstall freshCommand
  split at h
  next hpoetry =>
    cases h
    rw [if_pos hpoetry]
  next hpoetry =>
  split at h
  · cases h
    rw [if_neg hpoetry]
  · cases h

theorem Follows.env_python (h : python.Follows d p r q) : q.env = p.env := by
  obtain ⟨q', t, hr, -, henv⟩ := h.remedied
  have hassigned : python.assigned r = [] := by cases r <;> rfl
  rw [henv, (remedy?_edits hr).env_eq hassigned]
  rfl

/-- How a reason that installs pytest is answered. -/
theorem Follows.pytest (h : python.Follows d p r q) (hr : installsPytest r = true) :
    q.command .install = some (pytestInstall (p.command .install)) ∧
      q.command .test = (some (pytestTest (p.command .test))).filter fun c => !isBlankText c := by
  obtain ⟨q', t, hremedy, hcommand, -⟩ := h.remedied
  have hq' : q' = Remedy.installPytest p.revise := by
    rw [installsPytest, Bool.or_eq_true, decide_eq_true_eq, decide_eq_true_eq] at hr
    rcases hr with rfl | rfl <;> cases hremedy <;> rfl
  rw [hcommand, hcommand, hq', installPytest_eq, Plan.command_setCommand_self,
    Plan.command_setCommand_of_ne _ (by decide), Plan.command_revise, Plan.command_revise,
    Plan.command_setCommand_text _ _ (isBlankText_pytestInstall p)]
  exact ⟨rfl, rfl⟩

/-- How an outdated lock file is answered. -/
theorem Follows.fresh (h : python.Follows d p .lockfileDrift q) :
    q.command .install = some (freshInstall d ((p.command .install).getD "")) := by
  obtain ⟨q', t, hremedy, hcommand, -⟩ := h.remedied
  rw [hcommand, relaxPythonLockfile_eq hremedy]
  exact Plan.command_setCommand_text _ _ (freshCommand_texts _ _).1

/-- Workers are switched off only where the tests do not say so, and they say so then. -/
theorem Follows.workers (h : python.Follows d p .concurrencyOom q) :
    "no:xdist" ∉ p.tokensOf .test ∧ "no:xdist" ∈ q.tokensOf .test := by
  obtain ⟨q', t, hremedy, -⟩ := h.remedied
  have hq := h.tokensOf_eq hremedy .test
  obtain ⟨test, htest, hserial⟩ := Option.bind_eq_some_iff.mp (Remedy.of_map_described hremedy)
  obtain ⟨_, hguard, hq'⟩ := Option.bind_eq_some_iff.mp hserial
  cases hq'
  rw [Plan.command_revise] at htest
  constructor
  · rw [Plan.tokensOf, htest]
    intro hmem
    rw [mentions_of_hasToken (List.contains_iff_mem.mpr hmem), Bool.not_true, Bool.and_false,
      guard, if_neg Bool.false_ne_true] at hguard
    cases hguard
  · rw [hq, Plan.tokensOf_edit_self, Plan.command_revise, htest, Option.elim_some,
      Remedy.withoutWorkers, tokens_appendArgs, pytest_texts.2.2]
    exact List.mem_append_right _ (by decide)

/-! ### Test commands -/

/-- Each word that is replaced by others makes the text longer. -/
theorem length_flatMap_replace (a : String) (new ts : List String) :
    (ts.flatMap fun t => if t = a then new else [t]).length + ts.count a =
      ts.length + ts.count a * new.length := by
  induction ts with
  | nil => simp
  | cons t ts ih =>
    rw [List.flatMap_cons, List.length_append, List.length_cons]
    by_cases ht : t = a
    · subst ht
      rw [if_pos rfl, List.count_cons_self, Nat.succ_mul]
      omega
    · rw [if_neg ht, List.count_cons_of_ne ht, List.length_singleton]
      omega

/-- The words of a command in which pytest is run as a module. -/
def asModule (ts : List String) : List String :=
  ts.flatMap fun t => if t = "pytest" then ["python", "-m", "pytest"] else [t]

theorem length_lt_asModule {ts : List String} (h : "pytest" ∈ ts) :
    ts.length < (asModule ts).length := by
  have hcount := List.count_pos_iff.mpr h
  have hlen := length_flatMap_replace "pytest" ["python", "-m", "pytest"] ts
  have hthree : ["python", "-m", "pytest"].length = 3 := rfl
  rw [hthree] at hlen
  unfold asModule
  omega

theorem Follows.tokensOf_test_pytest (h : python.Follows d p r q) (hr : installsPytest r = true) :
    q.tokensOf .test =
      (p.command .test).elim ["python", "-m", "pytest"] fun test => asModule (tokens test) := by
  obtain ⟨-, hmodule, -⟩ := pytest_texts
  rw [Plan.tokensOf, (h.pytest hr).2, Plan.elim_filter_tokens, Option.elim_some]
  cases p.command .test with
  | none => exact hmodule
  | some test =>
    rw [pytestTest, tokens_replaceToken, hmodule, Option.elim_some]
    rfl

theorem Follows.command_test_fresh (h : python.Follows d p .lockfileDrift q) :
    q.command .test = p.command .test := h.command_eq (by decide)

/-- Once workers are switched off, no other remedy takes that back. -/
theorem Follows.mem_xdist (h : python.Follows d p r q) (hp : "no:xdist" ∈ p.tokensOf .test) :
    "no:xdist" ∈ q.tokensOf .test := by
  have hmem := h.mem_answered
  have hpytest (hr : installsPytest r = true) : "no:xdist" ∈ q.tokensOf .test := by
    rw [h.tokensOf_test_pytest hr]
    unfold Plan.tokensOf at hp
    cases htest : p.command .test with
    | none =>
      rw [htest] at hp
      cases hp
    | some test =>
      rw [htest] at hp
      exact List.mem_flatMap.mpr ⟨_, hp, by decide⟩
  cases r with
  | missingDevDependencies | commandNotFound => exact hpytest rfl
  | lockfileDrift => rwa [Plan.tokensOf, h.command_test_fresh]
  | concurrencyOom => exact h.workers.2
  | _ => exact absurd hmem (by decide)

theorem Line.mem_xdist (h : Line (python.Follows d) p rs q) (hp : "no:xdist" ∈ p.tokensOf .test) :
    "no:xdist" ∈ q.tokensOf .test := by
  induction h with
  | nil p => exact hp
  | cons h _ ih => exact ih (h.mem_xdist hp)

/-- Where workers are switched off on the way, the tests say so only afterwards. -/
theorem Line.workers (h : Line (python.Follows d) p rs q) (hmem : .concurrencyOom ∈ rs) :
    "no:xdist" ∉ p.tokensOf .test ∧ "no:xdist" ∈ q.tokensOf .test := by
  induction h with
  | nil p => cases hmem
  | cons h rest ih =>
    rcases List.mem_cons.mp hmem with rfl | hmem
    · exact ⟨h.workers.1, rest.mem_xdist h.workers.2⟩
    · obtain ⟨hnext, hq⟩ := ih hmem
      exact ⟨fun hp => hnext (h.mem_xdist hp), hq⟩

/-- Between places with the same tests, workers are not switched off. -/
theorem Line.concurrencyOom_not_mem (h : Line (python.Follows d) p rs q)
    (htest : q.tokensOf .test = p.tokensOf .test) : .concurrencyOom ∉ rs := by
  intro hmem
  obtain ⟨hp, hq⟩ := h.workers hmem
  exact hp (htest ▸ hq)

/-- There are tests, and they do not start pytest by its name. -/
def NamesNoPytest (p : Plan) : Prop :=
  ∃ test, p.command .test = some test ∧ hasToken test "pytest" = false

theorem NamesNoPytest.of_eq (h : NamesNoPytest p) (htest : q.command .test = p.command .test) :
    NamesNoPytest q := by
  obtain ⟨test, hp, hname⟩ := h
  exact ⟨test, htest.trans hp, hname⟩

/-- Running pytest as a module changes no tests that do not name it. -/
theorem Follows.command_test_pytest (h : python.Follows d p r q) (hr : installsPytest r = true)
    (hname : NamesNoPytest p) : q.command .test = p.command .test := by
  obtain ⟨test, htest, hname⟩ := hname
  rw [(h.pytest hr).2, htest, pytestTest, replaceToken, hname, if_neg Bool.false_ne_true,
    Option.filter_some, Plan.isBlankText_of_command htest]
  rfl

/-- Running pytest as a module takes more words than its name. -/
theorem Follows.tests_pytest (h : python.Follows d p r q) (hr : installsPytest r = true) :
    NamesNoPytest p ∨ (p.tokensOf .test).length < (q.tokensOf .test).length := by
  rw [h.tokensOf_test_pytest hr, Plan.tokensOf]
  cases htest : p.command .test with
  | none => exact Or.inr (by decide)
  | some test =>
    cases hname : hasToken test "pytest" with
    | false => exact Or.inl ⟨test, htest, hname⟩
    | true =>
      exact Or.inr (length_lt_asModule (List.contains_iff_mem.mp hname))

/-- A step that leaves the tests alone. They do not name pytest where it is installed. -/
structure Still (d : Detection) (p : Plan) (r : Reason) (q : Plan) : Prop
    extends python.Follows d p r q where
  reason : installsPytest r = true ∧ NamesNoPytest p ∨ r = .lockfileDrift
  test_eq : q.command .test = p.command .test

/-- Unless workers are switched off, the tests stay or get more words. -/
theorem Follows.still_or_longer (h : python.Follows d p r q) (hr : r ≠ .concurrencyOom) :
    Still d p r q ∨ (p.tokensOf .test).length < (q.tokensOf .test).length := by
  have hmem := h.mem_answered
  have hpytest (hr : installsPytest r = true) := (h.tests_pytest hr).imp_left fun hname =>
    (⟨h, Or.inl ⟨hr, hname⟩, h.command_test_pytest hr hname⟩ : Still d p r q)
  cases r with
  | missingDevDependencies | commandNotFound => exact hpytest rfl
  | lockfileDrift => exact Or.inl ⟨h, Or.inr rfl, h.command_test_fresh⟩
  | concurrencyOom => exact absurd rfl hr
  | _ => exact absurd hmem (by decide)

theorem Line.length_le (h : Line (python.Follows d) p rs q) (hrs : .concurrencyOom ∉ rs) :
    (p.tokensOf .test).length ≤ (q.tokensOf .test).length := by
  induction h with
  | nil p => exact Nat.le_refl _
  | cons h _ ih =>
    simp only [List.mem_cons, not_or] at hrs
    refine Nat.le_trans ?_ (ih hrs.2)
    rcases h.still_or_longer (Ne.symm hrs.1) with hstill | hlt
    · rw [Plan.tokensOf, Plan.tokensOf, hstill.test_eq]
    · exact Nat.le_of_lt hlt

/-- Between places with the same tests, every step leaves them alone. -/
theorem Line.still (h : Line (python.Follows d) p rs q)
    (htest : q.command .test = p.command .test) : Line (Still d) p rs q := by
  have htokens : q.tokensOf .test = p.tokensOf .test := by
    rw [Plan.tokensOf, Plan.tokensOf, htest]
  have hrs := h.concurrencyOom_not_mem htokens
  have hlen : (q.tokensOf .test).length ≤ (p.tokensOf .test).length := by rw [htokens]
  clear htest htokens
  induction h with
  | nil p => exact .nil p
  | cons h rest ih =>
    simp only [List.mem_cons, not_or] at hrs
    have hle := rest.length_le hrs.2
    rcases h.still_or_longer (Ne.symm hrs.1) with hstill | hlt
    · refine .cons hstill (ih hrs.2 ?_)
      rwa [Plan.tokensOf, Plan.tokensOf, hstill.test_eq]
    · omega

end Ecosystem

end PatchTrial
