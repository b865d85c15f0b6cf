import PatchTrial.Proofs.Accumulation
import PatchTrial.Proofs.Parallelism
import PatchTrial.Proofs.PlanCommands

/-!
# Lines that never come back

For every ecosystem but Python's, no plan of a line runs what an earlier one ran. Of the remedies
that need not add a variable there is one for each ecosystem, and what it changes no other one
changes back: the command of a step that only it edits, the steps with a wrapper script, the steps
with a locked build. Commands that are serialized become lighter.
-/
namespace PatchTrial

open Command

namespace Ecosystem

variable {e : Ecosystem} {d : Detection} {p q : Plan} {r : Reason} {rs before : List Reason}
  {s : Step}

theorem Follows.command_eq (h : e.Follows d p r q) (hs : s ∉ e.targets r) :
    q.command s = p.command s := by
  obtain ⟨q', t, hr, hcommand, -⟩ := h.remedied
  rw [hcommand, Plan.command, (remedy?_edits hr).command_eq hs]
  rfl

/-- A step that leaves the environments changes some command. -/
theorem Quiet.exists_command_ne (h : e.Quiet d p r q) : ∃ s, q.command s ≠ p.command s := by
  by_contra hall
  push Not at hall
  have hsame : q.sameExecution p = true := Plan.sameExecution_iff.mpr ⟨hall, h.env_eq⟩
  exact Bool.false_ne_true (h.changed.symm.trans hsame)

theorem Quiet.command_ne (h : e.Quiet d p r q) (ht : e.targets r = [s]) :
    q.command s ≠ p.command s := by
  obtain ⟨u, hu⟩ := h.exists_command_ne
  have hmem : u ∈ e.targets r := by
    by_contra hnot
    exact hu (h.toFollows.command_eq hnot)
  rw [ht, List.mem_singleton] at hmem
  exact hmem ▸ hu

theorem Quiet.twin?_isSome (h : e.Quiet d p r q) (hm : e.Marks d r) :
    (e.twin? r).isSome = true := by
  obtain ⟨r', htwin⟩ := h.twin hm
  rw [htwin]
  rfl

/-! ### Remedies that set a variable -/

section Marks

variable (p)

/-- Setting a variable wherever there is a command and editing the tests. -/
theorem same_or_set_edit (key value : String) (f : String → String) :
    let q := (p.setEnvWhereRunnable Step.all key value).edit .test f
    q.sameExecution p = true ∨ ∃ s, q.envValue? s key = some value := by
  dsimp only
  rcases p.setEnvWhereRunnable_cases Step.all key value with ⟨hnil, hp⟩ | ⟨s, hs⟩
  · refine Or.inl ?_
    have htest : p.command .test = none := by
      cases htest : p.command .test with
      | none => rfl
      | some c =>
        have hmem := Plan.mem_runnable.mpr ⟨Step.test.mem_all, c, htest⟩
        rw [hnil] at hmem
        cases hmem
    rw [hp, Plan.edit, htest]
    exact Plan.sameExecution_iff.mpr ⟨fun _ => rfl, rfl⟩
  · refine Or.inr ⟨s, ?_⟩
    rw [Plan.envValue?, Plan.env_edit]
    exact hs

/-- Tests that are serialized are there still. -/
theorem serializeGoTest_cases :
    Remedy.serializeGoTest p = p ∨
      ∃ c, (Remedy.serializeGoTest p).command .test = some c := by
  unfold Remedy.serializeGoTest
  split
  · exact Or.inl rfl
  split
  · exact Or.inl rfl
  split
  next next hnext =>
    have hmem : "-p" ∈ tokens next := mem_of_insertAfterPair? hnext (by decide)
    exact Or.inr ⟨next, p.command_setCommand_text _ (isBlankText_of_mem hmem)⟩
  · exact Or.inl rfl

theorem limitGoMemory_marks :
    (Remedy.limitGoMemory p).sameExecution p = true ∨
      ∃ s, (Remedy.limitGoMemory p).envValue? s "GOGC" = some "50" := by
  unfold Remedy.limitGoMemory
  rcases Plan.setEnvWhereRunnable_cases ((Remedy.serializeGoTest p).setEnvWhereRunnable
    Remedy.buildSteps "GOFLAGS" "-p=1") Remedy.buildSteps "GOGC" "50" with ⟨hnil, hp⟩ | hs
  · refine Or.inl ?_
    rw [Plan.runnable_setEnvWhereRunnable] at hnil
    have hflags : (Remedy.serializeGoTest p).setEnvWhereRunnable Remedy.buildSteps "GOFLAGS"
        "-p=1" = Remedy.serializeGoTest p := by
      rw [Plan.setEnvWhereRunnable, hnil]
      rfl
    rw [hp, hflags]
    rcases serializeGoTest_cases p with hsame | ⟨c, hc⟩
    · rw [hsame]
      exact Plan.sameExecution_iff.mpr ⟨fun _ => rfl, rfl⟩
    · have hmem := Plan.mem_runnable.mpr
        ⟨(by decide : Step.test ∈ Remedy.buildSteps), c, hc⟩
      rw [hnil] at hmem
      cases hmem
  · exact Or.inr hs

/-- A step of a build tool has its variable set, any other step is left. -/
theorem limitJvmStep_cases (s : Step) :
    Remedy.limitJvmStep p s = p ∨ ∃ key value, (key, value) ∈ jvm.assigned .oom ∧
      (Remedy.limitJvmStep p s).envValue? s key = some value := by
  unfold Remedy.limitJvmStep
  split
  · exact Or.inl rfl
  split
  · refine Or.inr ⟨"GRADLE_OPTS", "-Xmx2g", by decide, ?_⟩
    dsimp only
    split <;> simp
  split
  · refine Or.inr ⟨"MAVEN_OPTS", "-Xmx2g", by decide, ?_⟩
    dsimp only
    split <;> simp
  · exact Or.inl rfl

theorem limitJvmMemory_marks :
    Remedy.limitJvmMemory p = p ∨ ∃ s key value, (key, value) ∈ jvm.assigned .oom ∧
      (Remedy.limitJvmMemory p).envValue? s key = some value := by
  unfold Remedy.limitJvmMemory
  -- A variable that was set for one step is kept by all later ones.
  have hkeep (steps : List Step) (q : Plan) {u : Step} {key value : String}
      (hv : (key, value) ∈ jvm.assigned .oom) (hq : q.envValue? u key = some value) :
      (steps.foldl Remedy.limitJvmStep q).envValue? u key = some value :=
    (Plan.Edits.refl.foldl (fun _ s hq => Remedy.limitJvmStep_edits hq s) steps).keeps hq
      fun _ hv' => assigned_agree hv hv'
  induction p.runnable Step.all with
  | nil => exact Or.inl rfl
  | cons s steps ih =>
    rw [List.foldl_cons]
    rcases limitJvmStep_cases p s with hsame | ⟨key, value, hv, hset⟩
    · rw [hsame]
      exact ih
    · exact Or.inr ⟨s, key, value, hv, hkeep steps _ hv hset⟩

end Marks

theorem marks_node (hr : r ∈ [.oom, .concurrencyOom, .missingDevDependencies, .engineMismatch]) :
    node.Marks d r := by
  intro p q t h
  have hmemory (p : Plan) := same_or_set_edit p "NODE_OPTIONS" "--max-old-space-size=4096"
  cases r with
  | oom | concurrencyOom =>
    cases h
    exact (hmemory p _).imp_right fun ⟨s, hs⟩ => ⟨s, _, _, by decide, hs⟩
  | missingDevDependencies =>
    cases h
    exact Or.inr ⟨.install, "NPM_CONFIG_PRODUCTION", "false", by decide,
      Plan.envValue?_setEnv_self ..⟩
  | engineMismatch =>
    have hedit := Remedy.of_map_described h
    obtain ⟨install, -, hq⟩ := Option.bind_eq_some_iff.mp hedit
    cases hq
    exact Or.inr ⟨.install, "npm_config_engine_strict", "false", by decide,
      Plan.envValue?_setEnv_self ..⟩
  | _ => simp at hr

theorem marks_go (hr : r ∈ [.oom, .concurrencyOom]) : go.Marks d r := by
  intro p q t h
  have hmarks := limitGoMemory_marks p
  cases r with
  | oom | concurrencyOom =>
    cases h
    exact hmarks.imp_right fun ⟨s, hs⟩ => ⟨s, _, _, by decide, hs⟩
  | _ => simp at hr

theorem marks_jvm (hr : r ∈ [.oom, .concurrencyOom]) : jvm.Marks d r := by
  intro p q t h
  have hmarks : (Remedy.limitJvmMemory p).sameExecution p = true ∨ ∃ s key value,
      (key, value) ∈ jvm.assigned .oom ∧
        (Remedy.limitJvmMemory p).envValue? s key = some value := by
    refine (limitJvmMemory_marks p).imp_left fun hsame => ?_
    rw [hsame]
    exact Plan.sameExecution_iff.mpr ⟨fun _ => rfl, rfl⟩
  cases r with
  | oom | concurrencyOom =>
    cases h
    exact hmarks
  | _ => simp at hr

theorem marks_ruby : ruby.Marks d r := by
  intro p q t h
  cases r with
  | lockfileDrift =>
    have hedit := Remedy.of_map_described h
    obtain ⟨install, -, hq⟩ := Option.bind_eq_some_iff.mp hedit
    cases hq
    exact Or.inr ⟨.install, "BUNDLE_DEPLOYMENT", "false", by decide,
      Plan.envValue?_setEnv_self ..⟩
  | missingDevDependencies | commandNotFound =>
    cases h
    refine Or.inr ⟨.install, "BUNDLE_WITHOUT", "", by decide, ?_⟩
    rw [Plan.envValue?, Remedy.installBundlerGroups, Plan.env_edit]
    exact Plan.envValue?_setEnv_self ..
  | _ => cases h

theorem marks_rust (hr : r ∈ [.oom, .concurrencyOom]) : rust.Marks d r := by
  intro p q t h
  have hmarks := same_or_set_edit p "CARGO_BUILD_JOBS" "1" Remedy.serialCargoTest
  cases r with
  | oom | concurrencyOom =>
    cases h
    exact hmarks.imp_right fun ⟨s, hs⟩ => ⟨s, _, _, by decide, hs⟩
  | _ => simp at hr

/-! ### Words that only one remedy takes away -/

section Words

variable {P : String → Bool}

theorem any_appendArgs {args : String} (h : (tokens args).any P = false) (cmd : String) :
    (tokens (appendArgs cmd args)).any P = (tokens cmd).any P := by
  rw [tokens_appendArgs, List.any_append, h, Bool.or_false]

/-- Appended arguments without such words leave who has them. -/
theorem any_tokensOf_setCommand {c : String} {f : String → String} (hc : p.command s = some c)
    (h : (tokens (f c)).any P = (tokens c).any P) (u : Step) :
    ((p.setCommand s (some (f c))).tokensOf u).any P = (p.tokensOf u).any P := by
  by_cases hu : u = s
  · subst hu
    rw [Plan.tokensOf_setCommand_self, Plan.tokensOf, hc]
    exact h
  · rw [Plan.tokensOf, Plan.command_setCommand_of_ne _ hu]
    rfl

/-- An edit of all commands that takes such words away, and else does nothing. -/
theorem Quiet.any_ne_of_editAll {f : String → String} {t : String}
    (hremedy : ∀ p, e.remedy? d p r = some (p.editAll f, t))
    (hself : ∀ c, (tokens c).any P = false → f c = c)
    (haway : ∀ c, (tokens (f c)).any P = false) (h : e.Quiet d p r q) :
    (fun s => (q.tokensOf s).any P) ≠ fun s => (p.tokensOf s).any P := by
  intro heq
  obtain ⟨q', t', hr, hcommand, -⟩ := h.remedied
  cases (hremedy p.revise).symm.trans hr
  obtain ⟨s, hs⟩ := h.exists_command_ne
  replace hcommand := hcommand s
  rw [Plan.command_editAll, Plan.command_revise] at hcommand
  cases hc : p.command s with
  | none =>
    rw [hc, Option.map_none, Option.filter_none] at hcommand
    exact hs (hcommand.trans hc.symm)
  | some c =>
    rw [hc, Option.map_some] at hcommand
    have hwords : (q.tokensOf s).any P = (tokens c).any P := by
      have hp : p.tokensOf s = tokens c := by rw [Plan.tokensOf, hc]; rfl
      rw [← hp]
      exact congrFun heq s
    have hfree : (tokens c).any P = false := by
      rw [← hwords, Plan.tokensOf, hcommand, Plan.elim_filter_tokens]
      exact haway c
    refine hs ?_
    rw [hcommand, hself c hfree, hc, Option.filter_some, Plan.isBlankText_of_command hc]
    rfl

end Words

theorem mem_tokens_replaceToken {cmd a new t : String} (h : t ∈ tokens (replaceToken cmd a new)) :
    t ∈ tokens cmd ∧ t ≠ a ∨ t ∈ tokens new := by
  rw [tokens_replaceToken] at h
  obtain ⟨t', ht', hmem⟩ := List.mem_flatMap.mp h
  split at hmem
  · exact Or.inr hmem
  next hne =>
    rw [List.mem_singleton] at hmem
    exact Or.inl ⟨hmem ▸ ht', hmem ▸ hne⟩

/-- The scripts that wrap a build tool. -/
def isWrapper (t : String) : Bool := ["./gradlew", "gradlew", "./mvnw", "mvnw"].contains t

theorem withoutWrapper_self {cmd : String} (h : (tokens cmd).any isWrapper = false) :
    Remedy.withoutWrapper cmd = cmd := by
  have hself (a new : String) (ha : isWrapper a = true) : replaceToken cmd a new = cmd := by
    rw [replaceToken, if_neg]
    intro hmem
    have hany : (tokens cmd).any isWrapper = true :=
      List.any_eq_true.mpr ⟨a, List.contains_iff_mem.mp hmem, ha⟩
    exact Bool.false_ne_true (h.symm.trans hany)
  simp only [Remedy.withoutWrapper, hself _ _ (by decide : isWrapper "./gradlew" = true),
    hself _ _ (by decide : isWrapper "gradlew" = true),
    hself _ _ (by decide : isWrapper "./mvnw" = true),
    hself _ _ (by decide : isWrapper "mvnw" = true)]

theorem any_withoutWrapper (cmd : String) :
    (tokens (Remedy.withoutWrapper cmd)).any isWrapper = false := by
  have hgradle : ∀ t ∈ tokens "gradle", isWrapper t = false := List.forall_mem_singleton.mpr rfl
  have hmvn : ∀ t ∈ tokens "mvn", isWrapper t = false := List.forall_mem_singleton.mpr rfl
  rw [List.any_eq_false]
  intro t ht
  rw [Bool.not_eq_true]
  rcases mem_tokens_replaceToken ht with ⟨ht, hne₄⟩ | ht
  swap
  · exact hmvn t ht
  rcases mem_tokens_replaceToken ht with ⟨ht, hne₃⟩ | ht
  swap
  · exact hmvn t ht
  rcases mem_tokens_replaceToken ht with ⟨ht, hne₂⟩ | ht
  swap
  · exact hgradle t ht
  rcases mem_tokens_replaceToken ht with ⟨-, hne₁⟩ | ht
  swap
  · exact hgradle t ht
  simp [isWrapper, hne₁, hne₂, hne₃, hne₄]

theorem any_limitJvmStep (p : Plan) (s u : Step) :
    ((Remedy.limitJvmStep p s).tokensOf u).any isWrapper = (p.tokensOf u).any isWrapper := by
  have hworkers : (tokens "--max-workers=1").any isWrapper = false := rfl
  have hforks : (tokens "-DforkCount=1").any isWrapper = false := rfl
  unfold Remedy.limitJvmStep
  split
  · rfl
  next cmd hcmd =>
  split
  · dsimp only
    split
    · rfl
    · exact any_tokensOf_setCommand (f := (appendArgs · "--max-workers=1"))
        (p := p.setEnv s "GRADLE_OPTS" "-Xmx2g") hcmd (any_appendArgs hworkers cmd) u
  split
  · dsimp only
    split
    · exact any_tokensOf_setCommand (f := (appendArgs · "-DforkCount=1"))
        (p := p.setEnv s "MAVEN_OPTS" "-Xmx2g") hcmd (any_appendArgs hforks cmd) u
    · rfl
  · rfl

theorem any_limitJvmMemory (p : Plan) (u : Step) :
    ((Remedy.limitJvmMemory p).tokensOf u).any isWrapper = (p.tokensOf u).any isWrapper := by
  unfold Remedy.limitJvmMemory
  induction p.runnable Step.all generalizing p with
  | nil => rfl
  | cons s steps ih => rw [List.foldl_cons, ih, any_limitJvmStep]

/-- The flags that pin a build to its lock file. -/
def isLock (t : String) : Bool := isFlag "--locked" t || isFlag "--frozen" t

theorem unlocked_self {cmd : String} (h : (tokens cmd).any isLock = false) :
    Remedy.unlocked cmd = cmd := by
  have hself (flag : String) (hflag : ∀ t, isFlag flag t = true → isLock t = true) :
      removeFlag cmd flag = cmd := by
    rw [removeFlag, if_neg]
    intro hany
    obtain ⟨t, ht, hf⟩ := List.any_eq_true.mp hany
    have hlock : (tokens cmd).any isLock = true := List.any_eq_true.mpr ⟨t, ht, hflag t hf⟩
    exact Bool.false_ne_true (h.symm.trans hlock)
  rw [Remedy.unlocked, hself "--locked" fun t ht => by rw [isLock, ht, Bool.true_or],
    hself "--frozen" fun t ht => by rw [isLock, ht, Bool.or_true]]

theorem any_unlocked (cmd : String) : (tokens (Remedy.unlocked cmd)).any isLock = false := by
  rw [Remedy.unlocked, tokens_removeFlag, tokens_removeFlag, Bool.eq_false_iff, Ne,
    List.any_eq_true]
  rintro ⟨t, ht, hlock⟩
  simp only [List.mem_filter, Bool.not_eq_true'] at ht
  rw [isLock, ht.1.2, ht.2] at hlock
  cases hlock

theorem any_serialCargoTest (test : String) :
    (tokens (Remedy.serialCargoTest test)).any isLock = (tokens test).any isLock := by
  have hplain : (tokens "--test-threads=1").any isLock = false := rfl
  have hdashed : (tokens "-- --test-threads=1").any isLock = false := rfl
  unfold Remedy.serialCargoTest
  split
  · split
    · exact any_appendArgs hplain test
    · exact any_appendArgs hdashed test
  · rfl

theorem any_limitCargo (p : Plan) (u : Step) :
    ((Remedy.limitCargo p).tokensOf u).any isLock = (p.tokensOf u).any isLock := by
  unfold Remedy.limitCargo Plan.edit
  split
  next => simp [Plan.tokensOf]
  next test htest =>
    rw [any_tokensOf_setCommand htest (any_serialCargoTest test)]
    simp [Plan.tokensOf]

/-! ### Lines -/

section Lines

theorem Follows.mem_answered (h : e.Follows d p r q) : r ∈ e.answered := by
  obtain ⟨q', t, hr, -, -⟩ := h.remedied
  exact mem_answered_of_remedy? (Option.isSome_of_eq_some hr)

theorem tokensOf_eq_of_sameExecution (h : q.sameExecution p = true) (s : Step) :
    q.tokensOf s = p.tokensOf s := by
  rw [Plan.tokensOf, Plan.tokensOf, (Plan.sameExecution_iff.mp h).1 s]

theorem Follows.tokensOf_eq {q' : Plan} {t : String} (h : e.Follows d p r q)
    (hr : e.remedy? d p.revise r = some (q', t)) (s : Step) : q.tokensOf s = q'.tokensOf s := by
  obtain ⟨q'', t', hr', hcommand, -⟩ := h.remedied
  cases hr.symm.trans hr'
  rw [Plan.tokensOf, Plan.tokensOf, hcommand]

/-- The reason answered without a variable may be the one whose remedy is about installing only. -/
theorem Line.changed_of_install (ht : e.targets .lockfileDrift = [.install])
    (hother : ∀ p r q, e.Quiet d p r q → r ≠ .lockfileDrift →
      .install ∉ e.targets r ∧ e.Marks d r)
    (h : Line (e.Follows d) p rs q) (hk : e.Known before p) (hnodup : (before ++ rs).Nodup)
    (hne : rs ≠ []) : q.sameExecution p = false := by
  refine h.changed_of_mark (fun p => p.command .install) .lockfileDrift
    (fun p q hsame => (Plan.sameExecution_iff.mp hsame).1 .install)
    (fun p q hq => hq.command_ne ht) ?_ hk hnodup hne
  intro p r q hq hr
  obtain ⟨hinstall, hmarks⟩ := hother p r q hq hr
  exact ⟨hq.toFollows.command_eq hinstall, hmarks⟩

/-- Or it is the one whose remedy removes all the words of some kind. -/
theorem Line.changed_of_words (marked : String → Bool) (once : Reason)
    (honce : ∀ p q, e.Quiet d p once q →
      (fun s => (q.tokensOf s).any marked) ≠ fun s => (p.tokensOf s).any marked)
    (hother : ∀ p r q, e.Quiet d p r q → r ≠ once →
      (∀ s, (q.tokensOf s).any marked = (p.tokensOf s).any marked) ∧ e.Marks d r)
    (h : Line (e.Follows d) p rs q) (hk : e.Known before p) (hnodup : (before ++ rs).Nodup)
    (hne : rs ≠ []) : q.sameExecution p = false := by
  refine h.changed_of_mark (fun p s => (p.tokensOf s).any marked) once ?_ honce ?_ hk hnodup hne
  · intro p q hsame
    funext s
    rw [tokensOf_eq_of_sameExecution hsame]
  · intro p r q hq hr
    obtain ⟨hwords, hmarks⟩ := hother p r q hq hr
    exact ⟨funext hwords, hmarks⟩

theorem Line.changed_node (h : Line (node.Follows d) p rs q) (hk : node.Known before p)
    (hnodup : (before ++ rs).Nodup) (hne : rs ≠ []) : q.sameExecution p = false := by
  refine h.changed_of_install rfl ?_ hk hnodup hne
  intro p r q hq hr
  have hmem := hq.toFollows.mem_answered
  cases r with
  | oom | concurrencyOom => exact ⟨by decide, marks_node (by decide)⟩
  | missingDevDependencies | engineMismatch =>
    exact absurd (hq.twin?_isSome (marks_node (by decide))) (by decide)
  | lockfileDrift => exact absurd rfl hr
  | _ => exact absurd hmem (by decide)

theorem Line.changed_go (h : Line (go.Follows d) p rs q) (hk : go.Known before p)
    (hnodup : (before ++ rs).Nodup) (hne : rs ≠ []) : q.sameExecution p = false := by
  refine h.changed_of_install rfl ?_ hk hnodup hne
  intro p r q hq hr
  have hmem := hq.toFollows.mem_answered
  cases r with
  | oom | concurrencyOom => exact ⟨by decide, marks_go (by decide)⟩
  | lockfileDrift => exact absurd rfl hr
  | _ => exact absurd hmem (by decide)

theorem Line.changed_jvm (h : Line (jvm.Follows d) p rs q) (hk : jvm.Known before p)
    (hnodup : (before ++ rs).Nodup) (hne : rs ≠ []) : q.sameExecution p = false := by
  refine h.changed_of_words isWrapper .wrapperMissing ?_ ?_ hk hnodup hne
  · intro p q hq
    exact hq.any_ne_of_editAll (fun _ => rfl) (fun _ => withoutWrapper_self) any_withoutWrapper
  · intro p r q hq hr
    have hmem := hq.toFollows.mem_answered
    cases r with
    | oom | concurrencyOom =>
      refine ⟨fun s => ?_, marks_jvm (by decide)⟩
      rw [hq.toFollows.tokensOf_eq rfl, any_limitJvmMemory]
      rfl
    | wrapperMissing => exact absurd rfl hr
    | _ => exact absurd hmem (by decide)

theorem Line.changed_rust (h : Line (rust.Follows d) p rs q) (hk : rust.Known before p)
    (hnodup : (before ++ rs).Nodup) (hne : rs ≠ []) : q.sameExecution p = false := by
  refine h.changed_of_words isLock .lockfileDrift ?_ ?_ hk hnodup hne
  · intro p q hq
    exact hq.any_ne_of_editAll (fun _ => rfl) (fun _ => unlocked_self) any_unlocked
  · intro p r q hq hr
    have hmem := hq.toFollows.mem_answered
    cases r with
    | oom | concurrencyOom =>
      refine ⟨fun s => ?_, marks_rust (by decide)⟩
      rw [hq.toFollows.tokensOf_eq rfl, any_limitCargo]
      rfl
    | lockfileDrift => exact absurd rfl hr
    | _ => exact absurd hmem (by decide)

/-- Every remedy of Ruby sets a variable. -/
theorem Line.changed_ruby (h : Line (ruby.Follows d) p rs q) (hk : ruby.Known before p)
    (hnodup : (before ++ rs).Nodup) (hne : rs ≠ []) : q.sameExecution p = false := by
  refine h.changed_of_mark (fun _ => ()) .unknown (fun _ _ _ => rfl) ?_
    (fun _ _ _ _ _ => ⟨rfl, marks_ruby⟩) hk hnodup hne
  intro p q hq
  exact absurd hq.toFollows.mem_answered (by decide)

/-! ### Lighter commands -/

/-- The weight of the command of a step. -/
def weightAt (p : Plan) (s : Step) : Nat :=
  (p.command s).elim 0 fun c => Parallel.weightOf c.toList

/-- All commands are serialized. -/
theorem Follows.command_cpp (h : cpp.Follows d p r q) (s : Step) :
    q.command s = ((p.command s).map Parallel.serialized).filter fun c => !isBlankText c := by
  obtain ⟨q', t, hr, hcommand, -⟩ := h.remedied
  have hmem := h.mem_answered
  rw [hcommand]
  cases r with
  | oom | concurrencyOom =>
    cases hr
    simp only [Remedy.serializeCpp, Plan.command_setEnvWhereRunnable, Plan.command_editAll,
      Plan.command_revise]
  | _ => exact absurd hmem (by decide)

/-- Every command becomes lighter or stays. -/
theorem Follows.lightens_cpp (h : cpp.Follows d p r q) (s : Step) :
    weightAt q s ≤ weightAt p s ∧ (weightAt q s = weightAt p s → q.command s = p.command s) := by
  have hcommand := h.command_cpp s
  unfold weightAt
  cases hc : p.command s with
  | none =>
    rw [hc, Option.map_none, Option.filter_none] at hcommand
    rw [hcommand]
    exact ⟨Nat.le_refl _, fun _ => rfl⟩
  | some c =>
    have hlight := Parallel.serialized_lightens c
    rw [hc, Option.map_some, Option.filter_some] at hcommand
    rw [hcommand, Option.elim_some]
    split
    · rw [Option.elim_some]
      refine ⟨hlight.le, fun heq => ?_⟩
      rw [String.toList_inj.mp (hlight.eq heq)]
    next hblank =>
      rw [Option.elim_none]
      refine ⟨Nat.zero_le _, fun hzero => ?_⟩
      have hlen := Parallel.length_le_weightOf c.toList
      have hnil : c.toList = [] := List.eq_nil_of_length_eq_zero (by omega)
      have hc' := Plan.isBlankText_of_command hc
      rw [isBlankText, hnil] at hc'
      cases hc'

theorem Line.weightAt_le (h : Line (cpp.Follows d) p rs q) (s : Step) :
    weightAt q s ≤ weightAt p s := by
  induction h with
  | nil p => exact Nat.le_refl _
  | cons h _ ih => exact Nat.le_trans ih (h.lightens_cpp s).1

theorem Line.changed_cpp (h : Line (cpp.Follows d) p rs q) (hk : cpp.Known before p)
    (hne : rs ≠ []) : q.sameExecution p = false := by
  refine Bool.eq_false_iff.mpr fun hsame => ?_
  obtain ⟨hcommands, henv⟩ := Plan.sameExecution_iff.mp hsame
  cases h with
  | nil p => exact hne rfl
  | @cons p next q r rs h rest =>
    have hnext : next.sameExecution p = true := by
      refine Plan.sameExecution_iff.mpr ⟨fun s => ?_, h.env_eq rest hk henv⟩
      refine (h.lightens_cpp s).2 (Nat.le_antisymm (h.lightens_cpp s).1 ?_)
      calc weightAt p s
        _ = weightAt q s := by rw [weightAt, weightAt, hcommands s]
        _ ≤ weightAt next s := rest.weightAt_le s
    exact Bool.false_ne_true (h.changed.symm.trans hnext)

/-- Of any ecosystem but Python's, no plan of a line runs what an earlier one ran. -/
theorem Line.changed (he : e ≠ .python) (h : Line (e.Follows d) p rs q) (hk : e.Known before p)
    (hnodup : (before ++ rs).Nodup) (hne : rs ≠ []) : q.sameExecution p = false := by
  cases e with
  | node => exact h.changed_node hk hnodup hne
  | python => exact absurd rfl he
  | go => exact h.changed_go hk hnodup hne
  | jvm => exact h.changed_jvm hk hnodup hne
  | ruby => exact h.changed_ruby hk hnodup hne
  | rust => exact h.changed_rust hk hnodup hne
  | cpp => exact h.changed_cpp hk hne
  | generic =>
    cases h with
    | nil p => exact absurd rfl hne
    | cons h _ => exact absurd h.mem_answered List.not_mem_nil

end Lines

end Ecosystem

end PatchTrial
