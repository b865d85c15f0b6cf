import PatchTrial.Proofs.SerialForm
import PatchTrial.Proofs.Slots

/-!
# Steps treated one by one

The remedies against a lack of memory, and Ruby's one for missing tools, treat every step by
itself: its command is rewritten and variables are set for it; a step without a command is left
alone. Each of them finds nothing to do in a plan that it has treated.

Main statement: `remedy?_runsOnce`.
-/
namespace PatchTrial

open Command

/-! ### Treatments -/

/-- What is done to the command of each step, and what variables are set for it. -/
structure Treatment where
  rewrite : Step → String → String
  vars : Step → String → List (String × String)

namespace Treatment

variable {t : Treatment} {F : Plan → Plan}

/-- The edit treats every step so. -/
def Describes (t : Treatment) (F : Plan → Plan) : Prop :=
  ∀ p s, (F p).slot s = (p.slot s).treat (t.rewrite s) (t.vars s)

/-- A command that was rewritten is left as it is, and gets the same variables. -/
structure Settles (t : Treatment) : Prop where
  rewrite : ∀ s c, t.rewrite s (t.rewrite s c) = t.rewrite s c
  vars : ∀ s c, t.vars s (t.rewrite s c) = t.vars s c
  nodup : ∀ s c, ((t.vars s c).map Prod.fst).Nodup

theorem Settles.treat_treat (h : t.Settles) (s : Step) (x : Plan.Slot) :
    (x.treat (t.rewrite s) (t.vars s)).treat (t.rewrite s) (t.vars s) =
      x.treat (t.rewrite s) (t.vars s) := by
  obtain ⟨command, env⟩ := x
  cases command with
  | none => rfl
  | some c => simp only [Plan.Slot.treat, h.rewrite, h.vars, Plan.assign_assign (h.nodup s c)]

end Treatment

/-- A step without a command is left alone. -/
theorem Treatment.Describes.slot_of_none {t : Treatment} {F : Plan → Plan} (h : t.Describes F)
    {p : Plan} {s : Step} (hs : p.command s = none) : (F p).slot s = p.slot s :=
  (h p s).trans (Plan.Slot.treat_of_none hs _ _)

/-- After an edit, the same edit changes no step any more. -/
def RunsOnce (F : Plan → Plan) : Prop :=
  ∀ p q, (∀ s, q.slot s = (F p).slot s) → ∀ s, (F q).slot s = q.slot s

theorem Treatment.Describes.runsOnce {t : Treatment} {F : Plan → Plan} (h : t.Describes F)
    (ht : t.Settles) : RunsOnce F := by
  intro p q hq s
  rw [h, hq, h, ht.treat_treat]

namespace Remedy

variable {d : Detection} {p : Plan}

/-! ### Commands -/

/-- Rewriting the tests only. -/
def onTests (f : String → String) (s : Step) (c : String) : String := if s = .test then f c else c

theorem onTests_onTests {f : String → String} (hf : ∀ c, f (f c) = f c) (s : Step) (c : String) :
    onTests f s (onTests f s c) = onTests f s c := by
  unfold onTests
  split
  · exact hf c
  · rfl

/-- The flag that makes the runner of some tests use one worker. -/
def workerFlag (d : Detection) (test : String) : String :=
  if d.framework.any (fun f => Text.asciiLower f.toList == "jest".toList) ||
    Plan.mentions test "jest" then "--runInBand" else "--maxWorkers=1"

def serialNodeTest (d : Detection) (test : String) : String :=
  if hasToken test (workerFlag d test) then test else appendPassthrough test (workerFlag d test)

/-- The flag is appended, alone or behind `--`. -/
theorem serialNodeTest_cases (d : Detection) (test : String) :
    serialNodeTest d test = test ∨ ∃ args, serialNodeTest d test = appendArgs test args ∧
      hasToken args (workerFlag d test) = true ∧ Plan.mentions args "jest" = false := by
  have hflag : ∀ flag ∈ ["--runInBand", "--maxWorkers=1"], ∀ args ∈ [flag, "-- " ++ flag],
      hasToken args flag = true ∧ Plan.mentions args "jest" = false := by
    decide +kernel
  have hmem : workerFlag d test ∈ ["--runInBand", "--maxWorkers=1"] := by
    unfold workerFlag
    split <;> decide
  unfold serialNodeTest appendPassthrough
  split
  · exact Or.inl rfl
  split
  · exact Or.inr ⟨_, rfl, hflag _ hmem _ (by simp)⟩
  · exact Or.inr ⟨_, rfl, hflag _ hmem _ (by simp)⟩

theorem serialNodeTest_serialNodeTest (d : Detection) (test : String) :
    serialNodeTest d (serialNodeTest d test) = serialNodeTest d test := by
  rcases serialNodeTest_cases d test with heq | ⟨args, heq, htoken, hjest⟩
  · rw [heq, heq]
  · have hflag : workerFlag d (appendArgs test args) = workerFlag d test := by
      unfold workerFlag
      rw [mentions_appendArgs (.of_all rfl), hjest, Bool.or_false]
    rw [heq, serialNodeTest, hflag, hasToken_appendArgs, htoken, Bool.or_true, if_pos rfl]

/-- The tests of go, with one package at a time. -/
def serialGoTest (test : String) : String :=
  if hasToken test "-p" then test else (insertAfterPair? test "go" "test" "-p 1").getD test

theorem serialGoTest_cases (test : String) :
    serialGoTest test = test ∨ hasToken (serialGoTest test) "-p" = true := by
  unfold serialGoTest
  split
  · exact Or.inl rfl
  cases hnext : insertAfterPair? test "go" "test" "-p 1" with
  | none => exact Or.inl rfl
  | some next =>
    exact Or.inr (List.contains_iff_mem.mpr (mem_of_insertAfterPair? hnext (by decide)))

theorem serialGoTest_serialGoTest (test : String) :
    serialGoTest (serialGoTest test) = serialGoTest test := by
  rcases serialGoTest_cases test with heq | htoken
  · rw [heq, heq]
  · generalize serialGoTest test = next at htoken
    rw [serialGoTest, if_pos htoken]

theorem serialCargoTest_cases (test : String) :
    serialCargoTest test = test ∨ ∃ args, serialCargoTest test = appendArgs test args ∧
      "--test-threads=1" ∈ tokens args ∧ Plan.mentions args "--test-threads" = true := by
  unfold serialCargoTest
  split
  · split
    · exact Or.inr ⟨_, rfl, by decide, by decide⟩
    · exact Or.inr ⟨_, rfl, by decide, by decide⟩
  · exact Or.inl rfl

theorem serialCargoTest_serialCargoTest (test : String) :
    serialCargoTest (serialCargoTest test) = serialCargoTest test := by
  rcases serialCargoTest_cases test with heq | ⟨args, heq, -, hthreads⟩
  · rw [heq, heq]
  · have hmention : Plan.mentions (appendArgs test args) "--test-threads" = true := by
      rw [mentions_appendArgs (.of_all rfl), hthreads, Bool.or_true]
    rw [heq, serialCargoTest, hmention, Bool.not_true, Bool.and_false, if_neg Bool.false_ne_true]

theorem throughBundler_throughBundler (test : String) :
    throughBundler (throughBundler test) = throughBundler test := by
  have hbundle (rest : String) :
      "bundle ".toList.isPrefixOf (Text.trimStart ("bundle exec " ++ rest).toList) = true := by
    rw [String.toList_append]
    rfl
  by_cases h : "bundle ".toList.isPrefixOf (Text.trimStart test.toList) = true
  · have hself : throughBundler test = test := if_pos h
    rw [hself, hself]
  · have hexec : throughBundler test = "bundle exec " ++ trimmed test := if_neg h
    rw [hexec, throughBundler, if_pos (hbundle _)]

/-- Whether a command runs Maven. -/
def runsMaven (cmd : String) : Bool := hasToken cmd "mvn" || Plan.mentions cmd "mvnw"

/-- A command of a build tool of the JVM, run with one worker. -/
def limitedJvm (s : Step) (cmd : String) : String :=
  if Plan.mentions cmd "gradle" then
    if hasTokenStart cmd "--max-workers" then cmd else appendArgs cmd "--max-workers=1"
  else if runsMaven cmd then
    if s = .test ∧ !hasTokenStart cmd "-DforkCount" then appendArgs cmd "-DforkCount=1" else cmd
  else cmd

/-- The variable that limits the memory of a build tool of the JVM. -/
def jvmVars (cmd : String) : List (String × String) :=
  if Plan.mentions cmd "gradle" then [("GRADLE_OPTS", "-Xmx2g")]
  else if runsMaven cmd then [("MAVEN_OPTS", "-Xmx2g")]
  else []

theorem runsMaven_appendArgs (cmd args : String) :
    runsMaven (appendArgs cmd args) = (runsMaven cmd || runsMaven args) := by
  rw [runsMaven, hasToken_appendArgs, mentions_appendArgs (.of_all rfl)]
  simp only [runsMaven, Bool.or_assoc, Bool.or_left_comm]

theorem mentions_gradle_appendArgs (cmd args : String) :
    Plan.mentions (appendArgs cmd args) "gradle" =
      (Plan.mentions cmd "gradle" || Plan.mentions args "gradle") :=
  mentions_appendArgs (.of_all rfl) cmd args

theorem limitedJvm_cases (s : Step) (cmd : String) :
    limitedJvm s cmd = cmd ∨
      Plan.mentions cmd "gradle" = true ∧ limitedJvm s cmd = appendArgs cmd "--max-workers=1" ∨
      Plan.mentions cmd "gradle" = false ∧ limitedJvm s cmd = appendArgs cmd "-DforkCount=1" := by
  unfold limitedJvm
  split
  next hgradle =>
    split
    · exact Or.inl rfl
    · exact Or.inr (Or.inl ⟨hgradle, rfl⟩)
  next hgradle =>
    split
    · split
      · exact Or.inr (Or.inr ⟨Bool.eq_false_iff.mpr hgradle, rfl⟩)
      · exact Or.inl rfl
    · exact Or.inl rfl

theorem jvmVars_limitedJvm (s : Step) (cmd : String) :
    jvmVars (limitedJvm s cmd) = jvmVars cmd := by
  have hforks : Plan.mentions "-DforkCount=1" "gradle" = false := by decide
  have hmaven : runsMaven "-DforkCount=1" = false := by decide
  rcases limitedJvm_cases s cmd with heq | ⟨hgradle, heq⟩ | ⟨hgradle, heq⟩
  · rw [heq]
  · simp only [heq, jvmVars, mentions_gradle_appendArgs, hgradle, Bool.true_or, if_true]
  · simp only [heq, jvmVars, mentions_gradle_appendArgs, runsMaven_appendArgs, hgradle, hforks,
      hmaven, Bool.or_false]

theorem limitedJvm_limitedJvm (s : Step) (cmd : String) :
    limitedJvm s (limitedJvm s cmd) = limitedJvm s cmd := by
  have hworkers : hasTokenStart "--max-workers=1" "--max-workers" = true := by decide
  have hforks : Plan.mentions "-DforkCount=1" "gradle" = false := by decide
  have hfork : hasTokenStart "-DforkCount=1" "-DforkCount" = true := by decide
  rcases limitedJvm_cases s cmd with heq | ⟨hgradle, heq⟩ | ⟨hgradle, heq⟩
  · rw [heq, heq]
  · rw [heq]
    simp [limitedJvm, mentions_gradle_appendArgs, hgradle, hasTokenStart_appendArgs, hworkers]
  · rw [heq]
    simp [limitedJvm, mentions_gradle_appendArgs, hgradle, hforks, hasTokenStart_appendArgs,
      hfork]

/-! ### Remedies -/

section Described

variable {steps : List Step} {s : Step} {vars : List (String × String)}

/-- The variables of a remedy, for some of the steps. -/
def varsAt (steps : List Step) (vars : List (String × String)) (s : Step) (_ : String) :
    List (String × String) :=
  if s ∈ steps then vars else []

theorem nodup_varsAt (h : (vars.map Prod.fst).Nodup) (s : Step) (c : String) :
    ((varsAt steps vars s c).map Prod.fst).Nodup := by
  unfold varsAt
  split
  · exact h
  · exact List.nodup_nil

theorem varsAt_nil (steps : List Step) (s : Step) : varsAt steps [] s = fun _ => [] :=
  funext fun _ => ite_self _

/-- One more variable for the same steps. -/
theorem slot_setEnv_varsAt {q : Plan} {f : String → String} (hnodup : steps.Nodup)
    (hq : q.slot s = (p.slot s).treat f (varsAt steps vars s)) (key value : String) :
    (q.setEnvWhereRunnable steps key value).slot s =
      (p.slot s).treat f (varsAt steps (vars ++ [(key, value)]) s) := by
  rw [Plan.slot_setEnvWhereRunnable hnodup, hq, Plan.Slot.treat_treat, Function.id_comp]
  congr 1
  funext c
  unfold varsAt
  split
  · rfl
  · rfl

theorem onTests_of_ne (f : String → String) (h : s ≠ .test) : onTests f s = id :=
  funext fun _ => if_neg h

/-- Editing the tests of a plan whose steps were given variables. -/
theorem slot_edit_tests {f : String → String} {vs : String → List (String × String)} {q : Plan}
    (hf : Plan.KeepsText f) (hq : q.slot s = (p.slot s).treat id vs) :
    (q.edit .test f).slot s = (p.slot s).treat (onTests f s) vs := by
  by_cases hs : s = .test
  · subst hs
    rw [Plan.slot_edit_self hf, hq, Plan.Slot.treat_treat]
    simp only [List.append_nil]
    rfl
  · rw [Plan.slot_edit_of_ne hs, hq, onTests_of_ne f hs]

theorem edit_congr {f g : String → String} (h : ∀ c, p.command s = some c → f c = g c) :
    p.edit s f = p.edit s g := by
  unfold Plan.edit
  split
  · rfl
  next c hc => rw [h c hc]

theorem settles_varsAt {f : Step → String → String} (hf : ∀ s c, f s (f s c) = f s c)
    (hvars : (vars.map Prod.fst).Nodup) : Treatment.Settles ⟨f, varsAt steps vars⟩ :=
  ⟨hf, fun _ _ => rfl, nodup_varsAt hvars⟩

/-! ### Node -/

def nodeMemory (d : Detection) : Treatment where
  rewrite := onTests (serialNodeTest d)
  vars := varsAt Step.all (Ecosystem.node.assigned .oom)

theorem serialNodeTest_keepsText (d : Detection) : Plan.KeepsText (serialNodeTest d) := by
  intro test htest
  rcases serialNodeTest_cases d test with heq | ⟨args, heq, htoken, -⟩
  · rwa [heq]
  · rw [heq]
    exact isBlankText_appendArgs (List.contains_iff_mem.mp htoken)

theorem limitNodeMemory_eq (d : Detection) (p : Plan) :
    limitNodeMemory d p = (p.setEnvWhereRunnable Step.all "NODE_OPTIONS"
      "--max-old-space-size=4096").edit .test (serialNodeTest d) := by
  refine edit_congr fun test htest => ?_
  rw [serialTestFlag, htest]
  rfl

theorem nodeMemory_describes (d : Detection) : (nodeMemory d).Describes (limitNodeMemory d) := by
  intro p s
  rw [limitNodeMemory_eq]
  exact slot_edit_tests (serialNodeTest_keepsText d) (Plan.slot_setEnvWhereRunnable (by decide))

theorem nodeMemory_settles (d : Detection) : (nodeMemory d).Settles :=
  settles_varsAt (onTests_onTests (serialNodeTest_serialNodeTest d)) (by decide)

/-! ### Rust -/

def cargoLimits : Treatment where
  rewrite := onTests serialCargoTest
  vars := varsAt Step.all (Ecosystem.rust.assigned .oom)

theorem serialCargoTest_keepsText : Plan.KeepsText serialCargoTest := by
  intro test htest
  rcases serialCargoTest_cases test with heq | ⟨args, heq, hmem, -⟩
  · rwa [heq]
  · rw [heq]
    exact isBlankText_appendArgs hmem

theorem cargoLimits_describes : cargoLimits.Describes limitCargo := fun _ _ =>
  slot_edit_tests serialCargoTest_keepsText (Plan.slot_setEnvWhereRunnable (by decide))

theorem cargoLimits_settles : cargoLimits.Settles :=
  settles_varsAt (onTests_onTests serialCargoTest_serialCargoTest) (by decide)

/-! ### Go -/

def goMemory : Treatment where
  rewrite := onTests serialGoTest
  vars := varsAt buildSteps (Ecosystem.go.assigned .oom)

theorem serialGoTest_keepsText : Plan.KeepsText serialGoTest := by
  intro test htest
  rcases serialGoTest_cases test with heq | htoken
  · rwa [heq]
  · exact isBlankText_of_mem (List.contains_iff_mem.mp htoken)

theorem serializeGoTest_eq (p : Plan) : serializeGoTest p = p.edit .test serialGoTest := by
  unfold serializeGoTest Plan.edit
  cases htest : p.command .test with
  | none => rfl
  | some test =>
    have hself := Plan.setCommand_of_command htest
    unfold serialGoTest
    dsimp only
    split
    · exact hself.symm
    · cases insertAfterPair? test "go" "test" "-p 1" with
      | none => exact hself.symm
      | some next => rfl

theorem goMemory_describes : goMemory.Describes limitGoMemory := by
  intro p s
  have hnodup : buildSteps.Nodup := by decide
  have hedit := slot_edit_tests serialGoTest_keepsText (p.slot s).treat_id.symm
  rw [← serializeGoTest_eq, ← varsAt_nil buildSteps s] at hedit
  exact slot_setEnv_varsAt hnodup (slot_setEnv_varsAt hnodup hedit _ _) _ _

theorem goMemory_settles : goMemory.Settles :=
  settles_varsAt (onTests_onTests serialGoTest_serialGoTest) (by decide)

/-! ### C++ -/

def singleJob : Treatment where
  rewrite _ := Parallel.serialized
  vars := varsAt buildSteps (Ecosystem.cpp.assigned .oom)

theorem serialized_keepsText : Plan.KeepsText Parallel.serialized := by
  intro c hc
  have htext : ∃ ch ∈ c.toList, Text.isBlank ch = false := by
    by_contra hall
    push Not at hall
    have hblank := isBlankText_iff.mpr fun ch hch => by simpa using hall ch hch
    cases hc.symm.trans hblank
  obtain ⟨ch, hmem, hch⟩ := (Parallel.replaced_oneLevel _).exists_not_blank rfl
    ((Parallel.replaced_oneJob _).exists_not_blank rfl htext)
  refine Bool.eq_false_iff.mpr fun hblank => ?_
  have hall := isBlankText_iff.mp hblank ch (by rwa [Parallel.serialized, String.toList_ofList])
  cases hch.symm.trans hall

theorem singleJob_describes : singleJob.Describes serializeCpp := by
  intro p s
  have hnodup : buildSteps.Nodup := by decide
  have hedit := Plan.slot_editAll serialized_keepsText (p := p) (s := s)
  rw [← varsAt_nil buildSteps s] at hedit
  exact slot_setEnv_varsAt hnodup (slot_setEnv_varsAt hnodup
    (slot_setEnv_varsAt hnodup hedit _ _) _ _) _ _

theorem singleJob_settles : singleJob.Settles :=
  settles_varsAt (fun _ => Parallel.serialized_serialized) (by decide)

/-! ### JVM -/

def jvmMemory : Treatment where
  rewrite := limitedJvm
  vars _ := jvmVars

/-- The command and the variable of a step of the JVM are chosen by the same questions. -/
theorem slot_limitJvmStep {p : Plan} {c : String} (hc : p.command s = some c) :
    (limitJvmStep p s).slot s = ⟨some (limitedJvm s c), Plan.assign (jvmVars c) (p.env.get s)⟩ := by
  have hset (key value : String) :
      (p.setEnv s key value).slot s = ⟨some c, Plan.assign [(key, value)] (p.env.get s)⟩ := by
    rw [Plan.slot_setEnv_self, hc]
  have happend (key value : String) {args t : String} (ht : t ∈ tokens args) :
      ((p.setEnv s key value).setCommand s (some (appendArgs c args))).slot s =
        ⟨some (appendArgs c args), Plan.assign [(key, value)] (p.env.get s)⟩ := by
    rw [Plan.slot, Plan.command_setCommand_text _ _ (isBlankText_appendArgs ht)]
    exact congrArg (Plan.Slot.mk _) (congrArg Plan.Slot.env (hset key value))
  have hworkers : "--max-workers=1" ∈ tokens "--max-workers=1" := by decide
  have hforks : "-DforkCount=1" ∈ tokens "-DforkCount=1" := by decide
  have hcondition : (hasToken c "mvn" || Plan.mentions c "mvnw") = runsMaven c := rfl
  simp only [limitJvmStep, hc, limitedJvm, jvmVars, hcondition]
  by_cases hgradle : Plan.mentions c "gradle" = true
  · simp only [if_pos hgradle]
    split
    · exact hset _ _
    · exact happend _ _ hworkers
  by_cases hmaven : runsMaven c = true
  · simp only [if_neg hgradle, if_pos hmaven]
    split
    · exact happend _ _ hforks
    · exact hset _ _
  · simp only [if_neg hgradle, if_neg hmaven]
    rw [Plan.slot, hc]
    rfl

theorem limitJvmStep_self (p : Plan) (s : Step) :
    (limitJvmStep p s).slot s = (p.slot s).treat (limitedJvm s) jvmVars := by
  cases hc : p.command s with
  | none => rw [limitJvmStep, hc, Plan.Slot.treat_of_none hc]
  | some c =>
    rw [slot_limitJvmStep hc, Plan.slot, hc]
    rfl

theorem limitJvmStep_of_ne (p : Plan) (s u : Step) (h : u ≠ s) :
    (limitJvmStep p s).slot u = p.slot u := by
  unfold limitJvmStep
  split
  · rfl
  split
  · dsimp only
    split
    · exact Plan.slot_setEnv_of_ne h
    · exact (Plan.slot_setCommand_of_ne h _).trans (Plan.slot_setEnv_of_ne h)
  split
  · dsimp only
    split
    · exact (Plan.slot_setCommand_of_ne h _).trans (Plan.slot_setEnv_of_ne h)
    · exact Plan.slot_setEnv_of_ne h
  · rfl

theorem jvmMemory_describes : jvmMemory.Describes limitJvmMemory := by
  intro p s
  rw [limitJvmMemory, Plan.slot_foldl_treat (fun s x => x.treat (limitedJvm s) jvmVars)
    limitJvmStep_self limitJvmStep_of_ne (fun _ _ _ _ => rfl) (by decide), if_pos s.mem_all]
  rfl

theorem jvmMemory_settles : jvmMemory.Settles where
  rewrite := limitedJvm_limitedJvm
  vars := jvmVars_limitedJvm
  nodup _ c := by
    dsimp only [jvmMemory, jvmVars]
    split
    · decide
    · split <;> decide

/-! ### Ruby -/

def bundlerGroups : Treatment where
  rewrite := onTests throughBundler
  vars := varsAt [.install] (Ecosystem.ruby.assigned .missingDevDependencies)

/-- A plan that is given the plain install command if it has none. -/
def withInstall (p : Plan) : Plan :=
  if (p.command .install).isNone then p.setCommand .install (some "bundle install") else p

theorem withInstall_command (p : Plan) : ∃ c, (withInstall p).command .install = some c := by
  unfold withInstall
  split
  · exact ⟨_, p.command_setCommand_text _ (by decide)⟩
  next h => exact Option.ne_none_iff_exists'.mp (by simpa using h)

theorem withInstall_of_command {c : String} (h : p.command .install = some c) :
    withInstall p = p := by
  rw [withInstall, h]
  rfl

theorem throughBundler_keepsText : Plan.KeepsText throughBundler := by
  intro test htest
  unfold throughBundler
  split
  · exact htest
  · have htext : ("bundle exec " ++ trimmed test).toList =
        "bundle exec".toList ++ ' ' :: (trimmed test).toList := by
      simp
    refine isBlankText_of_mem (t := "bundle") ?_
    rw [tokens, htext, Text.words_append_blank (by decide), List.map_append]
    exact List.mem_append_left _ (by decide)

/-- Once there is an install command, the steps are treated one by one. -/
theorem slot_installBundlerGroups (p : Plan) (s : Step) :
    (installBundlerGroups p).slot s =
      ((withInstall p).slot s).treat (bundlerGroups.rewrite s) (bundlerGroups.vars s) := by
  obtain ⟨c, hc⟩ := withInstall_command p
  refine slot_edit_tests throughBundler_keepsText ?_
  by_cases hs : s = .install
  · subst hs
    have hset : ((withInstall p).setEnv .install "BUNDLE_WITHOUT" "").slot .install =
        ((withInstall p).slot .install).treat id (bundlerGroups.vars .install) := by
      rw [Plan.slot_setEnv_self, Plan.slot, hc]
      rfl
    exact hset
  · have hvars : bundlerGroups.vars s = fun _ => [] := funext fun _ => if_neg (by simpa using hs)
    rw [hvars, Plan.Slot.treat_id]
    exact Plan.slot_setEnv_of_ne hs

theorem bundlerGroups_settles : bundlerGroups.Settles :=
  settles_varsAt (onTests_onTests throughBundler_throughBundler) (by decide)

theorem installBundlerGroups_runsOnce : RunsOnce installBundlerGroups := by
  intro p q hq s
  obtain ⟨c, hc⟩ := withInstall_command p
  have hinstall : q.command .install = some c := by
    have hslot := (hq .install).trans (slot_installBundlerGroups p .install)
    rw [Plan.slot, Plan.slot, hc] at hslot
    exact congrArg Plan.Slot.command hslot
  rw [slot_installBundlerGroups, withInstall_of_command hinstall, hq, slot_installBundlerGroups]
  exact bundlerGroups_settles.treat_treat s _

end Described

end Remedy

namespace Ecosystem

variable {e : Ecosystem} {r r' : Reason}

/-- The remedy that both reasons of a lack of memory share treats every step by itself. -/
theorem remedy?_memory (htwin : e.twin? r = some r') (hr : r = .oom ∨ r = .concurrencyOom)
    (d : Detection) :
    ∃ (τ : Treatment) (F : Plan → Plan) (text : String), τ.Describes F ∧ τ.Settles ∧
      (∀ p, e.remedy? d p r = some (F p, text)) ∧ ∀ p, e.remedy? d p r' = some (F p, text) := by
  cases e with
  | node =>
    rcases hr with rfl | rfl <;> cases htwin <;> exact ⟨_, _, _, Remedy.nodeMemory_describes d,
      Remedy.nodeMemory_settles d, fun _ => rfl, fun _ => rfl⟩
  | go =>
    rcases hr with rfl | rfl <;> cases htwin <;> exact ⟨_, _, _, Remedy.goMemory_describes,
      Remedy.goMemory_settles, fun _ => rfl, fun _ => rfl⟩
  | jvm =>
    rcases hr with rfl | rfl <;> cases htwin <;> exact ⟨_, _, _, Remedy.jvmMemory_describes,
      Remedy.jvmMemory_settles, fun _ => rfl, fun _ => rfl⟩
  | rust =>
    rcases hr with rfl | rfl <;> cases htwin <;> exact ⟨_, _, _, Remedy.cargoLimits_describes,
      Remedy.cargoLimits_settles, fun _ => rfl, fun _ => rfl⟩
  | cpp =>
    rcases hr with rfl | rfl <;> cases htwin <;> exact ⟨_, _, _, Remedy.singleJob_describes,
      Remedy.singleJob_settles, fun _ => rfl, fun _ => rfl⟩
  | python | ruby | generic => rcases hr with rfl | rfl <;> cases htwin

/-- But for Python, the remedy that two reasons share finds nothing to do after itself. -/
theorem remedy?_runsOnce (he : e ≠ .python) (htwin : e.twin? r = some r') (d : Detection) :
    ∃ F text, RunsOnce F ∧ (∀ p, e.remedy? d p r = some (F p, text)) ∧
      ∀ p, e.remedy? d p r' = some (F p, text) := by
  by_cases hr : r = .oom ∨ r = .concurrencyOom
  · obtain ⟨τ, F, text, hF, hτ, hboth⟩ := remedy?_memory htwin hr d
    exact ⟨F, text, hF.runsOnce hτ, hboth⟩
  · -- the other reasons that share a remedy are those of missing tools
    cases e with
    | python => exact absurd rfl he
    | ruby =>
      have honce := Remedy.installBundlerGroups_runsOnce
      cases r <;> cases htwin <;> exact ⟨_, _, honce, fun _ => rfl, fun _ => rfl⟩
    | _ => cases r <;> cases htwin <;> simp at hr

end Ecosystem

end PatchTrial
