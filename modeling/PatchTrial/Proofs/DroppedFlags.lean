import PatchTrial.Proofs.PythonSteps
import PatchTrial.Proofs.WordEdits

/-!
# Flags that remedies drop

Four remedies drop flags from commands and may put nothing in the place of them. The words of each
command afterwards are those before without the flags, but for a few that are appended, and but for
`npm ci`, which becomes `npm install` first.

An option is dropped as one word. So the value of an `--omit` that stands apart from it is left in
the command, where it reads as the name of a package.

Main statement: `dev_dependencies_whole_iff`.
-/
namespace PatchTrial

open Command

theorem Plan.tokensOf_eq_nil_iff {p : Plan} {s : Step} :
    p.tokensOf s = [] ↔ p.command s = none := by
  unfold tokensOf
  cases hc : p.command s with
  | none => exact iff_of_true rfl rfl
  | some c =>
    refine iff_of_false (fun h => ?_) (Option.some_ne_none c)
    exact Bool.false_ne_true ((isBlankText_of_command hc).symm.trans (tokens_eq_nil_iff.mp h))

theorem Plan.tokensOf_of_command {p : Plan} {s : Step} {c : String} (h : p.command s = some c) :
    p.tokensOf s = tokens c := by
  rw [tokensOf, h, Option.elim_some]

namespace Ecosystem

variable {d : Detection} {p q : Plan} {f : Failure} {s : Step} {install t : String}
  {ts : List String}

/-- The flags that the remedy for a reason drops, whatever is left of the command. -/
def droppedFlags : Ecosystem → Reason → List String
  | .node, .lockfileDrift => ["--frozen-lockfile", "--immutable"]
  | .node, .missingDevDependencies => ["--production", "--prod", "--omit"]
  | .ruby, .lockfileDrift => ["--frozen", "--deployment"]
  | .rust, .lockfileDrift => ["--locked", "--frozen"]
  | _, _ => []

/-! ### Rust and Ruby -/

theorem Follows.tokensOf_unlocked (h : rust.Follows d p .lockfileDrift q) (s : Step) :
    q.tokensOf s = withoutFlags (rust.droppedFlags .lockfileDrift) (p.tokensOf s) := by
  obtain ⟨q', t, hr, -⟩ := h.remedied
  rw [h.tokensOf_eq hr]
  cases hr
  rw [Plan.tokensOf, Plan.command_editAll, Plan.elim_filter_tokens, Plan.command_revise,
    Plan.tokensOf]
  cases p.command s with
  | none => rfl
  | some c =>
    simp only [Option.map_some, Option.elim_some, droppedFlags, ← tokens_removeFlags,
      List.foldl_cons, List.foldl_nil, Remedy.unlocked]

theorem Follows.tokensOf_bundler (h : ruby.Follows d p .lockfileDrift q) :
    q.tokensOf .install =
      withoutFlags (ruby.droppedFlags .lockfileDrift) (p.tokensOf .install) := by
  obtain ⟨q', t, hr, -⟩ := h.remedied
  rw [h.tokensOf_eq hr]
  obtain ⟨install, hc, hq'⟩ := Option.bind_eq_some_iff.mp (Remedy.of_map_described hr)
  rw [Plan.command_revise] at hc
  cases hq'
  rw [Plan.tokensOf_of_command hc]
  change (p.revise.setCommand .install _).tokensOf .install = _
  simp only [Plan.tokensOf_setCommand_self, Option.elim_some, droppedFlags, ← tokens_removeFlags,
    List.foldl_cons, List.foldl_nil]

/-! ### Node -/

/-- The flag that lets pnpm change the lock file, unless it is given. -/
def thawed (ts : List String) : List String :=
  if ts.contains "pnpm" && !ts.contains "--no-frozen-lockfile" then ["--no-frozen-lockfile"] else []

/-- The flag that makes npm install what is needed for development, unless it is given. -/
def includesDev (ts : List String) : List String :=
  if ts.contains "npm" && !ts.any ("--include=dev".toList.isPrefixOf ·.toList) then
    ["--include=dev"]
  else []

/-- A flag that is appended under a condition. -/
theorem tokens_appendArgs_if {c : Bool} {cmd arg : String} (harg : tokens arg = [arg]) :
    tokens (if c then appendArgs cmd arg else cmd) = tokens cmd ++ if c then [arg] else [] := by
  cases c with
  | true => rw [if_pos rfl, if_pos rfl, tokens_appendArgs, harg]
  | false => rw [if_neg Bool.false_ne_true, if_neg Bool.false_ne_true, List.append_nil]

theorem Follows.tokensOf_relaxed (h : node.Follows d p .lockfileDrift q) :
    ∃ ts, PairsReplaced "npm" "ci" ["npm", "install"] (p.tokensOf .install) ts ∧
      q.tokensOf .install = withoutFlags (node.droppedFlags .lockfileDrift) ts ++
        thawed (withoutFlags (node.droppedFlags .lockfileDrift) ts) := by
  obtain ⟨q', t, hr, -⟩ := h.remedied
  rw [h.tokensOf_eq hr]
  obtain ⟨install, hc, hq'⟩ := Option.bind_eq_some_iff.mp (Remedy.of_map_described hr)
  rw [Plan.command_revise] at hc
  rw [Plan.tokensOf_of_command hc]
  refine ⟨_, pairsReplaced_replacePair install "npm" "ci" "npm install", ?_⟩
  cases hq'
  have hset (c : String) :
      (if Remedy.usesYarn d install then
        (p.revise.setCommand .install (some c)).setEnv .install "YARN_ENABLE_IMMUTABLE_INSTALLS"
          "false"
      else p.revise.setCommand .install (some c)).tokensOf .install = tokens c := by
    have hplain := p.revise.tokensOf_setCommand_self .install (some c)
    split
    · exact hplain
    · exact hplain
  simp only [hset, hasToken, thawed, droppedFlags, ← tokens_removeFlags, List.foldl_cons,
    List.foldl_nil]
  exact tokens_appendArgs_if rfl

theorem Follows.tokensOf_devTools (h : node.Follows d p .missingDevDependencies q)
    (hc : p.command .install = some install) :
    q.tokensOf .install =
      withoutFlags (node.droppedFlags .missingDevDependencies) (tokens install) ++
        includesDev
          (withoutFlags (node.droppedFlags .missingDevDependencies) (tokens install)) := by
  obtain ⟨q', t, hr, -⟩ := h.remedied
  rw [h.tokensOf_eq hr]
  cases hr
  change (p.revise.setCommand .install _).tokensOf .install = _
  simp only [Plan.tokensOf_setCommand_self, Plan.command_revise, hc, Option.elim_some,
    Option.getD_some, hasToken, hasTokenStart, includesDev, droppedFlags, ← tokens_removeFlags,
    List.foldl_cons, List.foldl_nil]
  exact tokens_appendArgs_if rfl

/-! ### Options with a value -/

/-- The flags that keep development dependencies from being installed. -/
abbrev omissions : List String := node.droppedFlags .missingDevDependencies

/-- The words of a command without the options for production, and without every `--omit` together
with its value. -/
def withoutOmissions (ts : List String) : List String :=
  withoutFlags ["--production", "--prod"] (dropFlagValues "--omit" ts)

/-- The values of `--omit` that are none of the flags themselves. -/
def strayValues (ts : List String) : List String := withoutFlags omissions (flagValues "--omit" ts)

theorem isAnyFlag_of_omit (h : isFlag "--omit" t = true) : isAnyFlag omissions t = true :=
  List.any_eq_true.mpr ⟨"--omit", by decide, h⟩

/-- Without its values, no `--omit` is left to be dropped. -/
theorem withoutOmissions_eq (ts : List String) :
    withoutOmissions ts = withoutFlags omissions (dropFlagValues "--omit" ts) := by
  refine List.filter_congr fun t ht => ?_
  have homit := isFlag_of_mem_dropFlagValues ht
  simp only [isAnyFlag, omissions, droppedFlags, List.any_cons, List.any_nil, homit, Bool.or_false]

theorem length_withoutOmissions (ts : List String) :
    (withoutFlags omissions ts).length =
      (withoutOmissions ts).length + (strayValues ts).length := by
  rw [withoutOmissions_eq]
  refine length_filter_dropFlagValues (fun t ht => ?_) ts
  rw [isAnyFlag_of_omit ht]
  rfl

theorem withoutOmissions_sublist (ts : List String) :
    (withoutOmissions ts).Sublist (withoutFlags omissions ts) := by
  rw [withoutOmissions_eq]
  exact (dropFlagValues_sublist _ ts).filter _

/-- The options are dropped as a whole unless a value is left behind. -/
theorem eq_withoutOmissions_iff (ts : List String) :
    withoutFlags omissions ts = withoutOmissions ts ↔ strayValues ts = [] := by
  have hlength := length_withoutOmissions ts
  constructor
  · intro heq
    rw [heq] at hlength
    exact List.eq_nil_of_length_eq_zero (by omega)
  · intro hnil
    rw [hnil, List.length_nil, Nat.add_zero] at hlength
    exact ((withoutOmissions_sublist ts).eq_of_length hlength.symm).symm

/-- A word that asks for development dependencies is not dropped. -/
theorem not_omission_of_include (h : "--include=dev".toList.isPrefixOf t.toList = true) :
    isAnyFlag omissions t = false := by
  have hincompatible : ∀ flag ∈ omissions, ¬flag.toList <+: "--include=dev".toList ∧
      ¬"--include=dev".toList <+: flag.toList := by
    decide
  refine List.any_eq_false.mpr fun flag hflag hword => ?_
  rcases List.prefix_or_prefix_of_prefix (prefix_of_isFlag hword)
    (List.isPrefixOf_iff_prefix.mp h) with hp | hp
  · exact (hincompatible flag hflag).1 hp
  · exact (hincompatible flag hflag).2 hp

/-- Whether npm is asked for development dependencies does not depend on what is dropped. -/
theorem includesDev_withoutFlags (ts : List String) :
    includesDev (withoutFlags omissions ts) = includesDev ts := by
  have hnpm : (withoutFlags omissions ts).contains "npm" = ts.contains "npm" := by
    rw [Bool.eq_iff_iff, List.contains_iff_mem, List.contains_iff_mem, mem_withoutFlags]
    exact and_iff_left (by decide)
  have hinclude : (withoutFlags omissions ts).any ("--include=dev".toList.isPrefixOf ·.toList) =
      ts.any ("--include=dev".toList.isPrefixOf ·.toList) := by
    rw [Bool.eq_iff_iff, List.any_eq_true, List.any_eq_true]
    refine exists_congr fun t => and_congr_left fun ht => ?_
    rw [mem_withoutFlags]
    exact and_iff_left (not_omission_of_include ht)
  rw [includesDev, hnpm, hinclude, includesDev]

/-- Where development dependencies are missing, the words of the install command of Node lose the
flags of `omissions` and get `--include=dev` if npm is among them and was not asked so. Every option
is dropped as a whole just where no value of an `--omit` is left behind; all that are left behind
stand in the command, in their order. -/
theorem dev_dependencies_whole_iff (d : Detection) (p q : Plan) (f : Failure) (install : String)
    (h : node.revisedPlan? d p f = some q) (hr : f.reason = .missingDevDependencies)
    (hc : p.command .install = some install) :
    q.tokensOf .install = withoutFlags omissions (tokens install) ++ includesDev (tokens install) ∧
      (q.tokensOf .install = withoutOmissions (tokens install) ++ includesDev (tokens install) ↔
        strayValues (tokens install) = []) ∧
      (strayValues (tokens install)).Sublist (q.tokensOf .install) := by
  have hq : node.Follows d p .missingDevDependencies q := hr ▸ follows_of_revisedPlan? h
  have htokens := hq.tokensOf_devTools hc
  rw [includesDev_withoutFlags] at htokens
  refine ⟨htokens, ?_, ?_⟩
  · rw [htokens, List.append_left_inj, eq_withoutOmissions_iff]
  · rw [htokens]
    exact ((flagValues_sublist _ _).filter _).trans (List.sublist_append_left _ _)

/-- A site that installs without development dependencies, the value apart from its option. -/
def productionSite : Detection where
  language := .node
  commands := { PerStep.const none with install := some "npm ci --omit dev" }

theorem dev_dependencies_whole_omit :
    ∃ q, node.revisedPlan? productionSite (node.strictPlan productionSite)
        ⟨"test", .missingDevDependencies, "", ""⟩ = some q ∧
      withoutOmissions ["npm", "ci", "--omit", "dev"] = ["npm", "ci"] ∧
      q.tokensOf .install = ["npm", "ci", "dev", "--include=dev"] := by
  obtain ⟨q, hq⟩ : ∃ q, node.revisedPlan? productionSite (node.strictPlan productionSite)
      ⟨"test", .missingDevDependencies, "", ""⟩ = some q := ⟨_, rfl⟩
  have htokens := (dev_dependencies_whole_iff productionSite _ q _ "npm ci --omit dev" hq rfl
    rfl).1
  refine ⟨q, hq, by decide, ?_⟩
  rw [htokens]
  decide

/-- So the value of an option can be left behind. -/
theorem not_all_options_whole :
    ¬∀ (d : Detection) (p q : Plan) (f : Failure) (install : String),
      node.revisedPlan? d p f = some q → f.reason = .missingDevDependencies →
      p.command .install = some install →
      q.tokensOf .install = withoutOmissions (tokens install) ++ includesDev (tokens install) := by
  intro hall
  have hwhole := hall productionSite (node.strictPlan productionSite) _
    ⟨"test", .missingDevDependencies, "", ""⟩ "npm ci --omit dev" rfl rfl rfl
  exact absurd hwhole (by decide)

end Ecosystem

end PatchTrial
