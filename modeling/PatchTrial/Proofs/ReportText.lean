import PatchTrial.Proofs.JsonFree
import PatchTrial.Proofs.TimestampText
import PatchTrial.ReportStore

/-!
# Reading back reports

Every record of a report is read back from its text: steps and runs, measurements and comparisons,
rejections under the name of their kind, plans with their environments and metadata, settings within
their bounds. Only numbers that are not read back from their own digits would be lost.

Main statements: `Report.stores` and `Report.ofBytes?_text`.
-/
namespace PatchTrial

open Json

/-! ### The numbers of a report -/

def Comparison.numbers (c : Comparison Float) : List Float :=
  [c.before, c.after, c.absoluteDelta, c.relativeDelta]

def Evaluation.doubles (e : Evaluation) : List Float :=
  e.result.measurement.toList.map (·.value) ++ e.verdict.benchmark.toList.flatMap (·.numbers)

def Baseline.doubles (b : Baseline) : List Float :=
  b.run.measurement.toList.map (·.value) ++ b.plans.flatMap (·.metadata.doubles)

namespace Report

/-- The doubles of a report: what was measured, how that compares, and what the plans remark. -/
def doubles (r : Report) : List Float :=
  r.strategy.doubles ++ r.evaluations.flatMap Evaluation.doubles

/-- The numbers of single width of a report, which are the risk scores. -/
def singles (r : Report) : List Float32 := r.evaluations.map (·.verdict.riskScore)

end Report

/-! ### Steps and runs -/

theorem StepRun.stores (r : StepRun) : Stores ofJson? 1 r.toJson r := by
  refine stores_record rfl (by decide) ?_ ?_
  · simp
  · simp [Record.required, Record.withDefault, List.lookup_cons]

theorem Measurement.stores {m : Measurement Float} (h : DoubleReadsBack m.value) :
    Stores ofJson? 1 m.toJson m := by
  refine stores_record rfl (by decide) ?_ ?_
  · simp [fits_double h, fits_orNull]
  · simp [Record.required, Record.withDefault, Record.optional_of_ne, Record.optional_string,
      List.lookup_cons, float?_reread h]

theorem StepRun.stores_list (rs : List StepRun) :
    Stores (list? ofJson?) 2 (.array (rs.map toJson)) rs :=
  ⟨fits_map fun r _ => r.stores.fits, list?_reread fun r _ => r.stores.read⟩

theorem PipelineRun.stores {r : PipelineRun Float}
    (h : ∀ m ∈ r.measurement, DoubleReadsBack m.value) : Stores ofJson? 3 (toJson r) r := by
  have hsteps := StepRun.stores_list r.steps
  have hmeasurement : (orNull Measurement.toJson r.measurement).Fits 2 :=
    fits_orNull fun m hm => (Measurement.stores (h m hm)).fits.mono (by decide)
  refine stores_record rfl (by decide) ?_ ?_
  · simp [hsteps.fits, hmeasurement, fits_orNull]
  · simp [Record.required, Record.optional_of_ne, Record.optional_string, List.lookup_cons,
      hsteps.read, Record.optional_self (fun m hm => (Measurement.stores (h m hm)).read) nofun]

/-! ### Candidates and verdicts -/

theorem Violation.stores (v : Violation) :
    Stores (read? (bufferedName? Constraint.ofName?)) 1 v.toJson v := by
  have hname : bufferedName? Constraint.ofName? (string v.constraint.name).reread =
      some v.constraint := by cases v.constraint <;> rfl
  refine stores_record rfl (by decide) ?_ ?_
  · simp [Constraint.toJson]
  · simp [Record.required, List.lookup_cons, Constraint.toJson, hname]

theorem Rejection.stores (r : Rejection) : Stores ofJson? 2 r.toJson r := by
  cases r with
  | constraint v =>
    have hv : Stores (ofKind? "constraint") 2 (object [("violation", v.toJson)]) (.constraint v) :=
      stores_record rfl (by decide) (by simp [v.stores.fits])
        (by simp [Record.required, v.stores.read])
    have husable : (toJson (.constraint v)).reread.isUsable = true := rfl
    refine ⟨by simp [toJson, v.stores.fits], ?_⟩
    rw [ofJson?, if_pos husable]
    exact hv.read
  | patchApply message out err =>
    have hrest : Stores (ofKind? "patch_apply") 1
        (object [("message", .string message), ("stdout", .string out), ("stderr", .string err)])
        (.patchApply message out err) :=
      stores_record rfl (by decide) (by simp)
        (by simp [Record.required, Record.withDefault, List.lookup_cons])
    have husable : (toJson (.patchApply message out err)).reread.isUsable = true := rfl
    refine ⟨by simp [toJson], ?_⟩
    rw [ofJson?, if_pos husable]
    exact hrest.read

theorem CandidateRun.stores {r : CandidateRun Float}
    (h : ∀ m ∈ r.measurement, DoubleReadsBack m.value) : Stores ofJson? 3 (toJson r) r := by
  have hsteps := StepRun.stores_list r.steps
  have hmeasurement : (orNull Measurement.toJson r.measurement).Fits 2 :=
    fits_orNull fun m hm => (Measurement.stores (h m hm)).fits.mono (by decide)
  have hrejection : (orNull Rejection.toJson r.rejection).Fits 2 :=
    fits_orNull fun r _ => r.stores.fits
  have hnull : ∀ r : Rejection, r.toJson.reread ≠ .null := by rintro (_ | _) <;> nofun
  refine stores_record rfl (by decide) ?_ ?_
  · simp [hsteps.fits, hmeasurement, hrejection, fits_orNull]
  · simp [Record.required, Record.withDefault, Record.optional_of_ne, Record.optional_string,
      List.lookup_cons, hsteps.read,
      Record.optional_self (fun m hm => (Measurement.stores (h m hm)).read) nofun,
      Record.optional_self (fun r _ => r.stores.read) hnull]

theorem Comparison.stores {c : Comparison Float} (h : ∀ x ∈ c.numbers, DoubleReadsBack x) :
    Stores ofJson? 1 c.toJson c := by
  obtain ⟨hbefore, hafter, habsolute, hrelative⟩ : DoubleReadsBack c.before ∧
      DoubleReadsBack c.after ∧ DoubleReadsBack c.absoluteDelta ∧
      DoubleReadsBack c.relativeDelta := by simpa [numbers] using h
  have htrend : Trend.ofJson? c.trend.toJson.reread = some c.trend := by cases c.trend <;> rfl
  refine stores_record rfl (by decide) ?_ ?_
  · simp [Trend.toJson, fits_double hbefore, fits_double hafter, fits_double habsolute,
      fits_double hrelative]
  · simp [Record.required, List.lookup_cons, htrend, float?_reread hbefore, float?_reread hafter,
      float?_reread habsolute, float?_reread hrelative]

theorem Failure.stores (f : Failure) : Stores ofJson? 1 f.toJson f := by
  have hreason : Reason.ofJson? f.reason.toJson.reread = some f.reason := by
    cases f.reason <;> rfl
  refine stores_record rfl (by decide) ?_ ?_
  · simp [Reason.toJson]
  · simp [Record.required, List.lookup_cons, hreason]

theorem Settings.stores (s : Settings) : Stores ofJson? 1 s.toJson s := by
  have hmode : Mode.ofJson? s.mode.toJson.reread = some s.mode := by cases s.mode <;> rfl
  have hcap : s.maxAttempts < UInt32.size := Nat.lt_of_le_of_lt s.le_cap (by decide)
  have hbudget : uint32? (nat s.maxAttempts).reread = some (UInt32.ofNat s.maxAttempts) :=
    uint32?_nat hcap
  refine stores_record rfl (by decide) ?_ ?_
  · simp [Mode.toJson]
  · simp [Record.withDefault, List.lookup_cons, hmode, hbudget, UInt32.toNat_ofNat_of_lt' hcap,
      clamped_self]

/-! ### Plans -/

namespace Plan

theorem fits_envJson (e : Env) : (envJson e).Fits 1 := by
  refine fits_object.mpr ⟨Nat.one_pos, fun f hf => ?_⟩
  obtain ⟨entry, -, rfl⟩ := List.mem_map.mp hf
  exact fits_string entry.2

theorem sortedMap?_envJson (e : Env) : sortedMap? string? (envJson e).reread = some e :=
  sortedMap?_reread fun _ _ => rfl

/-- The table with one more environment. -/
def withEnv (t u : PerStep (Option Env)) (s : Step) : PerStep (Option Env) :=
  match t.get s with
  | none => u
  | some e => u.set s (some e)

theorem foldl_withEnv (t : PerStep (Option Env)) :
    Step.all.foldl (withEnv t) (.const none) = t := by
  obtain ⟨install, build, typecheck, test, bench⟩ := t
  cases install <;> cases build <;> cases typecheck <;> cases test <;> cases bench <;> rfl

/-- The environments of steps are read in order. -/
theorem foldlM_envFields (t u : PerStep (Option Env)) (steps : List Step) :
    ((steps.filterMap fun s => (t.get s).map fun e => (s.name, envJson e)).map
        fun f => (f.1, f.2.reread)).foldlM
      (fun (t : PerStep (Option Env)) (k, j) => do
        return t.set (← Step.ofName? k) (some (← sortedMap? string? j))) u =
      some (steps.foldl (withEnv t) u) := by
  induction steps generalizing u with
  | nil => rfl
  | cons s steps ih =>
    rw [List.foldl_cons, ← ih]
    cases h : t.get s with
    | none => rw [List.filterMap_cons_none (by rw [h]; rfl), withEnv, h]
    | some e =>
      rw [List.filterMap_cons_some (by rw [h]; rfl), List.map_cons, List.foldlM_cons]
      dsimp only
      rw [Step.ofName?_name, sortedMap?_envJson, withEnv, h]
      rfl

theorem envTable?_reread (t : PerStep (Option Env)) :
    envTable? (envTable t).reread = some t := by
  rw [envTable, reread_object, envTable?, foldlM_envFields, foldl_withEnv]

theorem fits_envTable (t : PerStep (Option Env)) : (envTable t).Fits 2 := by
  refine fits_object.mpr ⟨Nat.two_pos, fun f hf => ?_⟩
  obtain ⟨s, -, hs⟩ := List.mem_filterMap.mp hf
  obtain ⟨e, -, rfl⟩ := Option.map_eq_some_iff.mp hs
  exact fits_envJson e

theorem stores {p : Plan} (hfree : p.metadata.IsFree) (hnesting : p.metadata.nesting < 100)
    (hdoubles : ∀ x ∈ p.metadata.doubles, DoubleReadsBack x) : Stores ofJson? 100 p.toJson p := by
  obtain ⟨hfits, hreread⟩ : p.metadata.Fits 99 ∧ p.metadata.reread = p.metadata :=
    hfree.readsBack hdoubles (Nat.le_of_lt_succ hnesting)
  have hmode : Mode.ofJson? p.mode.toJson.reread = some p.mode := by cases p.mode <;> rfl
  have henv : (envTable p.env).Fits 99 := (fits_envTable p.env).mono (by decide)
  have hcommands : (⟨p.commands.get .install, p.commands.get .build, p.commands.get .typecheck,
      p.commands.get .test, p.commands.get .bench⟩ : PerStep (Option String)) = p.commands := rfl
  refine stores_record rfl (by decide) ?_ ?_
  · simp [commandFields, Step.all, fits_orNull, Mode.toJson, henv, hfits]
  · simp [Record.required, Record.withDefault, Record.nullable, Record.optional_of_ne,
      Record.optional_string, List.lookup_cons, commandFields, Step.all, Detection.commandField,
      Step.name, hmode, envTable?_reread, hreread, isUsable_of_fits hfits, hfree.canonical,
      hcommands]

end Plan

/-! ### Reports -/

theorem Verdict.stores {v : Verdict Float} (hrisk : SingleReadsBack v.riskScore)
    (hbenchmark : ∀ c ∈ v.benchmark, ∀ x ∈ c.numbers, DoubleReadsBack x) :
    Stores ofJson? 2 v.toJson v := by
  have hcomparison : ∀ c ∈ v.benchmark, Stores Comparison.ofJson? 1 c.toJson c :=
    fun c hc => Comparison.stores (hbenchmark c hc)
  have hconfidence : Confidence.ofJson? v.confidence.toJson.reread = some v.confidence := by
    cases v.confidence <;> rfl
  have hfits : (orNull Comparison.toJson v.benchmark).Fits 1 :=
    fits_orNull fun c hc => (hcomparison c hc).fits
  refine stores_record rfl (by decide) ?_ ?_
  · simp [Confidence.toJson, fits_single hrisk, hfits]
  · simp [Record.required, List.lookup_cons, Record.optional_of_ne, hconfidence,
      float32?_reread hrisk, Record.optional_self (fun c hc => (hcomparison c hc).read) nofun]

theorem Evaluation.stores {e : Evaluation} (hrisk : SingleReadsBack e.verdict.riskScore)
    (hdoubles : ∀ x ∈ e.doubles, DoubleReadsBack x) : Stores ofJson? 4 e.toJson e := by
  have hresult : Stores CandidateRun.ofJson? 3 e.result.toJson e.result := by
    refine CandidateRun.stores fun m hm => hdoubles _ (List.mem_append_left _ ?_)
    exact List.mem_map_of_mem (Option.mem_toList.mpr hm)
  have hverdict : Stores Verdict.ofJson? 2 e.verdict.toJson e.verdict := by
    refine Verdict.stores hrisk fun c hc x hx => hdoubles x (List.mem_append_right _ ?_)
    exact List.mem_flatMap.mpr ⟨c, Option.mem_toList.mpr hc, hx⟩
  refine stores_record rfl (by decide) ?_ ?_
  · simp [hresult.fits, hverdict.fits.mono (show 2 ≤ 3 by decide)]
  · simp [Record.required, List.lookup_cons, hresult.read, hverdict.read]

theorem Baseline.stores {b : Baseline} (hdoubles : ∀ x ∈ b.doubles, DoubleReadsBack x)
    (hfree : ∀ p ∈ b.plans, p.metadata.IsFree)
    (hnesting : ∀ p ∈ b.plans, p.metadata.nesting < 100) :
    Stores ofJson? 102 b.toJson b := by
  have hrun : Stores PipelineRun.ofJson? 3 (PipelineRun.toJson b.run) b.run := by
    refine PipelineRun.stores fun m hm => hdoubles _ (List.mem_append_left _ ?_)
    exact List.mem_map_of_mem (Option.mem_toList.mpr hm)
  have hplan : ∀ p ∈ b.plans, Stores Plan.ofJson? 100 p.toJson p := by
    refine fun p hp => Plan.stores (hfree p hp) (hnesting p hp) fun x hx => hdoubles x ?_
    exact List.mem_append_right _ (List.mem_flatMap.mpr ⟨p, hp, hx⟩)
  have hplans : (array (b.plans.map Plan.toJson)).Fits 101 := fits_map fun p hp => (hplan p hp).fits
  have hfailures : (array (b.failures.map Failure.toJson)).Fits 101 :=
    (fits_map fun f _ => f.stores.fits).mono (by decide)
  have hreason : StopReason.ofJson? b.stopReason.toJson.reread = some b.stopReason := by
    cases b.stopReason <;> rfl
  refine stores_record rfl (by decide) ?_ ?_
  · simp [StopReason.toJson, hplans, hfailures, hrun.fits.mono (show 3 ≤ 101 by decide)]
  · simp [Record.required, List.lookup_cons, hrun.read, hreason,
      list?_reread fun p hp => (hplan p hp).read, list?_reread fun f _ => (Failure.stores f).read]

namespace Report

/-- Whether all that a report holds has a form in its text: finite numbers, times of the usual form,
and metadata that is not nested too deeply. -/
structure WellFormed (r : Report) : Prop where
  doubles : ∀ x ∈ r.doubles, x.isFinite = true
  singles : ∀ x ∈ r.singles, x.isFinite = true
  started : r.startedAt.IsRfc3339
  finished : r.finishedAt.IsRfc3339
  free : ∀ p ∈ r.strategy.plans, p.metadata.IsFree
  nesting : ∀ p ∈ r.strategy.plans, p.metadata.nesting < 100

theorem stores {r : Report} (h : r.WellFormed) (hdoubles : ∀ x ∈ r.doubles, DoubleReadsBack x)
    (hsingles : ∀ x ∈ r.singles, SingleReadsBack x) : Stores ofJson? 103 r.toJson r := by
  have hstrategy : Stores Baseline.ofJson? 102 r.strategy.toJson r.strategy :=
    Baseline.stores (fun x hx => hdoubles x (List.mem_append_left _ hx)) h.free h.nesting
  have hevaluation : ∀ e ∈ r.evaluations, Stores Evaluation.ofJson? 4 e.toJson e := by
    intro e he
    refine Evaluation.stores (hsingles _ (List.mem_map_of_mem he)) fun x hx => hdoubles x ?_
    exact List.mem_append_right _ (List.mem_flatMap.mpr ⟨e, he, hx⟩)
  have hevaluations : (array (r.evaluations.map Evaluation.toJson)).Fits 102 :=
    (fits_map fun e he => (hevaluation e he).fits).mono (by decide)
  have hlanguage : Language.ofJson? r.language.toJson.reread = some r.language := by
    cases r.language <;> rfl
  refine stores_record rfl (by decide) ?_ ?_
  · simp [Language.toJson, hstrategy.fits, hevaluations,
      r.settings.stores.fits.mono (show 1 ≤ 102 by decide)]
  · simp [Record.required, Record.withDefault, List.lookup_cons, hlanguage, hstrategy.read,
      r.settings.stores.read, list?_reread fun e he => (hevaluation e he).read,
      Timestamp.parse?_toText h.started, Timestamp.parse?_toText h.finished]

/-- What is read from the text of a report is the report with each number read from its own text. -/
theorem ofBytes?_eq_reread {r : Report} (h : r.toJson.Fits maxDepth) :
    ofBytes? r.text.toUTF8 = ofJson? r.toJson.reread := by
  have hjson : Json.read? r.text = some r.toJson.reread := read?_pretty h
  simp only [ofBytes?, Text.fromUTF8?_toUTF8, hjson, Option.bind_eq_bind, Option.bind_some]

/-- A report is read back from its text. -/
theorem ofBytes?_text {r : Report} (h : r.WellFormed)
    (hdoubles : ∀ x ∈ r.doubles, DoubleReadsBack x)
    (hsingles : ∀ x ∈ r.singles, SingleReadsBack x) : ofBytes? r.text.toUTF8 = some r := by
  have hstores := stores h hdoubles hsingles
  rw [ofBytes?_eq_reread (hstores.fits.mono (by decide)), hstores.read]

end Report

end PatchTrial
