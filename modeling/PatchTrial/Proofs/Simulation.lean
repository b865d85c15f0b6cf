import PatchTrial.Run

/-!
# Hosts that answer alike

Two hosts with different states answer alike under a relation of their states if related states
give the same answers and related states afterwards. A run looks at a state only through the calls
that it makes, so runs on hosts that answer alike come to the same end, with the same journal. A
property of states that every call preserves holds after a run if it held before: that is a host
compared with itself.
-/
namespace PatchTrial

variable {σ τ α β : Type} {R : τ → σ → Prop}

/-- Executors that answer alike. -/
def Executor.Alike (R : τ → σ → Prop) (x' : Executor τ) (x : Executor σ) : Prop :=
  ∀ plan steps cancelled t s, R t s →
    (x'.runSteps plan steps cancelled t).outcome = (x.runSteps plan steps cancelled s).outcome ∧
    (x'.runSteps plan steps cancelled t).events = (x.runSteps plan steps cancelled s).events ∧
    (x'.runSteps plan steps cancelled t).cancels = (x.runSteps plan steps cancelled s).cancels ∧
    R (x'.runSteps plan steps cancelled t).after (x.runSteps plan steps cancelled s).after

/-- Applicators that answer alike. -/
def Applicator.Alike (R : τ → σ → Prop) (a' : Applicator τ) (a : Applicator σ) : Prop :=
  ∀ direction diff t s, R t s →
    (a'.patch direction diff t).answer = (a.patch direction diff s).answer ∧
    (a'.patch direction diff t).cancels = (a.patch direction diff s).cancels ∧
    R (a'.patch direction diff t).after (a.patch direction diff s).after

/-- What looking for an applicator found, alike on both sides. -/
inductive Applicator.FoundAlike (R : τ → σ → Prop) :
    Except PatchError (Applicator τ) → Except PatchError (Applicator σ) → Prop
  | missing (e : PatchError) : FoundAlike R (.error e) (.error e)
  | found {a' : Applicator τ} {a : Applicator σ} (h : a'.Alike R a) : FoundAlike R (.ok a') (.ok a)

/-- Hosts that answer alike. -/
structure Host.Alike (R : τ → σ → Prop) (h' : Host τ) (h : Host σ) : Prop where
  executor : h'.executor.Alike R h.executor
  applicator : ∀ t s, R t s →
    Applicator.FoundAlike R (h'.applicator? t).1 (h.applicator? s).1 ∧
      R (h'.applicator? t).2 (h.applicator? s).2

/-- Courses that came to the same end in the same way. -/
structure Course.Alike (R : τ → σ → Prop) (c' : Course τ α) (c : Course σ α) : Prop where
  outcome : c'.outcome = c.outcome
  journal : c'.journal = c.journal
  cancelled : c'.cancelled = c.cancelled
  after : R c'.after c.after

namespace Course.Alike

variable {c' : Course τ α} {c : Course σ α}

theorem done (a : α) (cancelled : Bool) {t : τ} {s : σ} (h : R t s) :
    (Course.done a cancelled t).Alike R (Course.done a cancelled s) := ⟨rfl, rfl, rfl, h⟩

theorem since (before : Journal) (h : c'.Alike R c) :
    (c'.since before).Alike R (c.since before) where
  outcome := h.outcome
  journal := congrArg (before ++ ·) h.journal
  cancelled := h.cancelled
  after := h.after

theorem log (e : Event) (h : c'.Alike R c) : (c'.log e).Alike R (c.log e) where
  outcome := h.outcome
  journal := congrArg (· ++ [Entry.event e]) h.journal
  cancelled := h.cancelled
  after := h.after

theorem map (f : α → β) (h : c'.Alike R c) : (c'.map f).Alike R (c.map f) where
  outcome := congrArg (Except.map f) h.outcome
  journal := h.journal
  cancelled := h.cancelled
  after := h.after

/-- Alike courses go on alike if they go on alike from every result. -/
theorem andThen {next' : α → Bool → τ → Course τ β} {next : α → Bool → σ → Course σ β}
    (h : c'.Alike R c)
    (hn : ∀ a cancelled t s, R t s → (next' a cancelled t).Alike R (next a cancelled s)) :
    (c'.andThen next').Alike R (c.andThen next) := by
  obtain ⟨outcome', journal', cancelled', after'⟩ := c'
  obtain ⟨outcome, journal, cancelled, after⟩ := c
  obtain ⟨ho, hj, hc, ha⟩ := h
  dsimp only at ho hj hc ha
  subst ho hj hc
  cases outcome' with
  | error p => exact ⟨rfl, rfl, rfl, ha⟩
  | ok a => exact (hn a cancelled' after' after ha).since journal'

end Course.Alike

theorem Executor.Alike.run {x' : Executor τ} {x : Executor σ} (hx : x'.Alike R x) (plan : Plan)
    (steps : List Step) (cancelled : Bool) {t : τ} {s : σ} (h : R t s) :
    (x'.run plan steps cancelled t).Alike R (x.run plan steps cancelled s) := by
  obtain ⟨ho, he, hk, ha⟩ := hx plan steps cancelled t s h
  constructor
  · exact ho
  · simp only [Executor.run, he]
  · simp only [Executor.run, hk]
  · exact ha

variable {x' : Executor τ} {x : Executor σ} {a' : Applicator τ} {a : Applicator σ}

namespace Baseline

theorem attempt_alike (hx : x'.Alike R x) (excerpt : Nat) (plan : Plan) {t : τ} {s : σ}
    (h : R t s) : (attempt x' excerpt plan t).Alike R (attempt x excerpt plan s) := by
  have hr := (hx.run plan Step.all false h).since [.event (.ofPlan plan)]
  simp only [attempt, hr.outcome]
  split
  · exact hr
  · exact hr.log _

theorem attemptThen_alike (hx : x'.Alike R x) (eco : Ecosystem) (d : Detection) (mode : Mode)
    (excerpt : Nat) {f : Option (Plan → τ → Course τ Baseline)}
    {g : Option (Plan → σ → Course σ Baseline)}
    (hn : Option.Rel (fun f g => ∀ plan t s, R t s → (f plan t).Alike R (g plan s)) f g)
    (plan : Plan) {t : τ} {s : σ} (h : R t s) :
    (attemptThen x' eco d mode excerpt f plan t).Alike R
      (attemptThen x eco d mode excerpt g plan s) := by
  refine (attempt_alike hx excerpt plan h).andThen fun run cancelled t s h => ?_
  dsimp only
  split
  · exact .done _ _ h
  split
  · exact .done _ _ h
  split
  · exact .done _ _ h
  cases hn with
  | none => exact .done _ _ h
  | some hn =>
    dsimp only
    split
    · exact .done _ _ h
    · exact (hn _ _ _ h).map _

theorem attempts_alike (hx : x'.Alike R x) (eco : Ecosystem) (d : Detection) (mode : Mode)
    (excerpt more : Nat) (plan : Plan) {t : τ} {s : σ} (h : R t s) :
    (attempts x' eco d mode excerpt more plan t).Alike R
      (attempts x eco d mode excerpt more plan s) := by
  induction more generalizing plan t s with
  | zero => exact attemptThen_alike hx eco d mode excerpt .none plan h
  | succ more ih =>
    exact attemptThen_alike hx eco d mode excerpt (.some fun plan _ _ h => ih plan h) plan h

theorem establish_alike (hx : x'.Alike R x) (registry : Registry) (excerpt : Nat) (d : Detection)
    (settings : Settings) (cancelled : Bool) {t : τ} {s : σ} (h : R t s) :
    (establish x' registry excerpt d settings cancelled t).Alike R
      (establish x registry excerpt d settings cancelled s) := by
  simp only [establish]
  split
  · exact .done _ _ h
  · exact attempts_alike hx _ d settings.mode excerpt _ _ h

end Baseline

namespace Trial

theorem applied_alike (hx : x'.Alike R x) (ha : a'.Alike R a) (plan : Plan) (c : Candidate)
    (cancelled : Bool) {t : τ} {s : σ} (h : R t s) :
    (applied x' a' plan c cancelled t).Alike R (applied x a plan c cancelled s) := by
  have hr := hx.run plan Step.revalidated cancelled h
  obtain ⟨hw, hk, hs⟩ := ha .revert c.patch.diff _ _ hr.after
  simp only [applied, hr.outcome, hr.journal, hr.cancelled, hw, hk]
  split <;> exact ⟨rfl, rfl, rfl, hs⟩

theorem validate_alike (hx : x'.Alike R x) (ha : a'.Alike R a) (policy : GatePolicy)
    (plan : Option Plan) (c : Candidate) (cancelled : Bool) {t : τ} {s : σ} (h : R t s) :
    (validate x' a' policy plan c cancelled t).Alike R
      (validate x a policy plan c cancelled s) := by
  obtain ⟨hw, hk, hs⟩ := ha .apply c.patch.diff _ _ h
  simp only [validate, hw, hk]
  split
  · exact (Course.Alike.done _ _ h).since _
  · split
    · exact .done _ _ h
    · split
      · exact ((Course.Alike.done _ _ hs).since _).since _
      · exact (applied_alike hx ha _ c _ hs).since _

end Trial

namespace Run

theorem tryAll_alike (hx : x'.Alike R x) (ha : a'.Alike R a) (config : Config)
    (baseline : Baseline) (cs : List Candidate) (treeDirty cancelled : Bool) {t : τ} {s : σ}
    (h : R t s) :
    (tryAll x' a' config baseline cs treeDirty cancelled t).Alike R
      (tryAll x a config baseline cs treeDirty cancelled s) := by
  induction cs generalizing treeDirty cancelled t s with
  | nil => exact .done _ _ h
  | cons c cs ih =>
    simp only [tryAll]
    split
    · exact .done _ _ h
    · refine (Trial.validate_alike hx ha _ _ c _ h).andThen fun r k t s h => ?_
      exact Course.Alike.since _ (Course.Alike.map _ (ih _ _ h))

theorem withApplicator_alike (hx : x'.Alike R x) (ha : a'.Alike R a) (config : Config)
    (registry : Registry) (stamp : RunStamp) (d : Detection) (settings : Settings)
    (cs : List Candidate) (cancelled : Bool) {t : τ} {s : σ} (h : R t s) :
    (withApplicator x' a' config registry stamp d settings cs cancelled t).Alike R
      (withApplicator x a config registry stamp d settings cs cancelled s) := by
  simp only [withApplicator]
  refine (Baseline.establish_alike hx registry _ d settings cancelled h).andThen
    fun b k t s h => ?_
  refine Course.Alike.andThen ?_ fun trials k t s h => (Course.Alike.done _ k h).log _
  split
  · exact tryAll_alike hx ha config b cs false k h
  · exact .done _ _ h

/-- Runs on hosts that answer alike come to the same end, with the same journal. -/
theorem execute_alike {h' : Host τ} {h : Host σ} (hh : h'.Alike R h) (config : Config)
    (registry : Registry) (stamp : RunStamp) (d : Detection) (settings : Settings)
    (cs : List Candidate) (cancelled : Bool) {t : τ} {s : σ} (hr : R t s) :
    (execute h' config registry stamp d settings cs cancelled t).Alike R
      (execute h config registry stamp d settings cs cancelled s) := by
  obtain ⟨hf, hs⟩ := hh.applicator t s hr
  simp only [execute]
  refine Course.Alike.since _ ?_
  generalize (h'.applicator? t).1 = found' at hf
  generalize (h.applicator? s).1 = found at hf
  cases hf with
  | missing e => exact .done _ _ hs
  | found ha => exact (withApplicator_alike hh.executor ha config registry stamp d settings cs
      cancelled hs).map _

end Run

end PatchTrial
