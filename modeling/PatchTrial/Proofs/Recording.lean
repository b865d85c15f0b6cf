import PatchTrial.Proofs.Simulation

/-!
# Calls on a recorded host

A recorded host keeps a list of the calls that are made on it, each with what came of it. But for
that list it answers as the host itself, so a run on it comes to the same end. What a function
does on a recorded host is stated as `Course.Yields`: the calls that it adds, in relation to its
result and to whether the run is cancelled afterwards. The journal tells of exactly these calls.
-/
namespace PatchTrial

/-- A call on a host, with what came of it. -/
inductive Call where
  | ran (plan : Plan) (steps : List Step) (outcome : Except Panic (PipelineRun Float))
      (cancels : Bool)
  | patched (direction : PatchDirection) (diff : String) (answer : Except PatchError Unit)
      (cancels : Bool)

namespace Call

/-- The call as a journal tells of it. -/
def entry : Call → Entry
  | .ran plan steps _ _ => .ran plan steps
  | .patched direction diff _ _ => .patched direction diff

/-- Whether the run was cancelled during a call. -/
def cancels : Call → Bool
  | .ran _ _ _ cancels => cancels
  | .patched _ _ _ cancels => cancels

end Call

namespace Journal

@[simp] theorem calls_map_event (es : List Event) : calls (es.map .event) = [] := by
  simp [calls]

@[simp] theorem calls_ran (plan : Plan) (steps : List Step) (j : Journal) :
    calls (.ran plan steps :: j) = .ran plan steps :: calls j := rfl

end Journal

variable {σ α β : Type}

namespace Executor

def recorded (x : Executor σ) : Executor (σ × List Call) where
  runSteps plan steps cancelled t :=
    let r := x.runSteps plan steps cancelled t.1
    ⟨r.outcome, r.events, r.cancels, (r.after, t.2 ++ [.ran plan steps r.outcome r.cancels])⟩

theorem recorded_alike (x : Executor σ) : x.recorded.Alike (fun t s => t.1 = s) x := by
  rintro plan steps cancelled t _ rfl
  exact ⟨rfl, rfl, rfl, rfl⟩

end Executor

namespace Applicator

def recorded (a : Applicator σ) : Applicator (σ × List Call) where
  patch direction diff t :=
    let r := a.patch direction diff t.1
    ⟨r.answer, r.cancels, (r.after, t.2 ++ [.patched direction diff r.answer r.cancels])⟩

theorem recorded_alike (a : Applicator σ) : a.recorded.Alike (fun t s => t.1 = s) a := by
  rintro direction diff t _ rfl
  exact ⟨rfl, rfl, rfl⟩

end Applicator

namespace Host

/-- The host with a list of the calls made on it. Looking for an applicator is no such call. -/
def recorded (h : Host σ) : Host (σ × List Call) where
  executor := h.executor.recorded
  applicator? t :=
    ((h.applicator? t.1).1.map Applicator.recorded, ((h.applicator? t.1).2, t.2))

theorem recorded_alike (h : Host σ) : h.recorded.Alike (fun t s => t.1 = s) h where
  executor := h.executor.recorded_alike
  applicator := by
    rintro t _ rfl
    refine ⟨?_, rfl⟩
    simp only [recorded]
    cases (h.applicator? t.1).1 with
    | error e => exact .missing e
    | ok a => exact .found a.recorded_alike

end Host

/-- What came of a call that ran steps is an answer of the executor. -/
def Call.AnsweredBy (x : Executor σ) : Call → Prop
  | .ran plan steps outcome cancels => ∃ cancelled s,
    outcome = (x.runSteps plan steps cancelled s).outcome ∧
    cancels = (x.runSteps plan steps cancelled s).cancels
  | .patched .. => True

/-- All calls so far are answered by the executor. -/
theorem Executor.recorded_answered (x : Executor σ) :
    x.recorded.Alike (fun t s => t = s ∧ ∀ call ∈ t.2, call.AnsweredBy x) x.recorded := by
  rintro plan steps cancelled t _ ⟨rfl, ht⟩
  refine ⟨rfl, rfl, rfl, rfl, ?_⟩
  simp only [Executor.recorded, List.forall_mem_append, List.forall_mem_singleton]
  exact ⟨ht, cancelled, t.1, rfl, rfl⟩

/-- All calls so far are answered by the host. -/
theorem Host.recorded_answered (h : Host σ) :
    h.recorded.Alike (fun t s => t = s ∧ ∀ call ∈ t.2, call.AnsweredBy h.executor) h.recorded where
  executor := h.executor.recorded_answered
  applicator := by
    rintro t _ ⟨rfl, ht⟩
    refine ⟨?_, rfl, ht⟩
    simp only [recorded]
    cases (h.applicator? t.1).1 with
    | error e => exact .missing e
    | ok a =>
      refine .found ?_
      rintro direction diff t _ ⟨rfl, ht⟩
      refine ⟨rfl, rfl, rfl, ?_⟩
      simp only [Applicator.recorded, List.forall_mem_append, List.forall_mem_singleton]
      exact ⟨ht, trivial⟩

namespace Run

/-- The calls of a run, in order. -/
def calls (host : Host σ) (config : Config) (registry : Registry) (stamp : RunStamp)
    (d : Detection) (settings : Settings) (cs : List Candidate) (cancelled : Bool) (s : σ) :
    List Call :=
  (execute host.recorded config registry stamp d settings cs cancelled (s, [])).after.2

/-- Recording the calls of a run changes nothing. -/
theorem execute_recorded (host : Host σ) (config : Config) (registry : Registry)
    (stamp : RunStamp) (d : Detection) (settings : Settings) (cs : List Candidate)
    (cancelled : Bool) (s : σ) :
    (execute host.recorded config registry stamp d settings cs cancelled (s, [])).Alike
      (fun t s => t.1 = s) (execute host config registry stamp d settings cs cancelled s) :=
  execute_alike host.recorded_alike config registry stamp d settings cs cancelled rfl

/-- The executor answered the calls of a run. -/
theorem calls_answered (host : Host σ) (config : Config) (registry : Registry)
    (stamp : RunStamp) (d : Detection) (settings : Settings) (cs : List Candidate)
    (cancelled : Bool) (s : σ) :
    ∀ call ∈ calls host config registry stamp d settings cs cancelled s,
      call.AnsweredBy host.executor :=
  (execute_alike host.recorded_answered config registry stamp d settings cs cancelled
    (t := (s, [])) ⟨rfl, List.forall_mem_nil _⟩).after.2

end Run

namespace Course

/-- On top of the calls before it, a course made some more, and its journal tells of these. `P`
relates them to its outcome and to whether the run is cancelled by now. -/
def Yields (before : List Call) (P : List Call → Except Panic α → Bool → Prop)
    (c : Course (σ × List Call) α) : Prop :=
  ∃ made, c.after.2 = before ++ made ∧ Journal.calls c.journal = made.map Call.entry ∧
    P made c.outcome c.cancelled

namespace Yields

variable {before : List Call} {P : List Call → Except Panic α → Bool → Prop}
  {c : Course (σ × List Call) α}

theorem mono {Q : List Call → Except Panic α → Bool → Prop} (h : c.Yields before P)
    (hpq : ∀ made outcome cancelled, P made outcome cancelled → Q made outcome cancelled) :
    c.Yields before Q := by
  obtain ⟨made, hl, hj, hp⟩ := h
  exact ⟨made, hl, hj, hpq _ _ _ hp⟩

theorem done {a : α} {cancelled : Bool} {s : σ} (h : P [] (.ok a) cancelled) :
    (Course.done a cancelled (s, before)).Yields before P :=
  ⟨[], (List.append_nil before).symm, rfl, h⟩

/-- Events are no calls. -/
theorem sinceEvent (e : Event) (h : c.Yields before P) :
    (c.since [.event e]).Yields before P := by
  obtain ⟨made, hl, hj, hp⟩ := h
  exact ⟨made, hl, hj, hp⟩

theorem log (e : Event) (h : c.Yields before P) : (c.log e).Yields before P := by
  obtain ⟨made, hl, hj, hp⟩ := h
  refine ⟨made, hl, ?_, hp⟩
  rw [Course.log, Journal.calls_append, hj]
  exact List.append_nil _

theorem map {Q : List Call → Except Panic β → Bool → Prop} (f : α → β) (h : c.Yields before P)
    (hpq : ∀ made outcome cancelled, P made outcome cancelled →
      Q made (outcome.map f) cancelled) : (c.map f).Yields before Q := by
  obtain ⟨made, hl, hj, hp⟩ := h
  exact ⟨made, hl, hj, hpq _ _ _ hp⟩

/-- After a result, the calls of what follows come on top; after a panic nothing follows. -/
theorem andThen {Q : List Call → Except Panic β → Bool → Prop}
    {next : α → Bool → σ × List Call → Course (σ × List Call) β} (h : c.Yields before P)
    (herror : ∀ made p cancelled, P made (.error p) cancelled → Q made (.error p) cancelled)
    (hok : ∀ made a cancelled s, P made (.ok a) cancelled →
      (next a cancelled (s, before ++ made)).Yields (before ++ made)
        (fun more outcome cancelled => Q (made ++ more) outcome cancelled)) :
    (c.andThen next).Yields before Q := by
  obtain ⟨outcome, journal, cancelled, s, calls⟩ := c
  obtain ⟨made, hl, hj, hp⟩ := h
  dsimp only at hl hj hp
  subst hl
  cases outcome with
  | error p => exact ⟨made, rfl, hj, herror _ _ _ hp⟩
  | ok a =>
    obtain ⟨more, hl, hj', hq⟩ := hok made a cancelled s hp
    refine ⟨made ++ more, ?_, ?_, hq⟩
    · rw [← List.append_assoc]
      exact hl
    · rw [List.map_append, ← hj, ← hj']
      exact Journal.calls_append _ _

end Yields

end Course

/-- Running steps on a recorded executor adds one call. -/
theorem Executor.recorded_run (x : Executor σ) (plan : Plan) (steps : List Step)
    (cancelled : Bool) (s : σ) (before : List Call) :
    ∃ outcome, ∃ events : List Event, ∃ cancels s',
      x.recorded.run plan steps cancelled (s, before) =
        ⟨outcome, .ran plan steps :: events.map .event, cancelled || cancels,
          s', before ++ [.ran plan steps outcome cancels]⟩ :=
  ⟨_, _, _, _, rfl⟩

/-- Patching with a recorded applicator adds one call. -/
theorem Applicator.recorded_patch (a : Applicator σ) (direction : PatchDirection) (diff : String)
    (s : σ) (before : List Call) :
    ∃ answer cancels s', a.recorded.patch direction diff (s, before) =
      ⟨answer, cancels, s', before ++ [.patched direction diff answer cancels]⟩ :=
  ⟨_, _, _, rfl⟩

end PatchTrial
