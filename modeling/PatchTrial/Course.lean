import PatchTrial.Error
import PatchTrial.Event

/-!
What happened on a host, in order.

A journal interleaves the events of the log with the calls that change the working tree or run
something on it. A course is what came of a computation on a host: its result or the panic that
ended it, the journal, whether the run is cancelled by now, and the host afterwards.
-/
namespace PatchTrial

/-- Something that blew up instead of giving a result. -/
structure Panic where
  message : String
  deriving DecidableEq, Repr

inductive Entry where
  | event (e : Event)
  /-- The steps of a plan were run, as far as the plan has commands for them. -/
  | ran (plan : Plan) (steps : List Step)
  /-- A diff was applied, or taken back, or that was tried. -/
  | patched (direction : PatchDirection) (diff : String)
  deriving BEq

abbrev Journal := List Entry

namespace Journal

/-- The events of a journal. -/
def events (j : Journal) : List Event :=
  j.filterMap fun
    | .event e => some e
    | _ => none

/-- All of a journal but the events. -/
def calls (j : Journal) : List Entry :=
  j.filter fun
    | .event _ => false
    | _ => true

@[simp] theorem events_append (j k : Journal) : events (j ++ k) = events j ++ events k :=
  List.filterMap_append

@[simp] theorem calls_append (j k : Journal) : calls (j ++ k) = calls j ++ calls k :=
  List.filter_append ..

end Journal

structure Course (σ α : Type) where
  outcome : Except Panic α
  journal : Journal
  cancelled : Bool
  after : σ

namespace Course

variable {σ α β : Type}

/-- A result at which nothing happened. -/
def done (a : α) (cancelled : Bool) (s : σ) : Course σ α := ⟨.ok a, [], cancelled, s⟩

/-- Go on after a journal of what happened before. -/
def since (before : Journal) (c : Course σ α) : Course σ α :=
  { c with journal := before ++ c.journal }

def map (f : α → β) (c : Course σ α) : Course σ β :=
  ⟨c.outcome.map f, c.journal, c.cancelled, c.after⟩

/-- Go on with a result, unless there is none. -/
def andThen (c : Course σ α) (next : α → Bool → σ → Course σ β) : Course σ β :=
  match c.outcome with
  | .error p => ⟨.error p, c.journal, c.cancelled, c.after⟩
  | .ok a => (next a c.cancelled c.after).since c.journal

/-- Note an event at the end. -/
def log (e : Event) (c : Course σ α) : Course σ α :=
  { c with journal := c.journal ++ [.event e] }

@[simp] theorem since_journal (before : Journal) (c : Course σ α) :
    (c.since before).journal = before ++ c.journal := rfl

@[simp] theorem since_outcome (before : Journal) (c : Course σ α) :
    (c.since before).outcome = c.outcome := rfl

@[simp] theorem map_journal (f : α → β) (c : Course σ α) : (c.map f).journal = c.journal := rfl

variable {c : Course σ α} {next : α → Bool → σ → Course σ β}

theorem andThen_of_ok {a : α} (h : c.outcome = .ok a) :
    c.andThen next = (next a c.cancelled c.after).since c.journal := by
  unfold andThen
  rw [h]

/-- A result comes from a result. -/
theorem of_andThen_ok {b : β} (h : (c.andThen next).outcome = .ok b) :
    ∃ a, c.outcome = .ok a ∧ (next a c.cancelled c.after).outcome = .ok b := by
  cases ha : c.outcome with
  | error p =>
    unfold andThen at h
    rw [ha] at h
    cases h
  | ok a =>
    rw [andThen_of_ok ha] at h
    exact ⟨a, rfl, h⟩

theorem of_map_ok {f : α → β} {b : β} (h : (c.map f).outcome = .ok b) :
    ∃ a, c.outcome = .ok a ∧ f a = b := by
  obtain ⟨outcome, journal, cancelled, s⟩ := c
  cases outcome with
  | error p => cases h
  | ok a => exact ⟨a, rfl, Except.ok.inj h⟩

end Course

end PatchTrial
