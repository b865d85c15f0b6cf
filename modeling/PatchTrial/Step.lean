import PatchTrial.Json.Decode

/-!
The steps of a pipeline, and tables with one entry per step.

The order of the steps is the order in which a pipeline runs them.
-/
namespace PatchTrial

inductive Step where
  | install
  | build
  | typecheck
  | test
  | bench
  deriving DecidableEq, Repr, Inhabited

namespace Step

/-- Every step, in pipeline order. -/
def all : List Step := [.install, .build, .typecheck, .test, .bench]

/-- The steps that are run again for a candidate patch. -/
def revalidated : List Step := [.build, .typecheck, .test, .bench]

def name : Step → String
  | .install => "install"
  | .build => "build"
  | .typecheck => "typecheck"
  | .test => "test"
  | .bench => "bench"

def ofName? (s : String) : Option Step := all.find? (·.name = s)

def ofJson? : Json → Option Step := Json.name? ofName?

def toJson (s : Step) : Json := .string s.name

theorem mem_all (s : Step) : s ∈ all := by cases s <;> decide

theorem ofName?_name (s : Step) : ofName? s.name = some s := by cases s <;> decide

end Step

/-- One value for each step. -/
structure PerStep (α : Type) where
  install : α
  build : α
  typecheck : α
  test : α
  bench : α
  deriving DecidableEq, Repr, Inhabited

namespace PerStep

variable {α β : Type}

def const (x : α) : PerStep α := ⟨x, x, x, x, x⟩

def get (t : PerStep α) : Step → α
  | .install => t.install
  | .build => t.build
  | .typecheck => t.typecheck
  | .test => t.test
  | .bench => t.bench

def set (t : PerStep α) (s : Step) (x : α) : PerStep α :=
  match s with
  | .install => { t with install := x }
  | .build => { t with build := x }
  | .typecheck => { t with typecheck := x }
  | .test => { t with test := x }
  | .bench => { t with bench := x }

def map (f : α → β) (t : PerStep α) : PerStep β :=
  ⟨f t.install, f t.build, f t.typecheck, f t.test, f t.bench⟩

@[simp] theorem get_const (x : α) (s : Step) : (const x).get s = x := by cases s <;> rfl

@[simp] theorem get_map (f : α → β) (t : PerStep α) (s : Step) :
    (t.map f).get s = f (t.get s) := by cases s <;> rfl

@[simp] theorem get_set_self (t : PerStep α) (s : Step) (x : α) : (t.set s x).get s = x := by
  cases s <;> rfl

theorem get_set_of_ne (t : PerStep α) {s u : Step} (x : α) (h : u ≠ s) :
    (t.set s x).get u = t.get u := by
  cases s <;> cases u <;> first | rfl | exact absurd rfl h

theorem ext_get {t u : PerStep α} (h : ∀ s, t.get s = u.get s) : t = u := by
  have hi := h .install
  have hb := h .build
  have ht := h .typecheck
  have he := h .test
  have hn := h .bench
  cases t; cases u
  simp_all [get]

end PerStep

end PatchTrial
