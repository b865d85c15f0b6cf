import PatchTrial.Json.Decode
import PatchTrial.Text.Basic

/-!
How often a baseline may be attempted.

The budget of attempts is clamped to one to three wherever it comes from; in strict mode a single
attempt is made whatever the budget.
-/
namespace PatchTrial

/-- Whether a failed baseline may be attempted again with a revised plan. -/
inductive Mode where
  | strict
  | adaptive
  deriving DecidableEq, Repr, Inhabited

namespace Mode

def name : Mode → String
  | .strict => "strict"
  | .adaptive => "adaptive"

def ofName? (s : String) : Option Mode := [strict, adaptive].find? (·.name = s)

def ofJson? : Json → Option Mode := Json.name? ofName?

def toJson (m : Mode) : Json := .string m.name

/-- Read a mode typed by hand, ASCII case apart. The error says what was typed, in lower case. -/
def parse (text : String) : Except String Mode :=
  let lowered := String.ofList (Text.asciiLower text.toList)
  match ofName? lowered with
  | some m => .ok m
  | none => .error s!"unknown strategy mode '{lowered}'"

end Mode

/-- The most attempts that are ever made. -/
def attemptCap : Nat := 3

structure Settings where
  mode : Mode
  maxAttempts : Nat
  one_le : 1 ≤ maxAttempts
  le_cap : maxAttempts ≤ attemptCap
  deriving DecidableEq

namespace Settings

/-- Settings with the budget clamped to one to three. -/
def clamped (mode : Mode) (budget : Nat) : Settings where
  mode := mode
  maxAttempts := max 1 (min budget attemptCap)
  one_le := Nat.le_max_left ..
  le_cap := Nat.max_le.2 ⟨by decide, Nat.min_le_right ..⟩

/-- A budget within bounds is kept. -/
theorem clamped_self (s : Settings) : clamped s.mode s.maxAttempts = s := by
  obtain ⟨mode, budget, hone, hcap⟩ := s
  have hbudget : max 1 (min budget attemptCap) = budget := by
    rw [Nat.min_eq_left hcap, Nat.max_eq_right hone]
  simp only [clamped, hbudget]

def strict : Settings := clamped .strict 1

def adaptive (budget : Nat) : Settings := clamped .adaptive budget

def default : Settings := adaptive attemptCap

instance : Inhabited Settings := ⟨default⟩

/-- The attempts that may be made. -/
def effectiveAttempts (s : Settings) : Nat :=
  match s.mode with
  | .strict => 1
  | .adaptive => s.maxAttempts

theorem effectiveAttempts_le (s : Settings) : s.effectiveAttempts ≤ attemptCap := by
  cases h : s.mode
  · simp [effectiveAttempts, h, attemptCap]
  · simpa [effectiveAttempts, h] using s.le_cap

theorem one_le_effectiveAttempts (s : Settings) : 1 ≤ s.effectiveAttempts := by
  cases h : s.mode
  · simp [effectiveAttempts, h]
  · simpa [effectiveAttempts, h] using s.one_le

def ofJson? (j : Json) : Option Settings := do
  let r ← j.record? ["mode", "max_attempts"]
  let mode ← r.withDefault "mode" Mode.ofJson? .adaptive
  let budget ← r.withDefault "max_attempts" Json.uint32? (UInt32.ofNat attemptCap)
  return clamped mode budget.toNat

def toJson (s : Settings) : Json :=
  .object [("mode", s.mode.toJson), ("max_attempts", Json.nat s.maxAttempts)]

end Settings

end PatchTrial
