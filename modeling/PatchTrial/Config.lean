import PatchTrial.Acceptance
import PatchTrial.Error

/-!
The configuration of a run.

Every section and every setting has a default, so a configuration may leave out any of them. A
configuration that would silently misbehave is refused by `Config.validate`.
-/
namespace PatchTrial

/-- Seconds that each step may take. -/
abbrev Timeouts := PerStep UInt64

namespace Timeouts

def standard : Timeouts := ⟨900, 900, 600, 1200, 1200⟩

def ofJson? (j : Json) : Option Timeouts := do
  let r ← j.record? (Step.all.map Step.name)
  let seconds (s : Step) := r.withDefault s.name Json.uint64? (standard.get s)
  return ⟨← seconds .install, ← seconds .build, ← seconds .typecheck, ← seconds .test,
    ← seconds .bench⟩

def toJson (t : Timeouts) : Json :=
  .object (Step.all.map fun s => (s.name, Json.nat (t.get s).toNat))

end Timeouts

/-- Ceilings on the processor time and the address space of a step. -/
structure Limits where
  enabled : Bool := true
  cpuSeconds : UInt64 := 60
  addressSpaceBytes : UInt64 := 4294967296
  deriving DecidableEq, Repr

namespace Limits

def disabled : Limits := { enabled := false }

def ofJson? (j : Json) : Option Limits := do
  let r ← j.record? ["enabled", "cpu_seconds", "address_space_bytes"]
  let d : Limits := {}
  return {
    enabled := ← r.withDefault "enabled" Json.bool? d.enabled
    cpuSeconds := ← r.withDefault "cpu_seconds" Json.uint64? d.cpuSeconds
    addressSpaceBytes := ← r.withDefault "address_space_bytes" Json.uint64? d.addressSpaceBytes }

def toJson (l : Limits) : Json :=
  .object [("enabled", .bool l.enabled), ("cpu_seconds", Json.nat l.cpuSeconds.toNat),
    ("address_space_bytes", Json.nat l.addressSpaceBytes.toNat)]

end Limits

/-- How the patch tool is called. -/
structure ToolConfig where
  binary : String := "patch"
  /-- Path components that the tool strips from the paths in a diff. -/
  strip : UInt32 := 1
  fuzz : UInt32 := 3
  timeoutSecs : UInt64 := 60
  deriving DecidableEq, Repr

namespace ToolConfig

def ofJson? (j : Json) : Option ToolConfig := do
  let r ← j.record? ["binary", "strip", "fuzz", "timeout_secs"]
  let d : ToolConfig := {}
  return {
    binary := ← r.withDefault "binary" Json.string? d.binary
    strip := ← r.withDefault "strip" Json.uint32? d.strip
    fuzz := ← r.withDefault "fuzz" Json.uint32? d.fuzz
    timeoutSecs := ← r.withDefault "timeout_secs" Json.uint64? d.timeoutSecs }

def toJson (c : ToolConfig) : Json :=
  .object [("binary", .string c.binary), ("strip", Json.nat c.strip.toNat),
    ("fuzz", Json.nat c.fuzz.toNat), ("timeout_secs", Json.nat c.timeoutSecs.toNat)]

end ToolConfig

structure Config where
  timeouts : Timeouts := .standard
  limits : Limits := {}
  gate : GatePolicy := {}
  acceptance : AcceptancePolicy Float := .standard
  patch : ToolConfig := {}
  /-- Bytes of output that a failure keeps of each stream. -/
  excerptBytes : UInt64 := 4000
  deriving BEq

namespace Config

instance : Inhabited Config := ⟨{}⟩

/-- The first thing that makes a configuration unusable. -/
def validate (c : Config) : Except ConfigError Unit :=
  let tolerance := c.acceptance.regressionTolerance
  match Step.all.find? (fun s => c.timeouts.get s = 0) with
  | some s => .error (.zeroTimeout s)
  | none =>
    if c.gate.maxFiles = 0 then .error .zeroMaxFiles
    else if !(0 ≤ tolerance && tolerance < 1) then .error (.tolerance (Quantity.text tolerance))
    else if isBlankText c.patch.binary then .error .emptyBinary
    else .ok ()

def ofJson? (j : Json) : Option Config := do
  let r ← j.record? ["timeouts", "limits", "constraints", "acceptance", "patch", "excerpt_bytes"]
  let d : Config := {}
  return {
    timeouts := ← r.withDefault "timeouts" Timeouts.ofJson? d.timeouts
    limits := ← r.withDefault "limits" Limits.ofJson? d.limits
    gate := ← r.withDefault "constraints" GatePolicy.ofJson? d.gate
    acceptance := ← r.withDefault "acceptance" AcceptancePolicy.ofJson? d.acceptance
    patch := ← r.withDefault "patch" ToolConfig.ofJson? d.patch
    excerptBytes := ← r.withDefault "excerpt_bytes" Json.uint64? d.excerptBytes }

def toJson (c : Config) : Json :=
  .object [("timeouts", c.timeouts.toJson), ("limits", c.limits.toJson),
    ("constraints", c.gate.toJson), ("acceptance", c.acceptance.toJson),
    ("patch", c.patch.toJson), ("excerpt_bytes", Json.nat c.excerptBytes.toNat)]

end Config

end PatchTrial
