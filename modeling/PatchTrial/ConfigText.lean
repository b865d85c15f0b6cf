import PatchTrial.Config
import PatchTrial.Toml.Reader

/-!
Configurations from TOML texts.
-/
namespace PatchTrial.Config

/-- The sections of a configuration, and how many settings each has. -/
def sectionSizes : List (String × Nat) :=
  [("timeouts", 5), ("limits", 3), ("constraints", 4), ("acceptance", 3), ("patch", 4)]

/-- A section may list its settings in order; what is listed beyond the last one is ignored. -/
def cutSection (name : String) : Json → Json
  | .array items =>
    match sectionSizes.lookup name with
    | some n => .array (items.take n)
    | none => .array items
  | j => j

def cutSections : Json → Json
  | .object fs => .object (fs.map fun (k, v) => (k, cutSection k v))
  | j => j

/-- Read a configuration that passes `Config.validate`. -/
def ofToml (text : String) : Except TrialError Config :=
  match (Toml.read? text).bind fun t => ofJson? (cutSections t.toJson) with
  | none => .error .toml
  | some c =>
    match c.validate with
    | .error e => .error (.config e)
    | .ok () => .ok c

end PatchTrial.Config
