import PatchTrial.Shell.Tools.Files

/-!
Putting files in their places: a copy with a mode of its own, in directories that are made if so
wanted.
-/
namespace PatchTrial.Shell.Tools

open Quoting (always)

namespace Install

/-- Make a directory and those above it that are missing, and tell of each. -/
def makeDirectories (o : Options) (path : String) : Act Nat := do
  let here := (← Act.process).here
  let before := (← Act.world).files
  let (error, after) := before.createAll here path
  Act.perform (.files fun t => (t.createAll here path).2)
  if o.has "v" then
    for made in (ancestors path.length path).reverse do
      if !before.leadsToDirectory here made && after.leadsToDirectory here made then
        Act.print s!"install: creating directory {always made}\n"
  match error with
  | none => return 0
  | some e =>
    let named := (blockedBy? before here path).getD path
    fail "install" s!"cannot create directory {always named}: {e.words}"

/-- Copy a file and set the mode of the copy. -/
def copyOne (o : Options) (change : Nat → Nat) (source wanted : String) : Act Nat := do
  if (← entryAt source) matches some .directory then
    fail "install" s!"omitting directory {always source}"
  else
    let status ← transfer "install" o false source wanted
    if status = 0 then
      let t := (← Act.world).files
      match t.follow (← Act.process).here wanted with
      | .ok p =>
        if let some (.file content _ number) := t.entry? p then
          Act.perform (.files (·.put p (.file content (change 0) number)))
      | .error _ => pure ()
    return status

end Install

def install : Tool := fun args =>
  withOptions "install"
    ("d|directory m|mode: D v|verbose t|target-directory: T|no-target-directory " ++
      "p|preserve-timestamps c C|compare s|strip o|owner: g|group: b S:") args fun o => do
    let mode := (o.value? "m").getD "755"
    match modeChange? 0 mode with
    | none => fail "install" s!"invalid mode {Quoting.text mode}"
    | some change => do
      let into (directory : String) (sources : List String) : Act Nat :=
        forOperands sources fun s =>
          Install.copyOne o change s (Path.join directory (baseName s))
      let prepared (directory : String) : Act Nat :=
        if o.has "D" then Install.makeDirectories o directory else return 0
      if o.has "d" then
        if o.operands.isEmpty then misuse "install" "missing file operand"
        else forOperands o.operands (Install.makeDirectories o)
      else
        match o.value? "t", o.operands.reverse with
        | _, [] => misuse "install" "missing file operand"
        | some directory, sources => do
          if (← prepared directory) ≠ 0 then return 1
          match ← directoryAt directory with
          | .ok _ => into directory sources.reverse
          | .error e => fail "install" s!"failed to access {always directory}: {e.words}"
        | none, [only] => misuse "install" s!"missing destination file operand after {always only}"
        | none, [target, source] => do
          match ← entryAt target with
          | some .directory =>
            if o.has "T" then Install.copyOne o change source target else into target [source]
          | _ =>
            if (← prepared (directoryName target)) ≠ 0 then return 1
            Install.copyOne o change source target
        | none, target :: sources => do
          match ← directoryAt target with
          | .ok _ => into target sources.reverse
          | .error e => fail "install" s!"target {always target}: {e.words}"

end PatchTrial.Shell.Tools
