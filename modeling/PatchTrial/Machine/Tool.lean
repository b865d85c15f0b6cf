import PatchTrial.Machine.Basic
import PatchTrial.Machine.Sandbox
import PatchTrial.PatchTool

/-!
The patch tool of a machine.

The tool has to answer a question for its version before it is used. A call of it ends when the
tool has ended and nothing holds its output open any more, or when its time is up.
-/
namespace PatchTrial.PatchTool

/-- The bytes that can be written to the tool before it reads them. -/
def inputBuffer : Nat := 65536

/-- Follow a program until nothing holds its output open. -/
def settled (s : Machine.Started) : Machine.Started :=
  { s with world := (s.world.drain Machine.outputSlot).drain Machine.errorSlot }

/-- A call of the tool with the machine's own environment and ceilings. -/
def request (m : Machine) (c : ToolConfig) (args : List String) (directory input : String) :
    Machine.Request := {
  program := c.binary
  args := args
  directory := directory
  input := input.toUTF8
  cpuSeconds := m.hardCpuSeconds
  addressSpaceBytes := m.hardAddressSpaceBytes }

/-- The exit code of a program, with -1 for one that has none. -/
def exitCode : Option Shell.Finish → Int32
  | some (.exited n) => Int32.ofNat n
  | _ => StepRun.noExitCode

/-- Ask the tool for its version. -/
def probe (c : ToolConfig) (m : Machine) : Except PatchError Unit × Machine :=
  let missing (reason : String) : Except PatchError Unit := .error (.toolMissing c.binary reason)
  match m.start (request m c ["--version"] "." "") with
  | .error e => (missing e.message, m)
  | .ok s =>
    let s := settled s
    let code := exitCode s.finish
    let m := { m with files := s.files }
    if code = 0 then (.ok (), m)
    else (missing s!"'{c.binary} --version' exited with {code.toInt}", m)

/-- Call the tool in a directory. -/
def invoke (c : ToolConfig) (directory : String) : Invoke Machine := fun d dryRun diff m =>
  let text := input diff
  match m.start (request m c (arguments c d dryRun) directory text) with
  | .error e => (.error (.io e.message), m)
  | .ok s =>
    let s := settled s
    let limit := c.timeoutSecs.toNat * 1000
    let unread := (s.world.streams.headD []).length
    if inputBuffer < unread then
      (.error (.io OsError.brokenPipe.message), { m with files := s.files })
    else if s.finish.isNone || limit ≤ s.elapsed then
      (.error (.timeout d c.timeoutSecs), { m with files := (s.upTo limit).files })
    else
      let code := exitCode s.finish
      let m := { m with files := s.files }
      if code = 0 then (.ok (), m)
      else (.error (.failed d dryRun code s.stdout s.stderr), m)

/-- The tool as it is found on a machine. -/
def find (c : ToolConfig) (directory : String) (m : Machine) :
    Except PatchError (Applicator Machine) × Machine :=
  match probe c m with
  | (.error e, m) => (.error e, m)
  | (.ok (), m) => (.ok (applicator (invoke c directory)), m)

/-- A machine with a working tree in a directory, on which the tool is looked for. -/
def host (config : Config) (directory : String) : Host Machine :=
  ⟨Sandbox.executor config.timeouts config.limits directory, find config.patch directory⟩

end PatchTrial.PatchTool
