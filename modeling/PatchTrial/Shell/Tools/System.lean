import PatchTrial.Shell.Tools.Options

/-!
Tools that tell about the system: who uses it, what kind it is, and where a command is at work.

The user is the superuser. There is no terminal.
-/
namespace PatchTrial.Shell.Tools

open Quoting (always)

/-- The name of the user, and of its group. -/
def superuser : String := "root"

/-- A user who is known to the system. The group has the same number. -/
structure User where
  name : String
  group : String
  number : Nat

def users : List User := [
  ⟨superuser, superuser, 0⟩, ⟨"daemon", "daemon", 1⟩, ⟨"bin", "bin", 2⟩, ⟨"sys", "sys", 3⟩,
  ⟨"nobody", "nogroup", 65534⟩]

/-- Answer with a line if there is no operand. -/
def answer (tool forms line : String) : Tool := fun args =>
  withOptions tool forms args fun o => do
    match o.operands with
    | [] =>
      Act.print (line ++ "\n")
      return 0
    | operand :: _ => misuse tool s!"extra operand {Quoting.text operand}"

/-- Do nothing, with a status. -/
def idle (status : Nat) : Tool := fun _ => return status

def sync : Tool := fun args =>
  withOptions "sync" "d|data f|file-system" args fun o => do
    forOperands o.operands fun path => do
      let t := (← Act.world).files
      match t.follow (← Act.process).here path with
      | .ok p =>
        if (t.entry? p).isSome then return 0
        else fail "sync" s!"error opening {always path}: No such file or directory"
      | .error e => fail "sync" s!"error opening {always path}: {e.words}"

def pwd : Tool := fun args =>
  withOptions "pwd" "L|logical P|physical" args fun o => do
    if !o.operands.isEmpty then warnAs "pwd" "ignoring non-option arguments"
    Act.print (FileTree.textOf (← Act.process).here ++ "\n")
    return 0

/-! ### Users -/

def whoami : Tool := answer "whoami" "" superuser

def logname : Tool := fun args =>
  withOptions "logname" "" args fun o => do
    match o.operands with
    | [] => fail "logname" "no login name"
    | operand :: _ => misuse "logname" s!"extra operand {Quoting.text operand}"

def groups : Tool := fun args =>
  withOptions "groups" "" args fun o => do
    if o.operands.isEmpty then
      Act.print (superuser ++ "\n")
      return 0
    forOperands o.operands fun user => do
      match users.find? fun u => u.name = user with
      | some u =>
        Act.print s!"{user} : {u.group}\n"
        return 0
      | none => fail "groups" s!"{Quoting.text user}: no such user"

def id : Tool := fun args =>
  withOptions "id" "a Z g|group G|groups n|name r|real u|user z|zero" args fun o => do
    let kinds := ["u", "g", "G"].filter o.has
    if 1 < kinds.length then fail "id" "cannot print \"only\" of more than one choice"
    else if kinds.isEmpty && (o.has "n" || o.has "r") then
      fail "id" "cannot print only names or real IDs in default format"
    else
      let ending := if o.has "z" then "\x00" else "\n"
      forOperands (if o.operands.isEmpty then [superuser] else o.operands) fun user => do
        match users.find? fun u => u.name = user || toString u.number = user with
        | none => fail "id" s!"{Quoting.text user}: no such user"
        | some u =>
          let number := toString u.number
          let name := if o.has "u" then u.name else u.group
          let line := if kinds.isEmpty then
              s!"uid={number}({u.name}) gid={number}({u.group}) groups={number}({u.group})"
            else if o.has "n" then name else number
          Act.print (line ++ ending)
          return 0

/-! ### Machines -/

/-- What is known about the machine, by the options that ask for it. -/
def machineFacts : List (String × String) := [
  ("s", "Linux"), ("n", "localhost"), ("r", "6.1.0"), ("v", "#1 SMP"), ("m", "x86_64"),
  ("o", "GNU/Linux")]

def uname : Tool := fun args =>
  withOptions "uname"
    ("a|all s|kernel-name n|nodename r|kernel-release v|kernel-version m|machine p|processor " ++
      "i|hardware-platform o|operating-system") args fun o => do
    match o.operands with
    | operand :: _ => misuse "uname" s!"extra operand {Quoting.text operand}"
    | [] =>
      let known := machineFacts.filter fun x => o.has "a" || o.has x.1
      let unknown := ["p", "i"].filter o.has
      let facts := known.map (·.2) ++ (if o.has "a" then [] else unknown.map fun _ => "unknown")
      Act.print (" ".intercalate (if facts.isEmpty then ["Linux"] else facts) ++ "\n")
      return 0

def arch : Tool := answer "arch" "" "x86_64"

def hostname : Tool := answer "hostname" "f|fqdn s|short i I" "localhost"

def nproc : Tool := answer "nproc" "all ignore:" "1"

def tty : Tool := fun args =>
  withOptions "tty" "s|silent|quiet" args (fun o => do
    match o.operands with
    | [] =>
      if !o.has "s" then Act.print "not a tty\n"
      return 1
    | operand :: _ => do
      discard (misuse "tty" s!"extra operand {Quoting.text operand}")
      return 2) 2

end PatchTrial.Shell.Tools
