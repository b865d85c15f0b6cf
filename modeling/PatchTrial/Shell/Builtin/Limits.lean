import PatchTrial.Shell.Builtin.Basic

/-!
Commands about ceilings on resources, and about the permissions of new files.
-/
namespace PatchTrial.Shell.Builtin

/-- A resource that has a ceiling. -/
structure Resource where
  letter : Char
  title : String
  /-- What one unit stands for. -/
  unit : Nat
  deriving Repr

def resources : List Resource := [
  ⟨'t', "time(seconds)", 1⟩, ⟨'f', "file(blocks)", 512⟩, ⟨'d', "data(kbytes)", 1024⟩,
  ⟨'s', "stack(kbytes)", 1024⟩, ⟨'c', "coredump(blocks)", 512⟩, ⟨'m', "memory(kbytes)", 1024⟩,
  ⟨'l', "locked memory(kbytes)", 1024⟩, ⟨'p', "process", 1⟩, ⟨'n', "nofiles", 1⟩,
  ⟨'v', "vmemory(kbytes)", 1024⟩, ⟨'w', "locks", 1⟩, ⟨'r', "rtprio", 1⟩]

/-- A ceiling as the shell shows it. -/
def ceilingText (unit : Nat) (n : Option Nat) : String :=
  match n with
  | some n => toString (n / unit)
  | none => "unlimited"

/-- Whether one ceiling lies above another. -/
def isAbove (a b : Option Nat) : Bool :=
  match a, b with
  | _, none => false
  | none, some _ => true
  | some m, some n => n < m

def ulimit (args : List String) : Act Nat :=
  withFlags "ulimit" "HSatfdscmlpnvwr" args fun f => do
    let p ← Act.process
    let hard := f.has 'H'
    let soft := f.has 'S' || !hard
    let shown (r : Resource) : String :=
      let c := p.ceiling r.letter
      ceilingText r.unit (if soft then c.soft else c.hard)
    let letters := (f.given.map (·.1)).filter fun c => !(['H', 'S', 'a'].contains c)
    let letter := letters.getLast?.getD 'f'
    let resource := (resources.find? (·.letter = letter)).getD ⟨'f', "", 512⟩
    match f.operands with
    | [] =>
      if f.has 'a' then
        for r in resources do
          Act.print s!"{Tools.left 20 r.title} {shown r}\n"
      else Act.print (shown resource ++ "\n")
      return 0
    | value :: more =>
      if f.has 'a' || !more.isEmpty then fatalAs "ulimit" "too many arguments"
      let n : Option Nat ← if value = "unlimited" then pure none
        else match if value.isEmpty then some 0 else Tools.natural? value with
          | some n => pure (some (n * resource.unit))
          | none => fatalAs "ulimit" "bad number"
      let old := p.ceiling letter
      let c : Ceiling := {
        soft := if soft then n else old.soft
        hard := if hard || !f.has 'S' then n else old.hard }
      if isAbove c.soft c.hard then
        fatalAs "ulimit" "error setting limit (Invalid argument)"
      Act.modifyProcess (·.withCeiling letter c)
      return 0

/-! ### Permissions -/

/-- The bits of a permission for one of user, group and others, the user's being the highest. -/
def permissionBits (who : Char) (bits : Nat) : Nat :=
  match who with
  | 'u' => bits * 64
  | 'g' => bits * 8
  | 'o' => bits
  | _ => bits * 73

/-- What a clause makes of permissions. -/
def changePermissions? (old : Nat) (clause : List Char) : Option Nat :=
  let (who, rest) := clause.span fun c => "ugoa".contains c
  let who := if who.isEmpty then ['a'] else who
  match rest with
  | op :: letters =>
    if ['+', '-', '='].contains op && letters.all fun c => "rwxX".contains c then
      let bits := letters.foldl (fun n c =>
        n ||| (if c = 'r' then 4 else if c = 'w' then 2 else 1)) 0
      let named := who.foldl (fun n w => n ||| permissionBits w bits) 0
      let whole := who.foldl (fun n w => n ||| permissionBits w 7) 0
      some (match op with
        | '+' => old ||| named
        | '-' => old ^^^ (old &&& named)
        | _ => (old ^^^ (old &&& whole)) ||| named)
    else none
  | [] => none

/-- Four octal digits. -/
def octalText (n : Nat) : String :=
  let ds := Nat.toDigits 8 n
  String.ofList (List.replicate (4 - ds.length) '0' ++ ds)

/-- Permissions in letters. -/
def permissionText (who : Char) (bits : Nat) : String :=
  let letters := [(4, "r"), (2, "w"), (1, "x")].filterMap fun (bit, letter) =>
    if bits &&& bit = 0 then none else some letter
  s!"{who}=" ++ String.join letters

def umask (args : List String) : Act Nat :=
  withFlags "umask" "S" args fun f => do
    let mask := (← Act.process).creationMask
    let set (n : Nat) : Act Nat := do
      Act.modifyProcess fun p => { p with creationMask := n % 512 }
      return 0
    match f.operands with
    | [] =>
      if f.has 'S' then
        let granted := 511 - mask
        let texts := [permissionText 'u' (granted / 64), permissionText 'g' (granted / 8 % 8),
          permissionText 'o' (granted % 8)]
        Act.print (",".intercalate texts ++ "\n")
      else Act.print (octalText mask ++ "\n")
      return 0
    | "" :: _ => return 0
    | mode :: _ =>
      if (mode.toList.head?).any Char.isDigit then
        if mode.all fun c => '0' ≤ c && c ≤ '7' then
          set (mode.toList.foldl (fun n c => n * 8 + (c.toNat - '0'.toNat)) 0)
        else fatalAs "umask" s!"Illegal number: {mode}"
      else
        match (mode.splitOn ",").foldlM (fun n c => changePermissions? n c.toList) (511 - mask) with
        | some granted => set (511 - granted)
        | none => fatalAs "umask" s!"Illegal mode: {mode}"

end PatchTrial.Shell.Builtin
