import PatchTrial.Files.Tree

/-!
Modes of files, as they are written and shown.

A mode is written in octal digits, or in clauses that say for whom which permissions are added,
taken away or set. It is shown in letters or in digits.
-/
namespace PatchTrial.Shell.Tools

/-- The permission that a letter names, for the user, the group and others alike. A letter for a
special bit names none, as those bits are not kept. -/
def modeBits (c : Char) : Nat :=
  match c with
  | 'r' => 0o444
  | 'w' => 0o222
  | 'x' => 0o111
  | _ => 0

/-- The part of a mode that belongs to the user, the group, others or all of them. -/
def modeOf (who : Char) : Nat :=
  match who with
  | 'u' => 0o700
  | 'g' => 0o070
  | 'o' => 0o007
  | _ => 0o777

/-- What a clause of a mode makes of an old mode. Without a part that it is for, the clause is for
all that the mask does not keep. -/
def clause? (mask : Nat) (clause : List Char) : Option (Nat → Nat) :=
  let (who, rest) := clause.span fun c => "ugoa".contains c
  let whole := if who.isEmpty then 0o777 - mask else who.foldl (fun n w => n ||| modeOf w) 0
  let copied (old : Nat) (c : Char) : Nat :=
    let bits := match c with
      | 'u' => old / 64 % 8
      | 'g' => old / 8 % 8
      | _ => old % 8
    bits * 73
  let rec actions : Nat → List Char → Option (Nat → Nat)
    | 0, _ => none
    | _ + 1, [] => some id
    | fuel + 1, op :: cs =>
      if !(['+', '-', '='].contains op) then none
      else
        let (letters, rest) := cs.span fun c => "rwxXstugo".contains c
        (actions fuel rest).map fun next old =>
          let bits := letters.foldl (fun n c =>
            n ||| (if c = 'X' then (if FileTree.isRunnable old then 0o111 else 0)
              else if "ugo".contains c then copied old c else modeBits c)) 0
          let named := bits &&& whole
          next (match op with
            | '+' => old ||| named
            | '-' => old ^^^ (old &&& named)
            | _ => (old ^^^ (old &&& whole)) ||| named)
  if rest.isEmpty then none else actions (rest.length + 1) rest

/-- What a mode, in octal digits or in clauses, makes of an old mode. -/
def modeChange? (mask : Nat) (mode : String) : Option (Nat → Nat) :=
  if !mode.isEmpty && mode.all (fun c => '0' ≤ c && c ≤ '7') && mode.length ≤ 5 then
    let n := mode.toList.foldl (fun n c => n * 8 + (c.toNat - '0'.toNat)) 0
    some fun _ => n % 0o1000
  else
    ((mode.splitOn ",").mapM fun c => clause? mask c.toList).map fun cs old =>
      cs.foldl (fun n change => change n) old

/-- A mode in letters. -/
def modeText (mode : Nat) : String :=
  String.ofList ((List.range 9).map fun i =>
    if mode &&& Nat.pow 2 (8 - i) = 0 then '-' else ['r', 'w', 'x'].getD (i % 3) '-')

/-- A mode in four octal digits. -/
def modeDigits (mode : Nat) : String :=
  let ds := Nat.toDigits 8 mode
  String.ofList (List.replicate (4 - ds.length) '0' ++ ds)

end PatchTrial.Shell.Tools
