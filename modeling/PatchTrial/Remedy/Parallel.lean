import PatchTrial.Text.Basic
import PatchTrial.Text.WordChar

/-!
Options that set how many jobs run at once.

`-j` with a number, at the start of a command or after a blank, becomes `-j1`; `--parallel` with a
number becomes `--parallel 1`. All other characters stay as they are. The digits may be those of
any script.
-/
namespace PatchTrial.Parallel

open Text

/-- The number of characters that digits and what stands before them take, if there are digits. -/
def digitsLength? (before : Nat) (rest : List Char) : Option Nat :=
  let ds := rest.takeWhile isDigit
  if ds.isEmpty then none else some (before + ds.length)

/-- The length of a `-j` option at the start of a text. -/
def jobsLength? (cs : List Char) : Option Nat := do
  let rest ← afterStart? ['-', 'j'] cs
  digitsLength? (2 + (rest.takeWhile isBlank).length) (rest.dropWhile isBlank)

/-- The length of a `--parallel` option at the start of a text. -/
def levelLength? (cs : List Char) : Option Nat := do
  let start := "--parallel".toList
  let rest ← afterStart? start cs
  match rest with
  | '=' :: rest => digitsLength? (start.length + 1) rest
  | _ =>
    let blanks := rest.takeWhile isBlank
    if blanks.isEmpty then none
    else digitsLength? (start.length + blanks.length) (rest.dropWhile isBlank)

/-- Replace matches from left to right. `find` is told whether it stands at the start or after a
blank, and gives the length of the match; `skip` characters belong to the last match still. -/
def replaceMatches (find : Bool → List Char → Option Nat) (new : List Char) :
    Nat → Bool → List Char → List Char
  | _, _, [] => []
  | skip + 1, _, c :: cs => replaceMatches find new skip (isBlank c) cs
  | 0, start, c :: cs =>
    match find start (c :: cs) with
    | some n => new ++ replaceMatches find new (n - 1) (isBlank c) cs
    | none => c :: replaceMatches find new 0 (isBlank c) cs

def jobsAt (start : Bool) (cs : List Char) : Option Nat := if start then jobsLength? cs else none

/-- Every `-j` option set to one job. -/
def oneJob (cs : List Char) : List Char := replaceMatches jobsAt "-j1".toList 0 true cs

/-- Every `--parallel` option set to one job. -/
def oneLevel (cs : List Char) : List Char :=
  replaceMatches (fun _ => levelLength?) "--parallel 1".toList 0 true cs

/-- A command with one job at a time. -/
def serialized (cmd : String) : String := String.ofList (oneLevel (oneJob cmd.toList))

end PatchTrial.Parallel
