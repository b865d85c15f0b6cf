import PatchTrial.Shell.Builtin.Basic
import PatchTrial.Shell.Tools.Format

/-!
Commands of the shell that print their arguments, as they are or by a format.
-/
namespace PatchTrial.Shell.Builtin

open Tools

def echo (args : List String) : Act Nat := do
  let (newline, args) := match args with
    | "-n" :: rest => (false, rest)
    | args => (true, args)
  let (text, ended) := unescapeText textEscape (" ".intercalate args)
  emit (if newline && ended.isNone then text ++ ['\n'] else text)
  return 0

/-- What is wrong with an argument or a format, in the words of the shell; it lets pass what is too
much behind a quote. -/
def faultWords? : FormatFault → Option String
  | .partly arg => some s!"{arg}: not completely converted"
  | .outOfRange arg => some s!"{arg}: Numerical result out of range"
  | .nothing arg => some s!"{arg}: expected numeric value"
  | .behindQuote _ => none
  | .noKind _ => some "missing format character"
  | .unknownKind directive => some s!"%{directive}: invalid directive"
  | .unfinished => none

def printf (args : List String) : Act Nat := do
  let (guarded, args) := match args with
    | "--" :: rest => (true, rest)
    | args => (false, args)
  match args with
  | [] => do
    Act.complainAs "printf" "usage: printf format [arg ...]"
    throw .fault
  | format :: args =>
    if !guarded && format.startsWith "-" && 1 < format.length then
      let letter := (format.drop 1).take 1
      Act.complainAs "printf" s!"Illegal option -{letter}"
      throw .fault
    let p := printed .shell format args
    let faults := p.faults.filterMap faultWords?
    for text in faults do
      Act.complainAs "printf" text
    emit p.text
    if p.isBroken then throw .fault
    return if faults.isEmpty then 0 else 1

end PatchTrial.Shell.Builtin
