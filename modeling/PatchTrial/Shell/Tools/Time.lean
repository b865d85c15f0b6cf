import PatchTrial.Shell.Tools.Options

/-!
Durations, and tools that let time pass.
-/
namespace PatchTrial.Shell.Tools

/-- A duration in milliseconds, with its unit. -/
def duration? (s : String) : Option Nat :=
  let (body, scale) : List Char × Nat := match s.toList.reverse with
    | 's' :: cs => (cs.reverse, 1)
    | 'm' :: cs => (cs.reverse, 60)
    | 'h' :: cs => (cs.reverse, 3600)
    | 'd' :: cs => (cs.reverse, 86400)
    | cs => (cs.reverse, 1)
  let body := match body with
    | '+' :: cs => cs
    | cs => cs
  if body = "inf".toList || body = "infinity".toList then some (Nat.pow 10 15)
  else
    let (whole, rest) := body.span Char.isDigit
    let fraction : Option (List Char) := match rest with
      | [] => some []
      | '.' :: ds => if ds.all Char.isDigit then some ds else none
      | _ => none
    match fraction with
    | none => none
    | some ds =>
      if whole.isEmpty && ds.isEmpty then none
      else
        let thousandths := Nat.ofDigitChars 10 ((ds ++ ['0', '0', '0']).take 3) 0
        some ((Nat.ofDigitChars 10 whole 0 * 1000 + thousandths) * scale)

def sleep : Tool := fun args =>
  withOptions "sleep" "" args fun o => do
    if o.operands.isEmpty then misuse "sleep" "missing operand"
    else
      let bad := o.operands.filter fun a => (duration? a).isNone
      for a in bad do
        warnAs "sleep" s!"invalid time interval {Quoting.text a}"
      if !bad.isEmpty then
        pointToHelp "sleep"
        return 1
      let total := (o.operands.filterMap duration?).foldl (· + ·) 0
      if Nat.pow 10 15 ≤ total then throw .spinning
      let w ← Act.world
      Act.setWorld (w.advanceTo (w.clock + total))
      return 0

end PatchTrial.Shell.Tools
