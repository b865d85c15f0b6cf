import PatchTrial.Text.CharSet

/-!
Patterns of the shell language.

A star stands for any text, a question mark for any character, and brackets for one character out
of a set. A character of a pattern that was quoted stands for itself.
-/
namespace PatchTrial.Shell

/-- A character with a mark whether it was quoted. -/
abbrev Glyph := Char × Bool

/-- The pattern that a text is as it stands. -/
def glyphs (text : String) : List Glyph := text.toList.map (·, false)

/-- The members of a set up to the closing bracket, which does not close a set when it is the
first character. -/
def readSet : Nat → Bool → List Char → Option (List SetItem × List Char)
  | 0, _, _ => none
  | _ + 1, _, [] => none
  | fuel + 1, first, c :: cs =>
    let more (i : SetItem) (rest : List Char) :=
      (readSet fuel false rest).map fun (is, r) => (i :: is, r)
    if c == ']' && !first then some ([], cs)
    else if c == '[' && cs.head? == some ':' then
      match (cs.drop 1).span (· != ':') with
      | (name, ':' :: ']' :: rest) => more (.named (String.ofList name)) rest
      | _ => more (.range c c) cs
    else
      match cs with
      | '-' :: d :: rest => if d == ']' then more (.range c c) cs else more (.range c d) rest
      | _ => more (.range c c) cs

/-- Whether a text matches a pattern as a whole. -/
def matchesGlyphs : Nat → List Glyph → List Char → Bool
  | 0, _, _ => false
  | _ + 1, [], text => text.isEmpty
  | fuel + 1, (p, quoted) :: ps, text =>
    let one (ok : Char → Bool) (ps : List Glyph) : Bool :=
      match text with
      | [] => false
      | c :: cs => ok c && matchesGlyphs fuel ps cs
    if quoted then one (· == p) ps
    else if p == '*' then
      matchesGlyphs fuel ps text ||
        match text with
        | [] => false
        | _ :: cs => matchesGlyphs fuel ((p, quoted) :: ps) cs
    else if p == '?' then one (fun _ => true) ps
    else if p == '[' then
      let (negated, body) := match ps with
        | ('!', false) :: rest => (true, rest)
        | ('^', false) :: rest => (true, rest)
        | rest => (false, rest)
      match readSet (body.length + 1) true (body.map (·.1)) with
      | none => one (· == p) ps
      | some (items, rest) =>
        one (fun c => items.any (·.has c) != negated) (body.drop (body.length - rest.length))
    else if p == '\\' then
      match ps with
      | (q, _) :: rest => one (· == q) rest
      | [] => one (· == p) ps
    else one (· == p) ps

def matchesPattern (p : List Glyph) (text : List Char) : Bool :=
  matchesGlyphs (2 * (p.length + text.length) + 2) p text

/-- Whether a pattern has anything but characters that stand for themselves. -/
def isPattern (p : List Glyph) : Bool :=
  p.any fun (c, quoted) => !quoted && (c == '*' || c == '?' || c == '[')

/-- What is left of a text when a match at its end is cut off. -/
def cutEnd (p : List Glyph) (longest : Bool) (text : List Char) : List Char :=
  let lengths := List.range (text.length + 1)
  let kept := lengths.filter fun n => matchesPattern p (text.drop n)
  match if longest then kept.head? else kept.getLast? with
  | some n => text.take n
  | none => text

/-- What is left of a text when a match at its start is cut off. -/
def cutStart (p : List Glyph) (longest : Bool) (text : List Char) : List Char :=
  let lengths := List.range (text.length + 1)
  let kept := lengths.filter fun n => matchesPattern p (text.take n)
  match if longest then kept.getLast? else kept.head? with
  | some n => text.drop n
  | none => text

end PatchTrial.Shell
