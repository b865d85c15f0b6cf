import PatchTrial.Files.Tree
import PatchTrial.Shell.Pattern

/-!
Splitting the result of an expansion into fields, and matching fields against file names.
-/
namespace PatchTrial.Shell

/-- A piece of an expanded word. -/
inductive Mark where
  /-- A character, whether it was quoted, and whether it may separate fields. -/
  | char (c : Char) (quoted splits : Bool)
  /-- There is a field here even if it is empty. -/
  | presence
  /-- A field ends here, even an empty one. -/
  | fieldEnd
  /-- A field ends here if there is one. -/
  | softEnd
  deriving Repr

/-- Fields that are being collected. -/
structure Fields where
  done : List (List Glyph) := []
  current : Option (List Glyph) := none
  /-- Whether white space has just ended a field. -/
  justEnded : Bool := false

namespace Fields

def finish (f : Fields) : Fields :=
  match f.current with
  | some g => { done := f.done ++ [g], justEnded := true }
  | none => f

def isWhite (c : Char) : Bool := c == ' ' || c == '\t' || c == '\n'

def add (separators : List Char) (f : Fields) : Mark → Fields
  | .presence => { f with current := some (f.current.getD []), justEnded := false }
  | .fieldEnd => { done := f.done ++ [f.current.getD []] }
  | .softEnd => f.finish
  | .char c quoted splits =>
    if splits && !quoted && separators.contains c then
      if isWhite c then f.finish
      else if f.current.isNone && f.justEnded then { f with justEnded := false }
      else { done := f.done ++ [f.current.getD []] }
    else { f with current := some (f.current.getD [] ++ [(c, quoted)]), justEnded := false }

end Fields

/-- The fields of an expanded word. -/
def splitFields (separators : List Char) (ms : List Mark) : List (List Glyph) :=
  (ms.foldl (Fields.add separators) {}).finish.done

def plainText (g : List Glyph) : String := String.ofList (g.map (·.1))

/-- The pieces of a pattern between slashes. -/
def patternParts : List Glyph → List (List Glyph)
  | [] => [[]]
  | (c, q) :: gs =>
    match patternParts gs with
    | [] => [[]]
    | p :: ps => if c == '/' then [] :: p :: ps else ((c, q) :: p) :: ps

/-- The names in a directory that match a pattern. A dot at the start must be matched by one; then
the directory itself and the one above it are also looked at. -/
def matchingNames (t : FileTree) (place : FileTree.Place) (p : List Glyph) : List String :=
  let dotted := (p.head?.map (·.1)) == some '.'
  ((if dotted then [".", ".."] else []) ++ t.names place).filter fun n =>
    matchesPattern p n.toList && (dotted || !n.startsWith ".")

/-- The paths below `at` that match the pieces of a pattern. -/
def matchingPaths (t : FileTree) : FileTree.Place → List (List Glyph) → List String
  | _, [] => []
  | place, [p] =>
    if isPattern p then matchingNames t place p
    else
      let n := plainText p
      if n.isEmpty || (t.entry? (place ++ [n])).isSome then [n] else []
  | place, p :: ps =>
    let names := if isPattern p then matchingNames t place p else [plainText p]
    names.flatMap fun n =>
      let named := if n = "" || n = "." then place
        else if n = ".." then place.dropLast else place ++ [n]
      let next := (t.behind? named).getD named
      if t.isDirectory next then (matchingPaths t next ps).map fun rest => n ++ "/" ++ rest else []

/-- What a field stands for: the paths that it matches, or else itself. -/
def matchFiles (t : FileTree) (here : FileTree.Place) (g : List Glyph) : List String :=
  if !isPattern g then [plainText g]
  else
    let parts := patternParts g
    let found := match parts with
      | [] :: rest => (matchingPaths t [] rest).map ("/" ++ ·)
      | parts => matchingPaths t here parts
    if found.isEmpty then [plainText g] else found.mergeSort fun a b => decide (a ≤ b)

end PatchTrial.Shell
