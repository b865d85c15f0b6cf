import PatchTrial.Text.Basic

/-!
What a unified diff touches.

Changed lines are counted by their first character. Paths come from the `+++` headers, without
their first component; where the new side names no file, the old side does.
-/
namespace PatchTrial.Diff

open Text

/-- A line that adds or removes text; file headers do neither. -/
def isChange (line : List Char) : Bool :=
  (['+'].isPrefixOf line && !(['+', '+', '+'].isPrefixOf line)) ||
    (['-'].isPrefixOf line && !(['-', '-', '-'].isPrefixOf line))

/-- The number of lines that a diff adds or removes. -/
def changedLines (diff : String) : Nat := (lines diff.toList).countP isChange

/-- The path of a file without its first component, unless nothing is left. -/
def dropComponent (path : List Char) : List Char :=
  match splitAt? '/' path with
  | some (_, rest) => if rest.isEmpty then path else rest
  | none => path

/-- The path in a file header, which a tab and a timestamp may follow. -/
def headerPath? (rest : List Char) : Option (List Char) :=
  let path := trim (rest.takeWhile (· != '\t'))
  if path.isEmpty || path == "/dev/null".toList then none else some (dropComponent path)

/-- The paths in the headers of a diff, in order. `old` is the path of the last `---` header that
no `+++` header has followed yet. -/
def headerPaths (old : Option (List Char)) : List (List Char) → List (List Char)
  | [] => []
  | line :: rest =>
    match afterStart? ['-', '-', '-', ' '] line with
    | some header => headerPaths (headerPath? header) rest
    | none =>
      match afterStart? ['+', '+', '+', ' '] line with
      | some header => ((headerPath? header).or old).toList ++ headerPaths none rest
      | none => headerPaths old rest

/-- The files that a diff touches, each once, in the order of their first header. -/
def touchedFiles (diff : String) : List String :=
  ((headerPaths none (lines diff.toList)).map String.ofList).eraseDups

end PatchTrial.Diff
