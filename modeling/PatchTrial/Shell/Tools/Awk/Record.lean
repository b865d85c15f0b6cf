import PatchTrial.Regex.Reader
import PatchTrial.Shell.Tools.Awk.Value

/-!
Records and fields.

A text is cut into records by what ends them, and a record into fields by what stands between them.
A single character stands for itself, a blank for any run of blanks, and a longer text is an
expression. Where nothing ends records, empty lines do.
-/
namespace PatchTrial.Shell.Tools.Awk

/-- What stands between fields. -/
inductive Separator where
  | blanks
  | nothing
  | char (c : Char)
  | regex (r : Regex)

/-- The separator that a text stands for; none if it is no expression. -/
def separator? (s : String) : Except Regex.Fault Separator :=
  match s.toList with
  | [] => .ok .nothing
  | [' '] => .ok .blanks
  | [c] => .ok (.char c)
  | cs => (Regex.ofNotation .records cs).map .regex

/-- The pieces between matches that are not empty. -/
def cutAt (r : Regex) (cs : List Char) : List (List Char) :=
  let s := Regex.Subject.ofList {} cs
  let found := (Regex.allIn s r).filter fun m => m.start < m.stop
  let (out, last) := found.foldl (fun (out, last) m => (s.slice last m.start :: out, m.stop))
    (([] : List (List Char)), 0)
  (s.slice last cs.length :: out).reverse

/-- The pieces between characters of a kind. -/
def cutAtChar (isCut : Char → Bool) (cs : List Char) : List (List Char) :=
  cs.foldr (fun c pieces =>
    if isCut c then [] :: pieces
    else match pieces with
      | p :: ps => (c :: p) :: ps
      | [] => [[c]]) [[]]

/-- The fields of a text. Line breaks may be separators too. -/
def Separator.fields (sep : Separator) (lines : Bool) (text : String) : List String :=
  let cs := text.toList
  if cs.isEmpty then []
  else
    let pieces : List (List Char) := match sep with
      | .blanks => (cutAtChar isBlankChar cs).filter (!·.isEmpty)
      | .nothing => cs.map ([·])
      | .char c => cutAtChar (fun d => d == c || (lines && d == '\n')) cs
      | .regex r => cutAt (if lines then .either r (.char '\n') else r) cs
    pieces.map String.ofList

/-- What ends records. -/
inductive Terminator where
  | char (c : Char)
  | emptyLine
  | regex (r : Regex)

def terminator? (s : String) : Except Regex.Fault Terminator :=
  match s.toList with
  | [] => .ok .emptyLine
  | [c] => .ok (.char c)
  | cs => (Regex.ofNotation .records cs).map .regex

/-- A text up to the next empty line, and what is behind that. -/
def untilEmptyLine : List Char → List Char × List Char
  | [] => ([], [])
  | ['\n'] => ([], [])
  | '\n' :: '\n' :: cs => ([], cs.dropWhile (· == '\n'))
  | c :: cs =>
    let (a, b) := untilEmptyLine cs
    (c :: a, b)

/-- The first record of a text, and what is behind it. -/
def Terminator.take (t : Terminator) (cs : List Char) : Option (String × List Char) :=
  match t with
  | .emptyLine =>
    let cs := cs.dropWhile (· == '\n')
    if cs.isEmpty then none
    else
      let (a, b) := untilEmptyLine cs
      some (String.ofList a, b)
  | .char c =>
    if cs.isEmpty then none
    else
      let (a, b) := cs.span (· != c)
      some (String.ofList a, b.drop 1)
  | .regex r =>
    if cs.isEmpty then none
    else
      let s := Regex.Subject.ofList {} cs
      match Regex.findFrom? s r 0 with
      | some m =>
        if m.start < m.stop then some (String.ofList (cs.take m.start), cs.drop m.stop)
        else some (String.ofList cs, [])
      | none => some (String.ofList cs, [])

/-! ### Replacing -/

/-- A replacement for a match: an ampersand stands for the match, unless a backslash is before
it. -/
def replacementFor (found : List Char) : List Char → List Char
  | '\\' :: '&' :: cs => '&' :: replacementFor found cs
  | '\\' :: '\\' :: cs => '\\' :: replacementFor found cs
  | '&' :: cs => found ++ replacementFor found cs
  | c :: cs => c :: replacementFor found cs
  | [] => []

/-- Replace the first match or all of them. The answer also tells how many there were. -/
def replaceMatches (r : Regex) (all : Bool) (replacement text : String) : Nat × String :=
  let cs := text.toList
  let s := Regex.Subject.ofList {} cs
  let found := if all then Regex.allIn s r else (Regex.findFrom? s r 0).toList
  let (out, last) := found.foldl (fun (out, last) m =>
    (out ++ s.slice last m.start ++
      replacementFor (s.slice m.start m.stop) replacement.toList, m.stop)) (([] : List Char), 0)
  (found.length, String.ofList (out ++ s.slice last cs.length))

end PatchTrial.Shell.Tools.Awk
