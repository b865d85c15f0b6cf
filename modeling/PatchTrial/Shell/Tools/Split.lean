import PatchTrial.Shell.Tools.Files

/-!
Cutting a text into files.

The pieces are named by a start that they share and a suffix that counts them, in letters or in
digits. Where the length of suffixes is not given, they grow longer when they run out: the last
letter is kept as the sign of that.
-/
namespace PatchTrial.Shell.Tools.Split

open Quoting (always)

/-- How a text is cut. -/
inductive Manner where
  | lines (count : Nat)
  | octets (count : Nat)
  /-- As many whole lines as fit into a number of octets. -/
  | lineOctets (count : Nat)
  /-- So many pieces of one size, of which the last has the rest. -/
  | pieces (count : Nat)
  /-- So many pieces of whole lines. -/
  | linePieces (count : Nat)
  deriving DecidableEq, Repr

/-- Groups of a size. -/
def groups {α : Type} (size : Nat) : Nat → List α → List (List α)
  | 0, _ => []
  | fuel + 1, xs =>
    if xs.isEmpty then [] else xs.take size :: groups size fuel (xs.drop size)

/-- Lines packed into groups of at most so many octets; a longer line is cut. -/
def packed (size : Nat) : Nat → List Char → List (List Char) → List (List Char)
  | 0, group, _ => [group]
  | _ + 1, group, [] => if group.isEmpty then [] else [group]
  | fuel + 1, group, line :: rest =>
    if group.length + line.length ≤ size then packed size fuel (group ++ line) rest
    else if !group.isEmpty then group :: packed size fuel [] (line :: rest)
    else line.take size :: packed size fuel [] (line.drop size :: rest)

/-- The lines of a text with their ends. -/
def wholeLines (text : List Char) : List (List Char) :=
  let (lines, ended) := linesOf text
  lines.mapIdx fun i l => if i + 1 = lines.length && !ended then l else l ++ ['\n']

/-- Lines in so many groups: a line belongs to the group in which it starts. -/
def linePieces (count : Nat) (text : List Char) : List (List Char) :=
  let size := text.length / count
  let starts := (wholeLines text).foldl (fun (n, found) line =>
    (n + line.length, (if size = 0 then count - 1 else min (n / size) (count - 1), line) :: found))
    (0, ([] : List (Nat × List Char)))
  (List.range count).map fun i => (starts.2.reverse.filter (·.1 = i)).flatMap (·.2)

/-- The pieces of a text. -/
def cut (manner : Manner) (text : List Char) : List (List Char) :=
  match manner with
  | .lines n => (groups n (text.length + 1) (wholeLines text)).map List.flatten
  | .octets n => groups n (text.length + 1) text
  | .lineOctets n => packed n (2 * text.length + 2) [] (wholeLines text)
  | .pieces n =>
    let size := text.length / n
    (List.range n).map fun i =>
      if i + 1 = n then text.drop (i * size) else (text.drop (i * size)).take size
  | .linePieces n => linePieces n text

/-- So many digits of a number in the alphabet of suffixes. -/
def digitsOf (letters : List Char) : Nat → Nat → List Char
  | 0, _ => []
  | k + 1, n => digitsOf letters k (n / letters.length) ++ [letters.getD (n % letters.length) 'a']

/-- The suffix with a number when suffixes may grow: each length leaves out those that start with
the last letter, which longer ones are put behind. -/
def growing (letters : List Char) : Nat → Nat → List Char → Nat → List Char
  | 0, width, lead, n => lead ++ digitsOf letters width n
  | fuel + 1, width, lead, n =>
    let room := (letters.length - 1) * Nat.pow letters.length (width - 1)
    if n < room then lead ++ digitsOf letters width n
    else growing letters fuel (width + 1) (lead ++ letters.drop (letters.length - 1)) (n - room)

/-- The suffix with a number, if there is one. -/
def suffix? (letters : List Char) (width : Option Nat) (n : Nat) : Option (List Char) :=
  match width with
  | some width => if n < Nat.pow letters.length width then some (digitsOf letters width n) else none
  | none => some (growing letters 8 2 [] n)

/-- Write the pieces of a text. -/
def writePieces (name : Nat → Option String) : Nat → List (List Char) → Act Nat
  | _, [] => return 0
  | i, piece :: rest => do
    match name i with
    | none => fail "split" "output file suffixes exhausted"
    | some path => do
      let here := (← Act.process).here
      match ← Act.change fun t => t.write here path (Octets.toBytes piece) with
      | .ok () => writePieces name (i + 1) rest
      | .error e => fail "split" s!"{path}: {e.words}"

/-- The manner that options ask for, or what is wrong with them. -/
def mannerOf (o : Options) : Except String Manner := do
  let positive (what : String) (number : String → Option Nat) (text : String) :
      Except String Nat :=
    match number text with
    | some 0 => .error (s!"invalid number of {what}: " ++ Quoting.text text)
    | some n => .ok n
    | none => .error (s!"invalid number of {what}: " ++ Quoting.text text)
  match o.last? ["l", "b", "C", "n"] with
  | none => .ok (.lines 1000)
  | some key =>
    let text := (o.value? key).getD ""
    if key = "l" then return .lines (← positive "lines" size? text)
    else if key = "b" then return .octets (← positive "bytes" size? text)
    else if key = "C" then return .lineOctets (← positive "bytes" size? text)
    else if text.startsWith "l/" then
      return .linePieces (← positive "chunks" natural? (text.drop 2).toString)
    else return .pieces (← positive "chunks" natural? text)

def options : String :=
  "l|lines: b|bytes: C|line-bytes: n|number: d|numeric-suffixes? x|hex-suffixes? " ++
    "a|suffix-length: additional-suffix: e|elide-empty-files verbose u|unbuffered t|separator:"

end Split

def split : Tool := fun args =>
  let args := args.flatMap fun a =>
    match a.toList with
    | '-' :: ds =>
      if !ds.isEmpty && ds.all Char.isDigit then ["-l", String.ofList ds] else [a]
    | _ => [a]
  withOptions "split" Split.options args fun o => do
    match Split.mannerOf o, o.operands with
    | .error text, _ => fail "split" text
    | _, _ :: _ :: extra :: _ => misuse "split" s!"extra operand {Quoting.text extra}"
    | .ok manner, operands => do
      let path := operands.headD "-"
      let width : Except String (Option Nat) := match o.value? "a" with
        | none => .ok none
        | some text =>
          match natural? text with
          | some 0 => .ok none
          | some n => .ok (some n)
          | none => .error s!"invalid suffix length: {Quoting.text text}"
      match width, ← contentOf path with
      | .error text, _ => fail "split" text
      | _, .error e =>
        fail "split" s!"cannot open {Quoting.always path} for reading: {e.words}"
      | .ok width, .ok text =>
        let letters := if o.has "d" then "0123456789" else if o.has "x" then "0123456789abcdef"
          else "abcdefghijklmnopqrstuvwxyz"
        let lead := (operands.drop 1).headD "x"
        let behind := (o.value? "additional-suffix").getD ""
        let name (n : Nat) : Option String :=
          (Split.suffix? letters.toList width n).map fun s => lead ++ String.ofList s ++ behind
        let pieces := Split.cut manner text
        Split.writePieces name 0 (if o.has "e" then pieces.filter (!·.isEmpty) else pieces)

end PatchTrial.Shell.Tools
