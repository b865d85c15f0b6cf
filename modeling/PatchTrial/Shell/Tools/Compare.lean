import PatchTrial.Text.Difference
import PatchTrial.Shell.Pattern
import PatchTrial.Shell.Tools.Files

/-!
Comparing files: whether they are equal, where they differ first, and which lines differ.

The status is zero for files that are equal, one for files that differ, and two for trouble.
-/
namespace PatchTrial.Shell.Tools

open Quoting (always)

/-- Say where help is to be had, in the words of the tools that compare. -/
def pointToHelpAs (tool : String) : Act Unit := do
  let name ← calledAs tool
  Act.warn s!"{name}: Try '{name} --help' for more information."

/-- Say what went wrong, and where help is to be had. -/
def troubleAs (tool text : String) : Act Nat := do
  warnAs tool text
  pointToHelpAs tool
  return 2

/-- Read the options of a tool that compares. -/
def withComparing (tool forms : String) (args : List String) (run : Options → Act Nat) :
    Act Nat := do
  match Options.read (optionForms (forms ++ " help version")) false {} args with
  | .error fault => troubleAs tool fault.message
  | .ok o =>
    if o.has "help" || o.has "version" then
      Act.print s!"Usage: {tool} [OPTION]...\n"
      return 0
    else run o

/-! ### Octets -/

namespace Compare

/-- The first place where two texts differ, if there is one within both. -/
def firstDifference? : Nat → List Char → List Char → Option (Nat × Char × Char)
  | _, [], _ => none
  | _, _, [] => none
  | n, a :: as, b :: bs => if a = b then firstDifference? (n + 1) as bs else some (n, a, b)

/-- All places where two texts differ. -/
def allDifferences (n : Nat) (as bs : List Char) : List (Nat × Char × Char) :=
  ((as.zip bs).mapIdx fun i (a, b) => (n + i, a, b)).filter fun (_, a, b) => a ≠ b

/-- A character as it is shown beside its number. -/
def visible (c : Char) : String :=
  let low (n : Nat) : String :=
    if n < 32 then "^" ++ String.singleton (Char.ofNat (n + 64))
    else if n = 127 then "^?" else String.singleton (Char.ofNat n)
  let n := c.toNat
  if n < 128 then low n else "M-" ++ low (n - 128)

def octalText (c : Char) : String := right 3 (String.ofList (Nat.toDigits 8 c.toNat))

/-- What is said about a text that ends before the other one. -/
def endText (name : String) (common : List Char) (all : Bool) : String :=
  let lines := common.countP (· == '\n')
  if common.isEmpty then s!"EOF on {name} which is empty"
  else if all then s!"EOF on {name} after byte {common.length}"
  else if common.getLast? = some '\n' then
    s!"EOF on {name} after byte {common.length}, line {lines}"
  else s!"EOF on {name} after byte {common.length}, in line {lines + 1}"

end Compare

def cmp : Tool := fun args =>
  withComparing "cmp"
    "b|print-bytes i|ignore-initial: l|verbose n|bytes: s|quiet|silent" args fun o => do
      let skips (text : String) : Option (Nat × Nat) :=
        match text.splitOn ":" with
        | [a] => (size? a).map fun n => (n, n)
        | [a, b] => do return (← size? a, ← size? b)
        | _ => none
      let (names, extra) := (o.operands.take 2, o.operands.drop 2)
      let initial : Option (Nat × Nat) := match o.value? "i", extra with
        | some text, _ => skips text
        | none, [] => some (0, 0)
        | none, [a] => (size? a).map fun n => (n, 0)
        | none, a :: b :: _ => do return (← size? a, ← size? b)
      let limit := match o.value? "n" with
        | none => some none
        | some text => (size? text).map some
      match names, initial, limit with
      | [], _, _ => troubleAs "cmp" "missing operand after 'cmp'"
      | _, none, _ =>
        let bad := (o.value? "i").getD (extra.headD "")
        troubleAs "cmp" s!"invalid --ignore-initial value '{bad}'"
      | _, _, none =>
        let bad := (o.value? "n").getD ""
        troubleAs "cmp" s!"invalid --bytes value '{bad}'"
      | a :: others, some (m, n), some most => do
        if let some extra := extra[2]? then
          return ← troubleAs "cmp" s!"extra operand '{extra}'"
        let b := others.headD "-"
        match ← contentOf a with
        | .error e => do
          if !(o.has "s" && e ≠ .isDirectory) then warnAs "cmp" s!"{a}: {e.words}"
          return 2
        | .ok x =>
          let second ← if a = "-" && b = "-" then pure (.ok x) else contentOf b
          match second with
          | .error e => do
            if !(o.has "s" && e ≠ .isDirectory) then warnAs "cmp" s!"{b}: {e.words}"
            return 2
          | .ok y =>
            let cutTo (cs : List Char) : List Char := match most with
              | some k => cs.take k
              | none => cs
            let (full, other) := (x.drop m, y.drop n)
            let (x, y) := (cutTo full, cutTo other)
            if x = y then return 0
            if o.has "s" then return 1
            let shorter := if x.length < y.length then a else b
            if o.has "l" then
              let found := Compare.allDifferences 1 x y
              let least := min full.length other.length
              let width := (toString (match most with
                | some k => min k least
                | none => least)).length
              for (n, c, d) in found do
                let place := right width (toString n)
                let (p, q) := (Compare.octalText c, Compare.octalText d)
                if o.has "b" then
                  Act.print s!"{place} {p} {left 4 (Compare.visible c)} {q} {Compare.visible d}\n"
                else Act.print s!"{place} {p} {q}\n"
              if x.length ≠ y.length then
                warnAs "cmp" (Compare.endText shorter (x.take y.length) true)
              return 1
            match Compare.firstDifference? 1 x y with
            | none => do
              warnAs "cmp" (Compare.endText shorter (x.take y.length) false)
              return 1
            | some (n, c, d) => do
              let line := (x.take (n - 1)).countP (· == '\n') + 1
              let (p, q) := (Compare.octalText c, Compare.octalText d)
              if o.has "b" then
                Act.print (s!"{a} {b} differ: byte {n}, line {line} is " ++
                  s!"{p} {Compare.visible c} {q} {Compare.visible d}\n")
              else Act.print s!"{a} {b} differ: char {n}, line {line}\n"
              return 1

/-! ### Lines -/

namespace Compare

/-- A text that is compared: its lines, and whether the last one is ended. -/
structure Side where
  name : String
  lines : Array (List Char)
  ended : Bool

def Side.ofText (name : String) (text : List Char) : Side :=
  let (lines, ended) := linesOf text
  ⟨name, lines.toArray, ended || text.isEmpty⟩

/-- A line as it counts for the comparison. -/
def lineKey (o : Options) (line : List Char) (ended : Bool) : List Char :=
  let isBlank (c : Char) : Bool := inCharClass "space" c
  let line := if o.has "strip-trailing-cr" && line.getLast? = some '\r' then line.dropLast else line
  let trimmed (cs : List Char) : List Char := (cs.reverse.dropWhile isBlank).reverse
  let key :=
    if o.has "w" then line.filter (!isBlank ·)
    else if o.has "b" then
      (((trimmed line).foldl (fun (out, blank) c =>
        if isBlank c then (out, true)
        else (c :: (if blank then ' ' :: out else out), false))
        (([] : List Char), false)).1).reverse
    else if o.has "Z" then trimmed line
    else line
  let key := if o.has "i" then key.map Char.toLower else key
  let loose := o.has "w" || o.has "b" || o.has "Z"
  if ended || loose then key ++ ['\n'] else key

/-- Numbers for lines that are equal. -/
def numbered (o : Options) (a b : Side) : Array Nat × Array Nat :=
  let keys (s : Side) : List (List Char) :=
    s.lines.toList.mapIdx fun i line => lineKey o line (s.ended || i + 1 ≠ s.lines.size)
  let (xs, ys) := (keys a, keys b)
  let all := (xs ++ ys).eraseDups
  let number (k : List Char) : Nat := (all.idxOf? k).getD all.length
  ((xs.map number).toArray, (ys.map number).toArray)

/-- How differences are shown. -/
inductive Style where
  | normal
  | unified (context : Nat)
  | context (context : Nat)
  | script
  /-- Both texts beside one another, in so many columns. -/
  | beside (width : Nat)
  deriving DecidableEq, Repr

/-- A line of a side behind a sign. -/
def Side.shown (s : Side) (sign : String) (i : Nat) : List Char :=
  let missing := !s.ended && i + 1 = s.lines.size
  sign.toList ++ (s.lines[i]?.getD []) ++
    (if missing then "\n\\ No newline at end of file\n".toList else ['\n'])

def Side.range (s : Side) (sign : String) (start count : Nat) : List Char :=
  (List.range count).flatMap fun i => s.shown sign (start + i)

/-- A range of lines; an empty one is named by the line before it. -/
def rangeText (start count : Nat) : String :=
  if count = 0 then toString start
  else if count = 1 then toString (start + 1)
  else s!"{start + 1},{start + count}"

open Difference (Change)

def normalText (a b : Side) (c : Change) : List Char :=
  let letter := if c.leftCount = 0 then "a" else if c.rightCount = 0 then "d" else "c"
  (rangeText c.left c.leftCount ++ letter ++ rangeText c.right c.rightCount ++ "\n").toList ++
    a.range "< " c.left c.leftCount ++
    (if letter = "c" then "---\n".toList else []) ++
    b.range "> " c.right c.rightCount

/-- A command that makes a change in the first text. -/
def scriptText (b : Side) (c : Change) : List Char :=
  let letter := if c.leftCount = 0 then "a" else if c.rightCount = 0 then "d" else "c"
  (rangeText c.left c.leftCount ++ letter ++ "\n").toList ++
    (if c.rightCount = 0 then [] else b.range "" c.right c.rightCount ++ ".\n".toList)

/-- Changes that are so near to one another that they are shown together. -/
def hunks (context : Nat) : List Change → List (List Change)
  | [] => []
  | c :: cs =>
    match hunks context cs with
    | (d :: ds) :: rest =>
      if d.left ≤ c.left + c.leftCount + 2 * context then (c :: d :: ds) :: rest
      else [c] :: (d :: ds) :: rest
    | rest => [c] :: rest

/-- The lines of both sides that a hunk shows. -/
def extent (context : Nat) (a b : Side) (cs : List Change) : Nat × Nat × Nat × Nat :=
  match cs.head?, cs.getLast? with
  | some first, some last =>
    let lead := min context first.left
    let end' := last.left + last.leftCount
    let tail := min context (a.lines.size - end')
    (first.left - lead, end' + tail, first.right - lead,
      min b.lines.size (last.right + last.rightCount + tail))
  | _, _ => (0, 0, 0, 0)

def unifiedText (context : Nat) (a b : Side) (cs : List Change) : List Char :=
  let (x0, x1, y0, y1) := extent context a b cs
  let range (start stop : Nat) : String :=
    if stop - start = 1 then toString (start + 1)
    else if stop = start then s!"{start},0" else s!"{start + 1},{stop - start}"
  let (body, x) := cs.foldl (fun (out, x) c =>
    (out ++ a.range " " x (c.left - x) ++ a.range "-" c.left c.leftCount ++
      b.range "+" c.right c.rightCount, c.left + c.leftCount)) (([] : List Char), x0)
  s!"@@ -{range x0 x1} +{range y0 y1} @@\n".toList ++ body ++ a.range " " x (x1 - x)

def contextText (context : Nat) (a b : Side) (cs : List Change) : List Char :=
  let (x0, x1, y0, y1) := extent context a b cs
  let range (start stop : Nat) : String :=
    if stop ≤ start + 1 then toString stop else s!"{start + 1},{stop}"
  let sign (c : Change) (alone : String) : String :=
    if c.leftCount ≠ 0 && c.rightCount ≠ 0 then "! " else alone
  let old := cs.foldl (fun (out, x) c =>
    (out ++ a.range "  " x (c.left - x) ++ a.range (sign c "- ") c.left c.leftCount,
      c.left + c.leftCount)) (([] : List Char), x0)
  let new := cs.foldl (fun (out, y) c =>
    (out ++ b.range "  " y (c.right - y) ++ b.range (sign c "+ ") c.right c.rightCount,
      c.right + c.rightCount)) (([] : List Char), y0)
  s!"***************\n*** {range x0 x1} ****\n".toList ++
    (if cs.any (·.leftCount ≠ 0) then old.1 ++ a.range "  " old.2 (x1 - old.2) else []) ++
    s!"--- {range y0 y1} ----\n".toList ++
    (if cs.any (·.rightCount ≠ 0) then new.1 ++ b.range "  " new.2 (y1 - new.2) else [])

/-! ### Side by side -/

/-- The distance of tab stops. -/
def tabStop : Nat := 8

/-- Where the columns of texts beside one another are: the width of each, and the start of the
second one. -/
def columnsOf (width : Nat) : Nat × Nat :=
  let start := (width + tabStop + 3) / (2 * tabStop) * tabStop
  let half := min (start - 3) (width - start)
  (half, if half = 0 then width else start)

/-- Blanks from a column to another one, tabs as long as they fit. -/
def advance : Nat → Nat → Nat → List Char
  | 0, _, _ => []
  | fuel + 1, start, stop =>
    let next := start + tabStop - start % tabStop
    if next ≤ stop then '\t' :: advance fuel next stop
    else List.replicate (stop - start) ' '

/-- A line cut off at a width, and the column in which it ends. -/
def halfLine (width : Nat) : Nat → Nat → List Char → List Char × Nat
  | _, shown, [] => ([], shown)
  | column, shown, '\t' :: cs =>
    let next := column + tabStop - column % tabStop
    if column = shown && next < width then
      let (text, stop) := halfLine width next next cs
      ('\t' :: text, stop)
    else halfLine width next shown cs
  | column, shown, c :: cs =>
    if column < width then
      let (text, stop) := halfLine width (column + 1) (column + 1) cs
      (c :: text, stop)
    else halfLine width (column + 1) shown cs

/-- Whether a line of a side has its line break. -/
def Side.breaks (s : Side) (i : Nat) : Bool := s.ended || i + 1 ≠ s.lines.size

/-- A row with a line of the first side, a line of the second one, or both. -/
def rowText (width : Nat) (a b : Side) (x y : Option Nat) (sign : Char) : List Char :=
  let (half, start) := columnsOf width
  let (first, column) := match x with
    | some i => halfLine half 0 0 (a.lines[i]?.getD [])
    | none => ([], 0)
  let leftBreaks := x.any a.breaks
  let rightBreaks := y.any b.breaks
  let sign := if sign = '|' && leftBreaks != rightBreaks then (if leftBreaks then '/' else '\\')
    else sign
  let middle := (half + start - 1) / 2
  let (gap, column) := if sign = ' ' then ([], column)
    else (advance (middle + 1) column middle ++ [sign], max column middle + 1)
  let second := match y with
    | some i =>
      let line := b.lines[i]?.getD []
      if line.isEmpty then [] else advance (start + 1) column start ++ (halfLine half 0 0 line).1
    | none => []
  first ++ gap ++ second ++ (if leftBreaks || rightBreaks then ['\n'] else [])

/-- Lines that both sides have. -/
def commonRows (o : Options) (width : Nat) (a b : Side) (x y count : Nat) : List Char :=
  if o.has "suppress-common-lines" then []
  else (List.range count).flatMap fun n =>
    if o.has "left-column" then rowText width a b (some (x + n)) none '('
    else rowText width a b (some (x + n)) (some (y + n)) ' '

/-- Both sides beside one another. -/
def besideText (o : Options) (width : Nat) (a b : Side) (changes : List Change) : List Char :=
  let rows (c : Change) : List Char :=
    let both := min c.leftCount c.rightCount
    ((List.range both).flatMap fun n =>
      rowText width a b (some (c.left + n)) (some (c.right + n)) '|') ++
    ((List.range (c.rightCount - both)).flatMap fun n =>
      rowText width a b none (some (c.right + both + n)) '>') ++
    ((List.range (c.leftCount - both)).flatMap fun n =>
      rowText width a b (some (c.left + both + n)) none '<')
  let (out, x, y) := changes.foldl (fun (out, x, y) c =>
    (out ++ commonRows o width a b x y (c.left - x) ++ rows c, c.left + c.leftCount,
      c.right + c.rightCount)) (([] : List Char), 0, 0)
  out ++ commonRows o width a b x y (a.lines.size - x)

/-- Whether a change is only about blank lines. -/
def isAboutBlanks (a b : Side) (c : Change) : Bool :=
  let blank (s : Side) (start count : Nat) : Bool :=
    (List.range count).all fun i => (s.lines[start + i]?.getD []).isEmpty
  blank a c.left c.leftCount && blank b c.right c.rightCount

/-- The differences of two texts in a style. -/
def differenceText (o : Options) (style : Style) (a b : Side) : List Char :=
  let horizon := match style with
    | .unified n => n
    | .context n => n
    | _ => 0
  let (xs, ys) := numbered o a b
  let changes := Difference.changes horizon xs ys
  let kept := if o.has "B" then changes.filter (!isAboutBlanks a b ·) else changes
  if let .beside width := style then besideText o width a b kept
  else if kept.isEmpty then []
  else
    let labels := o.values "label"
    let time := match style with
      | .context _ => "Thu Jan  1 00:00:00 1970"
      | _ => "1970-01-01 00:00:00.000000000 +0000"
    let head (sign : String) (i : Nat) (s : Side) : List Char :=
      (match labels[i]? with
        | some label => s!"{sign} {label}\n"
        | none => s!"{sign} {s.name}\t{time}\n").toList
    match style with
    | .normal => kept.flatMap (normalText a b)
    | .script => kept.reverse.flatMap (scriptText b)
    | .beside _ => []
    | .unified n =>
      head "---" 0 a ++ head "+++" 1 b ++ (hunks n kept).flatMap (unifiedText n a b)
    | .context n =>
      head "***" 0 a ++ head "---" 1 b ++ (hunks n kept).flatMap (contextText n a b)

inductive Fault where
  | badContext (text : String)
  | badWidth (text : String)
  | twoStyles
  deriving DecidableEq, Repr

def Fault.message : Fault → String
  | .badContext text => s!"invalid context length '{text}'"
  | .badWidth text => s!"invalid width '{text}'"
  | .twoStyles => "conflicting output style options"

/-- The style that the options ask for. The widest context that they ask for counts; one that is
given in digits alone only counts against others if it is wider or they do not tell a number. -/
def styleOf (o : Options) : Except Fault Style := do
  let asked (keys : List String) : Bool := keys.any o.has
  let unified := asked ["u", "U", "unified"]
  let context := asked ["c", "C", "context"]
  let script := asked ["e"]
  let beside := asked ["y"]
  if 1 < ([unified, context, script, beside, o.has "normal"].filter id).length then
    throw .twoStyles
  let given := o.given.filter fun x => ["U", "C", "unified", "context"].contains x.1
  let told ← given.mapM fun (_, text) =>
    match text with
    | none => .ok 3
    | some text =>
      match natural? text with
      | some n => .ok n
      | none => .error (Fault.badContext text)
  let widest := (told ++ if asked ["u", "c"] then [3] else []).foldl max 0
  let digits := natural? (String.join (o.given.filterMap fun (k, _) =>
    if k.all Char.isDigit then some k else none))
  let lines := match digits with
    | some n => if widest < n || given.isEmpty then n else widest
    | none => widest
  if unified then return .unified lines
  else if context then return .context lines
  else if script then return .script
  else if beside then
    match o.value? "W" with
    | none => return .beside 130
    | some text =>
      match natural? text with
      | some 0 => throw (.badWidth text)
      | some n => return .beside n
      | none => throw (.badWidth text)
  else return .normal

/-- What is at one side: a text, a directory, nothing, or something that cannot be read. -/
inductive Found where
  | text (content : List Char)
  | directory (p : FileTree.Place)
  | failed (e : OsError)

def find (path : String) : Act Found := do
  if path = "-" then
    match ← contentOf "-" with
    | .ok text => return .text text
    | .error e => return .failed e
  match ← entryAt path with
  | some .directory =>
    match ← placeOf path with
    | .ok p => return .directory p
    | .error e => return .failed e
  | _ =>
    match ← contentOf path with
    | .ok text => return .text text
    | .error e => return .failed e

/-- Compare two texts. `title` stands before their differences. -/
def compareTexts (o : Options) (style : Style) (title a b : String) (x y : List Char) :
    Act Nat := do
  let isBinary (cs : List Char) : Bool := cs.contains (Char.ofNat 0) && !o.has "a"
  let same : Act Nat := do
    if o.has "s" then Act.print s!"Files {a} and {b} are identical\n"
    return 0
  let beside : Bool := match style with
    | .beside _ => !o.has "suppress-common-lines"
    | _ => false
  if x = y then
    if beside && !o.has "q" then
      emit (differenceText o style (Side.ofText a x) (Side.ofText b y))
    same
  else if isBinary x || isBinary y then
    if o.has "q" then
      Act.print s!"Files {a} and {b} differ\n"
      return 1
    else
      Act.print s!"Binary files {a} and {b} differ\n"
      return 2
  else
    let text := differenceText o style (Side.ofText a x) (Side.ofText b y)
    if text.isEmpty then same
    else
      if o.has "q" then Act.print s!"Files {a} and {b} differ\n"
      else
        Act.print title
        emit text
      return 1

/-- Compare all files of two directories, one after another. -/
def compareDirectories (o : Options) (style : Style) (switches : String) :
    Nat → String → String → FileTree.Place → FileTree.Place → Act Nat
  | 0, _, _, _, _ => return 2
  | fuel + 1, a, b, p, q => do
    let t := (← Act.world).files
    let isLeftOut (name : String) : Bool := (o.values "x").any fun pattern =>
      matchesPattern (glyphs pattern) name.toList
    let names := ((t.names p ++ t.names q).eraseDups.mergeSort fun m n => decide (m ≤ n)).filter
      (!isLeftOut ·)
    let mut status := 0
    for name in names do
      let behind (place : FileTree.Place) : FileTree.Place := (t.behind? place).getD place
      let (p, q) := (behind (p ++ [name]), behind (q ++ [name]))
      let at' (dir : String) : String := if dir.endsWith "/" then dir ++ name else s!"{dir}/{name}"
      let (m, n) := (at' a, at' b)
      let title := s!"diff{switches} {m} {n}\n"
      let text (bytes : ByteArray) : List Char := Octets.ofBytes bytes
      let s ← match t.entry? p, t.entry? q with
        | some (.file u ..), some (.file v ..) => compareTexts o style title m n (text u) (text v)
        | some .directory, some .directory =>
          if o.has "r" then
            compareDirectories o style switches fuel m n p q
          else do
            Act.print s!"Common subdirectories: {m} and {n}\n"
            pure 0
        | some .directory, some (.file ..) => do
          Act.print s!"File {m} is a directory while file {n} is a regular file\n"
          pure 1
        | some (.file ..), some .directory => do
          Act.print s!"File {m} is a regular file while file {n} is a directory\n"
          pure 1
        | some (.file u ..), none =>
          if o.has "N" then compareTexts o style title m n (text u) []
          else do
            Act.print s!"Only in {a}: {name}\n"
            pure 1
        | none, some (.file v ..) =>
          if o.has "N" then compareTexts o style title m n [] (text v)
          else do
            Act.print s!"Only in {b}: {name}\n"
            pure 1
        | some .directory, none =>
          if o.has "N" && o.has "r" then
            compareDirectories o style switches fuel m n p q
          else do
            Act.print s!"Only in {a}: {name}\n"
            pure 1
        | none, some .directory =>
          if o.has "N" && o.has "r" then
            compareDirectories o style switches fuel m n p q
          else do
            Act.print s!"Only in {b}: {name}\n"
            pure 1
        | _, _ => pure 0
      status := max status s
    return status

/-- Compare two operands. -/
def compareOperands (o : Options) (style : Style) (switches a b : String) : Act Nat := do
  let within (directory file : String) : String :=
    let name := baseName file
    if directory.endsWith "/" then directory ++ name else s!"{directory}/{name}"
  let x ← find a
  let y ← if a = "-" && b = "-" then pure x else find b
  let absent (e : OsError) : Bool := o.has "N" && e = .notFound
  match x, y with
  | .directory p, .directory q => compareDirectories o style switches 64 a b p q
  | .directory _, .text text => besides (within a b) b text true
  | .text text, .directory _ => besides (within b a) a text false
  | .text x, .text y => compareTexts o style "" a b x y
  | .failed e, .text y =>
    if absent e then compareTexts o style "" a b [] y else trouble [(a, e)]
  | .text x, .failed e =>
    if absent e then compareTexts o style "" a b x [] else trouble [(b, e)]
  | .failed e, .failed f => trouble [(a, e), (b, f)]
  | .failed e, _ => trouble [(a, e)]
  | _, .failed e => trouble [(b, e)]
where
  trouble (xs : List (String × OsError)) : Act Nat := do
    for (name, e) in xs do warnAs "diff" s!"{name}: {e.words}"
    return 2
  besides (path other : String) (text : List Char) (first : Bool) : Act Nat := do
    match ← contentOf path with
    | .error e => trouble [(path, e)]
    | .ok found =>
      if first then compareTexts o style "" path other found text
      else compareTexts o style "" other path text found

end Compare

def diff : Tool := fun args =>
  withComparing "diff"
    ("a|text b|ignore-space-change B|ignore-blank-lines c C: context? d|minimal e|ed " ++
      "E|ignore-tab-expansion F|show-function-line: H i|ignore-case I|ignore-matching-lines: " ++
      "l N|new-file p|show-c-function q|brief r|recursive s|report-identical-files t T u " ++
      "U: unified? w|ignore-all-space x|exclude: Z|ignore-trailing-space normal label|L: color? " ++
      "y|side-by-side W|width: left-column suppress-common-lines " ++
      "strip-trailing-cr no-dereference speed-large-files 0 1 2 3 4 5 6 7 8 9")
    args fun o => do
      match o.operands with
      | [] => troubleAs "diff" "missing operand after 'diff'"
      | [a] => troubleAs "diff" s!"missing operand after '{a}'"
      | _ :: _ :: extra :: _ => troubleAs "diff" s!"extra operand '{extra}'"
      | [a, b] =>
        match Compare.styleOf o with
        | .error fault => troubleAs "diff" fault.message
        | .ok style =>
          let switches := args.filter fun arg => !o.operands.contains arg && arg ≠ "--"
          Compare.compareOperands o style (String.join (switches.map (" " ++ ·))) a b

end PatchTrial.Shell.Tools
