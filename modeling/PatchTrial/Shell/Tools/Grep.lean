import PatchTrial.Regex.Reader
import PatchTrial.Shell.Pattern
import PatchTrial.Shell.Tools.Files

/-!
Searching files for lines that match.

A line is selected if one of the patterns matches in it, or if none does where the search is turned
around. Of selected lines the text is shown, with lines around it if that is asked for, or only
their number, or only the names of the files that have any.
-/
namespace PatchTrial.Shell.Tools

open Quoting (always)

namespace Grep

/-! ### Selecting -/

/-- What is looked for. -/
structure Search where
  patterns : List Regex
  setting : Regex.Setting
  /-- Whether a match must be the whole line. -/
  whole : Bool
  /-- Whether a match must stand between characters that belong to no word. -/
  word : Bool
  /-- Whether the lines without a match are looked for. -/
  inverse : Bool

namespace Search

variable (q : Search)

/-- Where matches end that start at a position. -/
def endsAt (s : Regex.Subject) (i : Nat) : List Nat :=
  let all := q.patterns.flatMap fun r =>
    if r.refersBack then (Regex.ways s r ⟨i, []⟩).map (·.position) else Regex.ends s r [i]
  if q.whole then (if i = 0 then all.filter (· = s.text.size) else [])
  else if q.word then all.filter fun j => !s.wordBefore i && !s.wordAfter j
  else all

/-- The first match at or after a position, which is so far from the end of the line. -/
def findWithin (s : Regex.Subject) : Nat → Nat → Option (Nat × Nat)
  | 0, _ => none
  | fuel + 1, i =>
    match Regex.furthest (q.endsAt s i) with
    | some j => some (i, j)
    | none => findWithin s fuel (i + 1)

/-- All matches from a position on that are not empty. -/
def matchesFrom (s : Regex.Subject) : Nat → Nat → List (Nat × Nat)
  | 0, _ => []
  | fuel + 1, i =>
    match q.findWithin s (s.text.size + 1 - i) i with
    | none => []
    | some (a, b) => if a = b then matchesFrom s fuel (a + 1) else (a, b) :: matchesFrom s fuel b

def subject (line : List Char) : Regex.Subject := .ofList q.setting line

def selects (line : List Char) : Bool :=
  (q.findWithin (q.subject line) (line.length + 1) 0).isSome != q.inverse

/-- The parts of a line, and whether each of them is a match. -/
def parts (line : List Char) : List (Bool × List Char) :=
  let s := q.subject line
  let (out, last) := (q.matchesFrom s (line.length + 2) 0).foldl
    (fun (out, last) (a, b) => (out ++ [(false, s.slice last a), (true, s.slice a b)], b)) ([], 0)
  (out ++ [(false, s.slice last line.length)]).filter fun p => !p.2.isEmpty

end Search

/-! ### Showing -/

/-- What is shown of a file. -/
inductive Report where
  | lines
  | count
  /-- Only its name, if lines are selected, or if none is. -/
  | name (selected : Bool)
  | nothing
  deriving DecidableEq, Repr

/-- How lines are shown. -/
structure Layout where
  report : Report
  before : Option Nat
  after : Option Nat
  /-- The most lines that are selected. -/
  most : Option Nat
  onlyMatches : Bool
  number : Bool
  offset : Bool
  named : Bool
  /-- Whether a zero octet ends names. -/
  zeroNames : Bool
  tab : Bool
  color : Bool
  separator : Option String
  terminator : Char

/-- A line with its number and with the number of octets before it. -/
structure Line where
  number : Nat
  offset : Nat
  text : List Char

/-- The lines of a text. -/
def linesFrom (terminator : Char) (text : List Char) : List Line :=
  ((recordsOf terminator text).1.foldl (fun (out, n, offset) line =>
    (⟨n, offset, line⟩ :: out, n + 1, offset + line.length + 1)) ([], 1, 0)).1.reverse

namespace Layout

variable (l : Layout)

def painted (code : String) (text : List Char) : List Char :=
  if l.color then
    let escape := String.singleton (Char.ofNat 27)
    (escape ++ "[" ++ code ++ "m" ++ escape ++ "[K").toList ++ text ++
      (escape ++ "[m" ++ escape ++ "[K").toList
  else text

def sign (c : Char) : List Char := l.painted "36" [c]

def name (name : String) : List Char := l.painted "35" name.toList

/-- What stands before the text of a line. -/
def lead (file : String) (sign : Char) (number offset : Nat) : List Char :=
  let padded (n : Nat) : List Char :=
    (right (if l.tab && !l.named then 2 else 0) (toString n)).toList
  (if l.named then l.name file ++ (if l.zeroNames then [Char.ofNat 0] else l.sign sign) else []) ++
    (if l.number then l.painted "32" (padded number) ++ l.sign sign else []) ++
    (if l.offset then l.painted "32" (padded offset) ++ l.sign sign else []) ++
    (if l.tab && (l.named || l.number || l.offset) then ['\t'] else [])

/-- A line that is selected, or one near it. -/
def shown (q : Search) (file : String) (selected : Bool) (line : Line) : List Char :=
  let sign := if selected then ':' else '-'
  let matching := selected != q.inverse
  if l.onlyMatches then
    if !matching then []
    else
      let s := q.subject line.text
      (q.matchesFrom s (line.text.length + 2) 0).flatMap fun (a, b) =>
        l.lead file sign line.number (line.offset + a) ++ l.painted "01;31" (s.slice a b) ++
          [l.terminator]
  else
    let text := if l.color && matching then
        (q.parts line.text).flatMap fun (isMatch, part) =>
          if isMatch then l.painted "01;31" part else part
      else line.text
    l.lead file sign line.number line.offset ++ text ++ [l.terminator]

end Layout

/-- How far the lines of a file have been looked at. -/
structure Progress where
  /-- Pieces of what is shown, the latest first. -/
  out : List (List Char) := []
  /-- Whether anything was shown before, also of other files. -/
  used : Bool
  /-- The number of the last line that was shown. -/
  last : Nat := 0
  /-- Lines that have not been shown, the latest first. -/
  earlier : List Line := []
  /-- How many lines are still to be shown behind the last one selected. -/
  pending : Nat := 0
  count : Nat := 0
  /-- Where the last selected line ends. -/
  stop : Nat := 0

/-- Look at one more line. -/
def Progress.next (l : Layout) (q : Search) (file : String) (p : Progress) (line : Line) :
    Progress :=
  let full := l.most.any (· ≤ p.count)
  if !full && q.selects line.text then
    let around := p.earlier.take (l.before.getD 0)
    let first := line.number - around.length
    let hasGap := p.used && first ≠ p.last + 1 && (l.before.isSome || l.after.isSome)
    let gap := match l.separator with
      | some text => if hasGap then l.painted "36" text.toList ++ ['\n'] else []
      | none => []
    let out := around.foldr (fun x out => l.shown q file false x :: out) (gap :: p.out)
    { p with
      out := l.shown q file true line :: out
      used := true
      last := line.number
      earlier := []
      pending := l.after.getD 0
      count := p.count + 1
      stop := line.offset + line.text.length + 1 }
  else if p.pending ≠ 0 then
    { p with
      out := l.shown q file false line :: p.out
      last := line.number
      pending := p.pending - 1 }
  else { p with earlier := (line :: p.earlier).take (l.before.getD 0) }

/-! ### Patterns -/

/-- How patterns are written. -/
inductive Notation where
  | basic
  | extended
  | fixed
  | full
  deriving DecidableEq, Repr

/-- Read one pattern. Warnings come with it. -/
def Notation.read (n : Notation) (cs : List Char) : Except Regex.Fault (Regex × List Char) :=
  match n with
  | .basic => Regex.readAll .basic cs
  | .extended => Regex.readAll .extendedSearch cs
  | .fixed => .ok (Regex.literal cs, [])
  | .full => Regex.readAll .full cs

/-- A pattern with the file and the line that it comes from, if it comes from a file. -/
structure Source where
  text : List Char
  origin : Option (String × Nat)

def sourcesOfText (text : List Char) : List Source :=
  (Text.pieces (· == '\n') text).map fun line => ⟨line, none⟩

def sourcesOfFile (path : String) (text : List Char) : List Source :=
  (linesOf text).1.mapIdx fun i line => ⟨line, some (path, i + 1)⟩

/-! ### Files -/

/-- Options that choose files by their names, the latest first. -/
structure Filter where
  /-- Whether the files that match are the ones that are searched. -/
  includes : Bool
  pattern : String

/-- Whether a pattern matches a name, or what stands behind a slash in it. -/
def matchesName (pattern name : String) (anchored : Bool) : Bool :=
  let tails := (List.range (Path.parts name).length).map fun n =>
    "/".intercalate ((Path.parts name).drop n)
  (if anchored then [name] else tails).any fun t => matchesPattern (glyphs pattern) t.toList

/-- Whether a name is left out. The last option that matches decides. -/
def isLeftOut (filters : List Filter) (anchored : Bool) (name : String) : Bool :=
  match filters.find? fun f => matchesName f.pattern name anchored with
  | some f => !f.includes
  | none => (filters.getLast?.map (·.includes)).getD false

/-- A file that is searched: its path, and its content. -/
abbrev Input := String × List Char

/-- All files below a directory, but for those that are left out. -/
def inputsBelow (t : FileTree) (files directories : List Filter) (base : Option String)
    (p : FileTree.Place) : List Input :=
  let found := t.entries.filterMap fun (q, e) =>
    match e with
    | .file bytes .. =>
      let names := q.drop p.length
      if !p.isPrefixOf q || names.dropLast.any (isLeftOut directories true) ||
          isLeftOut files true (names.getLastD "") then none
      else some (names, Octets.ofBytes bytes)
    | _ => none
  (found.mergeSort fun a b => FileTree.inOrder a.1 b.1).map fun (names, text) =>
    let path := "/".intercalate names
    (match base with
    | some base => if base.endsWith "/" then base ++ path else base ++ "/" ++ path
    | none => path, text)

/-- Why a search cannot begin. -/
inductive Fault where
  | badContext (text : String)
  | badCount
  | badBinary
  | badColor
  | badDirectories (text : String)
  | conflict
  | noPattern
  | unreadable (path : String) (e : OsError)
  | pattern (source : Source) (fault : Regex.Fault)

def forms : String :=
  "E|extended-regexp F|fixed-strings G|basic-regexp P|perl-regexp e|regexp: f|file: " ++
    "i|ignore-case|y no-ignore-case w|word-regexp x|line-regexp z|null-data s|no-messages " ++
    "v|invert-match m|max-count: b|byte-offset line-buffered n|line-number H|with-filename " ++
    "h|no-filename label: o|only-matching q|quiet|silent binary-files: a|text I " ++
    "d|directories: D|devices: r|recursive R|dereference-recursive include: exclude: " ++
    "exclude-from: exclude-dir: L|files-without-match l|files-with-matches c|count " ++
    "T|initial-tab Z|null B|before-context: A|after-context: C|context: group-separator: " ++
    "no-group-separator color|colour? U|binary u V 0 1 2 3 4 5 6 7 8 9"

/-- The sources of the patterns, and the operands that are files. -/
def sources (o : Options) : Act (Except Fault (List Source × List String)) := do
  let given := o.given.filter fun (key, _) => key = "e" || key = "f"
  if given.isEmpty then
    match o.operands with
    | [] => return .error .noPattern
    | text :: paths => return .ok (sourcesOfText text.toList, paths)
  let mut found : List Source := []
  for (key, value) in given do
    let value := value.getD ""
    if key = "e" then found := found ++ sourcesOfText value.toList
    else
      match ← contentOf value with
      | .error e => return .error (.unreadable value e)
      | .ok text => found := found ++ sourcesOfFile value text
  return .ok (found, o.operands)

/-- Read the patterns. The warnings come with them. -/
def readPatterns (n : Notation) (sources : List Source) :
    Except Fault (List Regex × List Char) :=
  sources.foldlM (fun (rs, warnings) source =>
    match n.read source.text with
    | .ok (r, more) => .ok (rs ++ [r], warnings ++ more)
    | .error fault => .error (.pattern source fault)) ([], [])

/-- The number that an option stands for; the digits given as options count for the context. -/
def contextOf (o : Options) (key : String) : Except Fault (Option Nat) :=
  let digits := o.given.filterMap fun (k, _) => if k.all Char.isDigit then some k else none
  let plain := if digits.isEmpty then none else natural? (String.join digits)
  match (o.value? key).or (o.value? "C") with
  | none => .ok plain
  | some text =>
    match natural? text with
    | some n => .ok (some n)
    | none => .error (.badContext text)

def notationOf (o : Options) : Except Fault Notation :=
  if o.has "P" && ["E", "F", "G"].any o.has then .error .conflict
  else match o.last? ["E", "F", "G", "P"] with
    | some "E" => .ok .extended
    | some "F" => .ok .fixed
    | some "P" => .ok .full
    | _ => .ok .basic

def layoutOf (o : Options) : Except Fault Layout := do
  let before ← contextOf o "B"
  let after ← contextOf o "A"
  let most : Option Nat ← match o.value? "m" with
    | none => pure none
    | some text =>
      match integer? text with
      | some n => pure (if n < 0 then none else some n.toNat)
      | none => throw .badCount
  if (o.value? "binary-files").any fun v => !(["binary", "text", "without-match"].contains v) then
    throw .badBinary
  if (o.value? "color").any fun v =>
      !(["", "always", "yes", "force", "never", "no", "none", "auto", "tty",
          "if-tty"].contains v) then
    throw .badColor
  if let some v := o.value? "d" then
    if !(["read", "recurse", "skip"].contains v) then throw (.badDirectories v)
  let report : Report :=
    if o.has "q" then .nothing
    else match o.last? ["l", "L"] with
      | some key => .name (key = "l")
      | none => if o.has "c" then .count else .lines
  return {
    report, before, after, most
    onlyMatches := o.has "o"
    number := o.has "n"
    offset := o.has "b"
    named := false
    zeroNames := o.has "Z"
    tab := o.has "T"
    color := (o.value? "color").any ["always", "yes", "force"].contains
    separator := match o.last? ["group-separator", "no-group-separator"] with
      | some "group-separator" => o.value? "group-separator"
      | some _ => none
      | none => some "--"
    terminator := if o.has "z" then Char.ofNat 0 else '\n' }

/-- Tell why a search cannot begin. -/
def Fault.tell (fault : Fault) : Act Nat := do
  let usage : Act Unit := do
    Act.warn "Usage: grep [OPTION]... PATTERNS [FILE]..."
    Act.warn "Try 'grep --help' for more information."
  match fault with
  | .badContext text => warnAs "grep" s!"{text}: invalid context length argument"
  | .badCount => warnAs "grep" "invalid max count"
  | .badBinary => do
    warnAs "grep" "unknown binary-files type"
    usage
  | .badColor => usage
  | .badDirectories text => do
    warnAs "grep" s!"invalid argument {Quoting.text text} for '--directories'"
    Act.warn "Valid arguments are:\n  - 'read'\n  - 'recurse'\n  - 'skip'"
    usage
    return 1
  | .conflict => warnAs "grep" "conflicting matchers specified"
  | .noPattern => usage
  | .unreadable path e => warnAs "grep" s!"{path}: {e.words}"
  | .pattern source fault =>
    match source.origin with
    | some (path, line) => warnAs "grep" s!"{path}:{line}: {fault.message}"
    | none => warnAs "grep" fault.message
  return 2

/-- What came of a search. -/
structure Outcome where
  /-- Whether anything was shown. -/
  used : Bool := false
  selected : Bool := false
  failed : Bool := false

/-- Search one text. The answer tells where its last selected line ends, if the search was ended
there. -/
def searchText (o : Options) (l : Layout) (q : Search) (name : String) (text : List Char)
    (outcome : Outcome) : Act (Outcome × Option Nat) := do
  let isBinary : Bool := l.terminator ≠ Char.ofNat 0 && text.contains (Char.ofNat 0) &&
    !o.has "a" && o.value? "binary-files" ≠ some "text"
  if isBinary && (o.has "I" || o.value? "binary-files" = some "without-match") then
    return (outcome, none)
  let quick : Bool := match l.report with
    | .nothing => true
    | .name _ => true
    | .lines => isBinary
    | .count => false
  let l := if quick then { l with most := some ((l.most.getD 1).min 1) } else l
  let text := if isBinary then text.map fun c => if c = Char.ofNat 0 then '\n' else c else text
  let p := (linesFrom l.terminator text).foldl (Progress.next l q name)
    { used := outcome.used }
  let selected := p.count ≠ 0
  match l.report with
  | .nothing => pure ()
  | .name wanted =>
    if selected = wanted then
      emit (l.name name ++ [if l.zeroNames then Char.ofNat 0 else '\n'])
  | .count =>
    let lead := if l.named then
        l.name name ++ (if l.zeroNames then [Char.ofNat 0] else l.sign ':') else []
    emit (lead ++ (toString p.count ++ "\n").toList)
  | .lines =>
    if isBinary then
      if selected then warnAs "grep" s!"{name}: binary file matches"
    else emit p.out.reverse.flatten
  let outcome := { outcome with
    used := p.used
    selected := outcome.selected || selected }
  return (outcome, if l.most.any (· ≤ p.count) && !quick then some p.stop else none)

/-- Search the standard input. What is behind the last line that was asked for is left there. -/
def searchInput (o : Options) (l : Layout) (q : Search) (outcome : Outcome) : Act Outcome := do
  let name := (o.value? "label").getD "(standard input)"
  let complain (e : OsError) : Act Outcome := do
    if !o.has "s" then warnAs "grep" s!"{name}: {e.words}"
    return { outcome with failed := true }
  match ← Act.channel? 0 with
  | none => complain .badDescriptor
  | some .directory => complain .isDirectory
  | some _ => do
    let text ← Act.peek 0
    let (outcome, stop) ← searchText o l q name text outcome
    Act.consume 0 (stop.getD text.length) 32768
    return outcome

/-- Search one operand. -/
def searchOperand (o : Options) (l : Layout) (q : Search) (files directories : List Filter)
    (several : Bool) (path : String) (outcome : Outcome) : Act Outcome := do
  let recurses := o.has "r" || o.has "R" || o.value? "d" = some "recurse"
  let named (directory : Bool) : Layout :=
    { l with named := match o.last? ["H", "h"] with
      | some key => key = "H"
      | none => several || directory }
  if path = "-" then searchInput o (named false) q outcome
  else
    match ← entryAt path with
    | some .directory =>
      if recurses then
        if isLeftOut directories false path then return outcome
        match ← placeOf path with
        | .error _ => return outcome
        | .ok p => do
          let mut outcome := outcome
          for (name, text) in inputsBelow (← Act.world).files files directories (some path) p do
            if !(l.report = .nothing && outcome.selected) then
              outcome := (← searchText o (named true) q name text outcome).1
          return outcome
      else if o.value? "d" = some "skip" then return outcome
      else
        if !o.has "s" then warnAs "grep" s!"{path}: Is a directory"
        return { outcome with failed := true }
    | _ =>
      if isLeftOut files false path then return outcome
      match ← contentOf path with
      | .error e =>
        if !o.has "s" then warnAs "grep" s!"{path}: {e.words}"
        return { outcome with failed := true }
      | .ok text =>
        let output := (← Act.process).channels.lookup 1
        let isOutput : Bool := match output, (← placeOf path).toOption with
          | some (.file p), some q => p == q
          | _, _ => false
        if isOutput && l.report = .lines && l.most.all (1 < ·) then
          if !o.has "s" then warnAs "grep" s!"{path}: input file is also the output"
          return { outcome with failed := true }
        return (← searchText o (named false) q path text outcome).1

/-- Tell about signs in patterns that have nothing to repeat. -/
def tellLoose (signs : List Char) : Act Unit :=
  signs.forM fun c => do
    let sign := if c = '\x7b' then "\x7b...\x7d" else String.singleton c
    warnAs "grep" s!"warning: {sign} at start of expression"

/-- The filters that options set. -/
def filtersOf (o : Options) : Act (Except Fault (List Filter)) := do
  let mut found : List Filter := []
  for (key, value) in o.given do
    let value := value.getD ""
    if key = "include" || key = "exclude" then found := ⟨key = "include", value⟩ :: found
    else if key = "exclude-from" then
      match ← contentOf value with
      | .error e => return .error (.unreadable value e)
      | .ok text =>
        for line in (linesOf text).1 do
          if !line.isEmpty then found := ⟨false, String.ofList line⟩ :: found
  return .ok found

/-- Search with options that have been read. -/
def search (o : Options) : Act Nat := do
  match notationOf o, layoutOf o, ← filtersOf o with
  | .error fault, _, _ => fault.tell
  | _, .error fault, _ => fault.tell
  | _, _, .error fault => fault.tell
  | .ok how, .ok l, .ok filters => do
    match ← sources o with
    | .error fault => fault.tell
    | .ok (texts, paths) =>
      if l.most = some 0 then return 1
      match readPatterns how texts with
      | .error fault => fault.tell
      | .ok (patterns, loose) => do
        tellLoose loose
        let q : Search := {
          patterns
          setting := {
            ignoreCase := o.last? ["i", "no-ignore-case"] = some "i"
            byLine := o.has "z" }
          whole := o.has "x"
          word := o.has "w"
          inverse := o.has "v" }
        let recurses := o.has "r" || o.has "R" || o.value? "d" = some "recurse"
        let directories := (o.values "exclude-dir").reverse.map fun pattern =>
          (⟨false, String.ofList (pattern.toList.reverse.dropWhile (· == '/')).reverse⟩ : Filter)
        let mut outcome : Outcome := {}
        if paths.isEmpty && recurses then
          let t := (← Act.world).files
          let l := { l with named := o.last? ["H", "h"] ≠ some "h" }
          for (name, text) in inputsBelow t filters directories none (← Act.process).here do
            if !(l.report = .nothing && outcome.selected) then
              outcome := (← searchText o l q name text outcome).1
        else
          for path in if paths.isEmpty then ["-"] else paths do
            if !(l.report = .nothing && outcome.selected) then
              outcome ← searchOperand o l q filters directories (1 < paths.length) path outcome
        return if outcome.failed && !(o.has "q" && outcome.selected) then 2
          else if outcome.selected then 0 else 1

end Grep

/-- Search for patterns in the basic notation, unless another one is asked for. -/
def grep : Tool := fun args => do
  match Options.read (optionForms (Grep.forms ++ " help version")) false {} args with
  | .error fault => do
    warnAs "grep" fault.message
    Grep.Fault.noPattern.tell
  | .ok o =>
    if o.has "help" then
      Act.print "Usage: grep [OPTION]... PATTERNS [FILE]...\n"
      return 0
    else if o.has "V" || o.has "version" then
      Act.print "grep (GNU grep) 3.8\n"
      return 0
    else Grep.search o

/-- Search for patterns in the extended notation. -/
def egrep : Tool := fun args => grep ("-E" :: args)

/-- Search for texts. -/
def fgrep : Tool := fun args => grep ("-F" :: args)

end PatchTrial.Shell.Tools
