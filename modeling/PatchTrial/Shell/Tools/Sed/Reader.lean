import PatchTrial.Regex.Reader
import PatchTrial.Shell.Tools.Sed.Script

/-!
Reading scripts for editing.

A script comes in pieces, which are arguments or files. A block may go on in the next piece, and so
may a text that ends with a backslash. A fault is told with its place: how many characters of the
argument have been read, or which line of the file.
-/
namespace PatchTrial.Shell.Tools.Sed

inductive Fault where
  | manyBangs
  | unexpectedComma
  | relativeFirst
  | unmatchedOpen
  | unexpectedClose
  | extraCharacters
  | textWithoutBackslash
  | closeWithAddress
  | labelWithAddress
  | commentWithAddress
  | missingCommand
  | oneAddress
  | openAddress
  | openSubstitution
  | openExchange
  | unknownOption
  | manyPrints
  | manyGlobals
  | manyNumbers
  | zeroNumber
  | unequalLengths
  | newerVersion
  | lineZero
  | unknownCommand (c : Char)
  | noLabel
  | noFileName
  | modifiersOfNothing
  | noPrevious
  | badReference (n : Nat)
  | notAllowed
  | regex (f : Regex.Fault)
  deriving DecidableEq, Repr

def Fault.message : Fault → String
  | .manyBangs => "multiple \x60!'s"
  | .unexpectedComma => "unexpected \x60,'"
  | .relativeFirst => "invalid usage of +N or ~N as first address"
  | .unmatchedOpen => "unmatched \x60\x7b'"
  | .unexpectedClose => "unexpected \x60\x7d'"
  | .extraCharacters => "extra characters after command"
  | .textWithoutBackslash => "expected \\ after \x60a', \x60c' or \x60i'"
  | .closeWithAddress => "\x60\x7d' doesn't want any addresses"
  | .labelWithAddress => ": doesn't want any addresses"
  | .commentWithAddress => "comments don't accept any addresses"
  | .missingCommand => "missing command"
  | .oneAddress => "command only uses one address"
  | .openAddress => "unterminated address regex"
  | .openSubstitution => "unterminated \x60s' command"
  | .openExchange => "unterminated \x60y' command"
  | .unknownOption => "unknown option to \x60s'"
  | .manyPrints => "multiple \x60p' options to \x60s' command"
  | .manyGlobals => "multiple \x60g' options to \x60s' command"
  | .manyNumbers => "multiple number options to \x60s' command"
  | .zeroNumber => "number option to \x60s' command may not be zero"
  | .unequalLengths => "strings for \x60y' command are different lengths"
  | .newerVersion => "expected newer version of sed"
  | .lineZero => "invalid usage of line address 0"
  | .unknownCommand c => s!"unknown command: \x60{c}'"
  | .noLabel => "\":\" lacks a label"
  | .noFileName => "missing filename in r/R/w/W commands"
  | .modifiersOfNothing => "cannot specify modifiers on empty regexp"
  | .noPrevious => "no previous regular expression"
  | .badReference n => s!"invalid reference \\{n} on \x60s' command's RHS"
  | .notAllowed => "e/r/w commands disabled in sandbox mode"
  | .regex f => f.message

/-- Why a script cannot be used. -/
inductive Complaint where
  | at (p : Place) (f : Fault)
  /-- A fault that is told without its place. -/
  | bare (text : String)
  deriving DecidableEq, Repr

def Complaint.message : Complaint → String
  | .at p f => p.text ++ ": " ++ f.message
  | .bare text => text

def Complaint.status : Complaint → Nat
  | .at .. => 1
  | .bare _ => 4

/-! ### Characters written by their numbers -/

/-- What a text is for. -/
inductive Use where
  | regex
  | replacement
  | text
  deriving DecidableEq, Repr

/-- The value of a digit. -/
def digitValue (c : Char) : Nat :=
  if c.isDigit then c.toNat - '0'.toNat else (c.toLower.toNat - 'a'.toNat) + 10

/-- A number of at most so many digits. -/
def numbered? (base most : Nat) (cs : List Char) : Option (Char × List Char) :=
  let isDigit (c : Char) : Bool :=
    (c.isDigit || ('a' ≤ c.toLower && c.toLower ≤ 'f')) && digitValue c < base
  let ds := (cs.take most).takeWhile isDigit
  if ds.isEmpty then none
  else
    let n := ds.foldl (fun n d => n * base + digitValue d) 0
    some (Char.ofNat (n % 256), cs.drop ds.length)

/-- The character that is written behind a backslash by a letter or by its number. -/
def written? (use : Use) (cs : List Char) : Option (Char × List Char) :=
  match cs with
  | 'a' :: rest => some (Char.ofNat 7, rest)
  | 'f' :: rest => some (Char.ofNat 12, rest)
  | 'n' :: rest => if use = .replacement then none else some ('\n', rest)
  | 'r' :: rest => some ('\r', rest)
  | 't' :: rest => some ('\t', rest)
  | 'v' :: rest => some (Char.ofNat 11, rest)
  | 'c' :: c :: rest => some (Char.ofNat (c.toUpper.toNat ^^^ 64), rest)
  | 'd' :: rest => numbered? 10 3 rest
  | 'o' :: rest => numbered? 8 3 rest
  | 'x' :: rest => numbered? 16 2 rest
  | _ => none

/-- Put characters in the place of their numbers. What else stands behind a backslash keeps it, but
in a text. -/
def plain (use : Use) : Nat → List Char → List Char
  | 0, cs => cs
  | _ + 1, [] => []
  | fuel + 1, '\\' :: cs =>
    match written? use cs, cs with
    | some (c, rest), _ =>
      let special := c = '\\' || c = '&'
      if special && use = .replacement then '\\' :: c :: plain use fuel rest
      else c :: plain use fuel rest
    | none, c :: rest => if use = .text then c :: plain use fuel rest
      else '\\' :: c :: plain use fuel rest
    | none, [] => ['\\']
  | fuel + 1, c :: cs => c :: plain use fuel cs

/-! ### Pieces -/

/-- A text that goes on in the next piece: the number of its command, and what there is of it. -/
structure Open where
  command : Nat
  text : List Char

/-- What has been read, and what is left of a piece. -/
structure Reading where
  origin : Origin := .argument 0
  /-- The characters that have been read, the latest first. -/
  taken : List Char := []
  rest : List Char := []
  extended : Bool := false
  /-- Whether no command may run programs or use files. -/
  confined : Bool := false
  commands : Array Command := #[]
  blocks : List (Nat × Place) := []
  labels : List (String × Nat) := []
  unfinished : Option Open := none
  /-- Whether this is the first piece. -/
  isFirst : Bool := true
  quiet : Bool := false

def Reading.place (r : Reading) : Place :=
  ⟨r.origin, match r.origin with
    | .argument _ => r.taken.length
    | .file _ => 1 + r.taken.count '\n'⟩

abbrev Read := StateT Reading (Except Complaint)

def refuse {α : Type} (f : Fault) : Read α := do throw (.at (← get).place f)

/-- Take the next character. -/
def nextChar : Read (Option Char) := do
  let r ← get
  match r.rest with
  | [] => return none
  | c :: rest =>
    set { r with taken := c :: r.taken, rest := rest }
    return some c

/-- Give the last character back. -/
def giveBack (c : Option Char) : Read Unit :=
  modify fun r => match c, r.taken with
    | some c, _ :: taken => { r with taken := taken, rest := c :: r.rest }
    | _, _ => r

/-- Take characters for as long as they are of a kind. -/
def takeWhile (ok : Char → Bool) : Read (List Char) := do
  let r ← get
  let (cs, rest) := r.rest.span ok
  set { r with taken := cs.reverse ++ r.taken, rest := rest }
  return cs

def isBlank (c : Char) : Bool := c == ' ' || c == '\t'

def isSpace (c : Char) : Bool := inCharClass "space" c

/-- Take the next character that is no blank. -/
def nextNonBlank : Read (Option Char) := do
  discard (takeWhile isBlank)
  nextChar

/-- A number that starts with a character; one without digits is zero. -/
def readNumber (first : Option Char) : Read Nat := do
  giveBack first
  return Nat.ofDigitChars 10 (← takeWhile Char.isDigit) 0

/-- The end of a command. -/
def readEnd : Read Unit := do
  match ← nextNonBlank with
  | none => return
  | some c =>
    if c = '}' || c = '#' then giveBack (some c)
    else if c ≠ '\n' && c ≠ ';' then refuse .extraCharacters

def readLabel : Read String := do
  discard (takeWhile isBlank)
  return String.ofList (← takeWhile fun c => !isSpace c && c ≠ ';' && c ≠ '}')

def readFileName : Read String := do
  if (← get).confined then refuse .notAllowed
  discard (takeWhile isBlank)
  let name ← takeWhile (· ≠ '\n')
  discard nextChar
  if name.isEmpty then refuse .noFileName
  return String.ofList name

/-! ### Expressions -/

/-- Where one is within the brackets of a set. -/
inductive InSet where
  | plain
  | opened
  | inClass (sign : Char)
  | closing (sign : Char)
  deriving DecidableEq, Repr

/-- The rest of a set with its closing bracket, as far as it goes, and whether that is there. -/
def setRest : InSet → List Char → List Char × Bool
  | _, [] => ([], false)
  | s, c :: cs =>
    let go (s : InSet) : List Char × Bool :=
      let (rest, closed) := setRest s cs
      (c :: rest, closed)
    if c = '\n' then ([], false)
    else if c = '.' || c = ':' || c = '=' then
      match s with
      | .opened => go (.inClass c)
      | .inClass d => go (if c = d then .closing d else .inClass d)
      | .closing d => go (.inClass d)
      | .plain => go .plain
    else if c = '[' then
      match s with
      | .plain => go .opened
      | .closing d => go (.closing d)
      | s => go s
    else if c = ']' then
      match s with
      | .plain | .opened => ([c], true)
      | .closing _ => go .plain
      | .inClass d => go (.inClass d)
    else
      match s with
      | .closing d => go (.inClass d)
      | .inClass d => go (.inClass d)
      | _ => go .plain

/-- The length of a set behind its opening bracket, and whether it is closed. -/
def setExtent (cs : List Char) : Nat × Bool :=
  let start := if cs.head? = some '^' then 1 else 0
  let start := if (cs.drop start).head? = some ']' then start + 1 else start
  let (body, closed) := setRest .plain (cs.drop start)
  (start + body.length, closed)

/-- What stands before a delimiter, which is taken too; none if there is no delimiter. In
expressions the delimiter may stand in a set. -/
def untilDelimiter (delimiter : Char) (isRegex : Bool) : Nat → Read (Option (List Char))
  | 0 => return none
  | fuel + 1 => do
    match ← nextChar with
    | none => return none
    | some c =>
      let more (cs : List Char) : Read (Option (List Char)) := do
        return (← untilDelimiter delimiter isRegex fuel).map (cs ++ ·)
      if c = delimiter then return some []
      else if c = '\n' then
        giveBack (some c)
        return none
      else if c = '\\' then
        match ← nextChar with
        | none => return none
        | some d =>
          if d = 'n' && isRegex && d ≠ delimiter then more ['\n']
          else if d = '\n' then more [if isRegex then '\n' else '\\', '\n']
          else if d = delimiter && (isRegex || d ≠ '&') then more [d]
          else more ['\\', d]
      else if c = '[' && isRegex then
        let (n, closed) := setExtent (← get).rest
        let body ← (List.range n).filterMapM fun _ => nextChar
        if closed then more (c :: body) else return none
      else more [c]

def readUntil (delimiter : Char) (isRegex : Bool) : Read (Option (List Char)) := do
  untilDelimiter delimiter isRegex ((← get).rest.length + 1)

/-- An expression that matches no line break but where it names one. -/
def withinLines : Regex → Regex
  | .any => .set true [.range '\n' '\n']
  | .set true items => .set true (.range '\n' '\n' :: items)
  | .group n r => .group n (withinLines r)
  | .sequence a b => .sequence (withinLines a) (withinLines b)
  | .either a b => .either (withinLines a) (withinLines b)
  | .many r least most => .many (withinLines r) least most
  | r => r

/-- The expression of a text; the empty text stands for the one that was used last. -/
def compile (text : List Char) (setting : Regex.Setting) (groups : Nat) : Read Pattern := do
  let r ← get
  if text.isEmpty then
    if setting.ignoreCase || setting.byLine then refuse .modifiersOfNothing
    return ⟨none, setting⟩
  let dialect : Regex.Dialect := if r.extended then .extendedEdit else .basicEdit
  match Regex.ofNotation dialect (plain .regex (text.length + 1) text) with
  | .error .bareClass => throw (.bare Regex.Fault.bareClass.message)
  | .error f => refuse (.regex f)
  | .ok e =>
    if e.groupCount < groups then refuse (.badReference groups)
    return ⟨some (if setting.byLine then withinLines e else e), setting⟩

/-! ### Addresses -/

/-- The modifiers behind the expression of an address. -/
def readModifiers : Nat → Regex.Setting → Read Regex.Setting
  | 0, s => return s
  | fuel + 1, s => do
    match ← nextNonBlank with
    | some 'I' => readModifiers fuel { s with ignoreCase := true }
    | some 'M' => readModifiers fuel { s with byLine := true }
    | c =>
      giveBack c
      return s

/-- An address that starts with a character, if it does. -/
def readAddress (c : Option Char) : Read (Option RangeEnd) := do
  let expression (delimiter : Char) : Read (Option RangeEnd) := do
    match ← readUntil delimiter true with
    | none => refuse .openAddress
    | some text =>
      let setting ← readModifiers ((← get).rest.length + 1) {}
      return some (.at (.text (← compile text setting 0)))
  match c with
  | some '/' => expression '/'
  | some '\\' =>
    match ← nextChar with
    | none => refuse .openAddress
    | some d => expression d
  | some '$' => return some (.at .last)
  | some '+' => return some (.after (← readNumber (← nextNonBlank)))
  | some '~' => return some (.multiple (← readNumber (← nextNonBlank)))
  | some c =>
    if !c.isDigit then return none
    let n ← readNumber (some c)
    match ← nextNonBlank with
    | some '~' =>
      let step ← readNumber (← nextNonBlank)
      return some (.at (if step = 0 then .line n else .every n step))
    | d =>
      giveBack d
      return some (.at (.line n))
  | none => return none

/-- The selection of a command, and the character behind it. -/
def readSelection (c : Option Char) : Read (Selection × Option Char) := do
  let (s, c) : Selection × Option Char ← match ← readAddress c with
    | none => pure ({}, c)
    | some (.at first) => do
      let s : Selection := { first := some first }
      let zero : Bool := match first with
        | .line 0 => true
        | _ => false
      match ← nextNonBlank with
      | some ',' => do
        match ← readAddress (← nextNonBlank) with
        | none => refuse .unexpectedComma
        | some stop => do
          let c ← nextNonBlank
          let isText : Bool := match stop with
            | .at (.text _) => true
            | _ => false
          if zero && !isText then refuse .lineZero
          pure ({ s with stop := some stop }, c)
      | c => do
        if zero then refuse .lineZero
        pure (s, c)
    | some _ => refuse .relativeFirst
  if c = some '!' then
    let c ← nextNonBlank
    if c = some '!' then refuse .manyBangs
    return ({ s with negated := true }, c)
  else return (s, c)

/-! ### Texts -/

/-- The characters of a text up to the end of its last line, with their backslashes. The answer
tells whether the piece ended within it. -/
def textRest : Nat → Read (List Char × Bool)
  | 0 => return ([], false)
  | fuel + 1 => do
    match ← nextChar with
    | none => return (['\n'], false)
    | some '\n' => return (['\n'], false)
    | some '\\' =>
      match ← nextChar with
      | none => return (['\n'], true)
      | some c => do
        let (cs, more) ← textRest fuel
        return ('\\' :: c :: cs, more)
    | some c => do
      let (cs, more) ← textRest fuel
      return (c :: cs, more)

/-- The text that is meant by one that is written with backslashes. -/
def textOf (raw : List Char) : List Char := plain .text (raw.length + 1) raw

/-- The text of a command, if its first character is known. The answer also has what is still open
of it. -/
def readText (c : Option Char) : Read (List Char × Option (List Char)) := do
  let fuel := (← get).rest.length + 2
  let go (lead : List Char) : Read (List Char × Option (List Char)) := do
    let (cs, more) ← textRest fuel
    let raw := lead ++ cs
    return (textOf raw, if more then some raw else none)
  match c with
  | none => refuse .textWithoutBackslash
  | some '\\' =>
    match ← nextChar with
    | none => return ([], some [])
    | some '\n' => go []
    | some c => go [c]
  | c =>
    giveBack c
    go []

/-! ### Replacements -/

/-- How what follows in a replacement is written: for now, for the first letter, and after that. -/
structure Writing where
  casing : Casing := .asIs
  lead : Option Casing := none

/-- The segments of a replacement. A segment ends with a group or with a change of writing. -/
def segments : Nat → Writing → List Char → List Char → List Segment
  | 0, _, _, _ => []
  | fuel + 1, w, cur, cs =>
    let segment (text : List Char) (group : Option Nat) : Segment :=
      ⟨text, group, w.casing, w.lead⟩
    let after : Writing := { w with lead := none }
    match cs with
    | [] => if cur.isEmpty then [] else [segment cur.reverse none]
    | '&' :: cs => segment cur.reverse (some 0) :: segments fuel after [] cs
    | ['\\'] => [segment (cur.reverse ++ ['\\']) none]
    | '\\' :: c :: cs =>
      let turn (w : Writing) : List Segment :=
        segment cur.reverse none :: segments fuel w [] cs
      if c.isDigit then
        segment cur.reverse (some (c.toNat - '0'.toNat)) :: segments fuel after [] cs
      else
        match c with
        | 'L' => turn ⟨.lower, none⟩
        | 'U' => turn ⟨.upper, none⟩
        | 'E' => turn ⟨.asIs, none⟩
        | 'l' => turn { w with lead := some .lower }
        | 'u' => turn { w with lead := some .upper }
        | 'n' => segment (cur.reverse ++ ['\n']) none :: segments fuel after [] cs
        | c => segment (cur.reverse ++ [c]) none :: segments fuel after [] cs
    | c :: cs => segments fuel w (c :: cur) cs

def segmentsOf (text : List Char) : List Segment :=
  let cs := plain .replacement (text.length + 1) text
  segments (cs.length + 1) {} [] cs

/-- The options of a substitution. -/
def readOptions : Nat → Regex.Setting → Bool → Substitution → Read (Substitution × Regex.Setting)
  | 0, setting, _, s => return (s, setting)
  | fuel + 1, setting, counted, s => do
    let again (s : Substitution) : Read (Substitution × Regex.Setting) :=
      readOptions fuel setting counted s
    match ← nextNonBlank with
    | none => return (s, setting)
    | some c =>
      match c with
      | 'i' | 'I' => readOptions fuel { setting with ignoreCase := true } counted s
      | 'm' | 'M' => readOptions fuel { setting with byLine := true } counted s
      | 'e' =>
        if (← get).confined then refuse .notAllowed
        again { s with runs := true }
      | 'p' =>
        if s.printsEarly || s.prints then refuse .manyPrints
        again { s with printsEarly := !s.runs, prints := s.runs }
      | 'g' =>
        if s.all then refuse .manyGlobals
        again { s with all := true }
      | 'w' => return ({ s with file := some (← readFileName) }, setting)
      | '\n' | ';' => return (s, setting)
      | '}' | '#' =>
        giveBack (some c)
        return (s, setting)
      | c =>
        if !c.isDigit then refuse .unknownOption
        if counted then refuse .manyNumbers
        let n ← readNumber (some c)
        if n = 0 then refuse .zeroNumber
        readOptions fuel setting true { s with nth := n }

def readSubstitution : Read Substitution := do
  let some delimiter ← nextChar | refuse .openSubstitution
  let some text ← readUntil delimiter true | refuse .openSubstitution
  let some replacement ← readUntil delimiter false | refuse .openSubstitution
  let parts := segmentsOf replacement
  let (s, setting) ← readOptions ((← get).rest.length + 1) {} false ⟨⟨none, {}⟩, parts, 1, false,
    false, false, false, none⟩
  let groups := parts.foldl (fun n p => max n (p.group.getD 0)) 0
  let pattern ← compile text setting groups
  let s := { s with pattern := pattern }
  return if s.runs then s else { s with prints := s.printsEarly || s.prints, printsEarly := false }

def readExchange : Read (List (Char × Char)) := do
  let some delimiter ← nextChar | refuse .openExchange
  let some source ← readUntil delimiter false | refuse .openExchange
  let some target ← readUntil delimiter false | refuse .openExchange
  let source := textOf source
  let target := textOf target
  if source.length ≠ target.length then refuse .unequalLengths
  readEnd
  return source.zip target

/-! ### Commands -/

/-- The version of the language, up to which scripts may ask for it. -/
def version : List Nat := [4, 9]

/-- Whether a version is no newer than another. -/
def isNoNewer : List Nat → List Nat → Bool
  | [], _ => true
  | _ :: _, [] => false
  | m :: v, n :: w => m < n || (m = n && isNoNewer v w)

/-- Whether a script that asks for a version can be used. -/
def isSupported (asked : String) : Bool :=
  isNoNewer ((asked.splitOn ".").map fun p =>
    Nat.ofDigitChars 10 (p.toList.takeWhile Char.isDigit) 0) version

def addCommand (s : Selection) (a : Action) : Read Unit :=
  modify fun r => { r with commands := r.commands.push ⟨s, a⟩ }

/-- A command with a text. -/
def readTextCommand (s : Selection) (make : List Char → Action) (c : Option Char) : Read Unit := do
  let (text, more) ← readText c
  let n := (← get).commands.size
  addCommand s (make text)
  if let some raw := more then modify fun r => { r with unfinished := some ⟨n, raw⟩ }

/-- A comment, which may ask for silence if it is the first in the script. -/
def readComment : Read Unit := do
  let r ← get
  let first := r.isFirst && r.taken.length = 1
  let line ← takeWhile (· ≠ '\n')
  discard nextChar
  if first && line.head? = some 'n' then modify fun r => { r with quiet := true }

/-- Commands that are a letter only. -/
def letterAction? : Char → Option Action
  | '=' => some .number
  | 'd' => some .delete
  | 'D' => some .deleteFirst
  | 'F' => some .name
  | 'g' => some .get
  | 'G' => some .getAppend
  | 'h' => some .hold
  | 'H' => some .holdAppend
  | 'n' => some .next
  | 'N' => some .nextAppend
  | 'p' => some .print
  | 'P' => some .printFirst
  | 'x' => some .exchange
  | 'z' => some .clear
  | _ => none

/-- A number that a command may have. -/
def readArgument? : Read (Option Nat) := do
  let c ← nextNonBlank
  let n : Option Nat ← if c.any Char.isDigit then pure (some (← readNumber c)) else do
    giveBack c
    pure none
  readEnd
  return n

def setAction (n : Nat) (a : Action) (commands : Array Command) : Array Command :=
  commands.modify n fun c => { c with action := a }

/-- The command that starts with a character. -/
def readCommand (s : Selection) (c : Option Char) : Read Unit := do
  let some c := c | refuse .missingCommand
  match c with
  | '#' =>
    if s.first.isSome then refuse .commentWithAddress
    readComment
  | 'v' =>
    if !isSupported (← readLabel) then refuse .newerVersion
  | '{' =>
    modify fun r => { r with blocks := (r.commands.size, r.place) :: r.blocks }
    addCommand s (.block 0)
  | '}' =>
    match (← get).blocks with
    | [] => refuse .unexpectedClose
    | (n, _) :: blocks =>
      if s.first.isSome then refuse .closeWithAddress
      readEnd
      modify fun r => { r with
        blocks := blocks
        commands := setAction n (.block r.commands.size) r.commands }
      addCommand s .close
  | ':' =>
    if s.first.isSome then refuse .labelWithAddress
    let label ← readLabel
    if label.isEmpty then refuse .noLabel
    modify fun r => { r with labels := (label, r.commands.size) :: r.labels }
    addCommand s .label
  | 'b' => addCommand s (.jump .always (← readLabel))
  | 't' => addCommand s (.jump .replaced (← readLabel))
  | 'T' => addCommand s (.jump .notReplaced (← readLabel))
  | 'a' => readTextCommand s .append (← nextNonBlank)
  | 'i' => readTextCommand s .insert (← nextNonBlank)
  | 'c' => readTextCommand s .change (← nextNonBlank)
  | 'e' =>
    if (← get).confined then refuse .notAllowed
    match ← nextNonBlank with
    | none => addCommand s (.run [])
    | some '\n' => addCommand s (.run [])
    | c => readTextCommand s .run c
  | 'q' =>
    if s.stop.isSome then refuse .oneAddress
    addCommand s (.quit ((← readArgument?).getD 0))
  | 'Q' =>
    if s.stop.isSome then refuse .oneAddress
    addCommand s (.quitSilently ((← readArgument?).getD 0))
  | 'l' => addCommand s (.list (← readArgument?))
  | 'r' => addCommand s (.readFile (← readFileName))
  | 'R' => addCommand s (.readLine (← readFileName))
  | 'w' => addCommand s (.writeFile (← readFileName))
  | 'W' => addCommand s (.writeFirst (← readFileName))
  | 's' => addCommand s (.substitute (← readSubstitution))
  | 'y' => addCommand s (.replaceChars (← readExchange))
  | c =>
    match letterAction? c with
    | some a =>
      readEnd
      addCommand s a
    | none => refuse (.unknownCommand c)

/-- The commands of a piece. -/
def readCommands : Nat → Read Unit
  | 0 => return
  | fuel + 1 => do
    discard (takeWhile fun c => c == ';' || isSpace c)
    match ← nextChar with
    | none => return
    | some c =>
      let (s, c) ← readSelection (some c)
      readCommand s c
      readCommands fuel

/-- Replace the text of a command. -/
def Action.withText (text : List Char) : Action → Action
  | .append _ => .append text
  | .insert _ => .insert text
  | .change _ => .change text
  | .run _ => .run text
  | a => a

/-- Read a piece. A text that is still open goes on at its start. -/
def readPiece (origin : Origin) (piece : List Char) : Read Unit := do
  modify fun r => { r with origin := origin, taken := [], rest := piece }
  if let some o := (← get).unfinished then
    let (cs, more) ← textRest (piece.length + 2)
    let raw := o.text ++ cs
    modify fun r => { r with
      commands := r.commands.modify o.command fun c =>
        { c with action := c.action.withText (textOf raw) }
      unfinished := if more then some { o with text := raw } else none }
  readCommands (piece.length + 1)
  modify fun r => { r with isFirst := false }

/-- Read a script from its pieces. -/
def readScript (extended confined : Bool) (pieces : List (Origin × List Char)) :
    Except Complaint Script := do
  let start : Reading := { extended := extended, confined := confined }
  let ((), r) ← (pieces.forM fun (origin, text) => readPiece origin text).run start
  if let (_, place) :: _ := r.blocks then throw (.at place.whole .unmatchedOpen)
  for c in r.commands.reverse do
    if let .jump _ label := c.action then
      if !label.isEmpty && (r.labels.lookup label).isNone then
        throw (.bare s!"can't find label for jump to \x60{label}'")
  return ⟨r.commands, r.labels, r.quiet, r.place.whole⟩

end PatchTrial.Shell.Tools.Sed
