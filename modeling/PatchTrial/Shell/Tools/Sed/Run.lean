import PatchTrial.Shell.Expand
import PatchTrial.Shell.Tools.Files
import PatchTrial.Shell.Tools.Sed.Reader

/-!
Editing by a script.

The commands work on a line that is being edited and on one that is kept aside. What a script adds
behind a line is printed when the next line is read. A last line without a line break stays so,
unless something is printed behind it.
-/
namespace PatchTrial.Shell.Tools.Sed

structure Line where
  text : List Char
  /-- Whether a line break stands behind it. -/
  ended : Bool := true

/-- A file whose lines are being edited. -/
structure Source where
  path : String
  lines : List (List Char)
  /-- Whether the last line is ended. -/
  ended : Bool
  /-- How many characters have been read. -/
  taken : Nat := 0

/-- What is printed behind a line. -/
inductive Addition where
  | text (cs : List Char)
  | file (path : String)
  /-- Characters as they are. -/
  | raw (cs : List Char)

/-- Where a command stands in its range of lines. -/
inductive Span where
  | outside
  | inside
  | upTo (n : Nat)
  deriving DecidableEq, Repr

/-- What is asked for beside the script. -/
structure Setup where
  script : Script
  quiet : Bool
  /-- Whether files are counted one by one. -/
  separate : Bool
  /-- Whether files are replaced, and what their old contents are called then. -/
  inPlace : Option String
  terminator : Char
  width : Nat
  start : Starter

structure Editor where
  line : Line := ⟨[], true⟩
  kept : Line := ⟨[], true⟩
  number : Nat := 0
  waiting : List String
  source : Option Source := none
  /-- Whether a substitution was made since a line was read. -/
  replaced : Bool := false
  additions : List Addition := []
  spans : List Span
  /-- The expression that was used last. -/
  lastUsed : Option Regex := none
  /-- Whether the last line printed lacks its line break. -/
  unended : Bool := false
  /-- Files whose last line lacks its line break. -/
  unendedFiles : List String := []
  /-- What is left of files that are read line by line. -/
  readers : List (String × List Char) := []
  /-- The new content of the file being edited, in pieces, the last one first. -/
  written : List (List Char) := []
  status : Nat := 0

/-- What ends the work early. -/
inductive Halt where
  | quit (status : Nat)
  | failed (text : String) (status : Nat)

abbrev Edit := ExceptT Halt (StateT Editor Act)

def act {α : Type} (a : Act α) : Edit α := ExceptT.lift (StateT.lift a)

variable (c : Setup)

/-! ### Printing -/

def put (cs : List Char) : Edit Unit := do
  if c.inPlace.isSome then modify fun e => { e with written := cs :: e.written }
  else act (emit cs)

/-- End the last line printed. -/
def completeLine : Edit Unit := do
  if (← get).unended then
    put c [c.terminator]
    modify fun e => { e with unended := false }

def printLine (l : Line) : Edit Unit := do
  completeLine c
  put c (if l.ended then l.text ++ [c.terminator] else l.text)
  modify fun e => { e with unended := !l.ended }

/-- Print a text that ends its own lines. -/
def printText (text : List Char) : Edit Unit := do
  completeLine c
  let last := text.getLast? = some '\n'
  put c (if last then text.dropLast ++ [c.terminator] else text)

/-- The place of a file that is written to. -/
def targetOf (path : String) : Edit (Option Channel) := do
  match path with
  | "/dev/stdout" => act (Act.channel? 1)
  | "/dev/stderr" => act (Act.channel? 2)
  | path => return (← act (placeOf path)).toOption.map .file

def writeTo (path : String) (l : Line) : Edit Unit := do
  let before := if (← get).unendedFiles.contains path then [c.terminator] else []
  let after := if l.ended then [c.terminator] else []
  let target ← targetOf path
  act <| Act.within (fun p => { p with channels := (9, target.getD .nowhere) :: p.channels }) do
    discard (Act.write 9 (Octets.toBytes (before ++ l.text ++ after)))
  modify fun e => { e with
    unendedFiles := e.unendedFiles.filter (· ≠ path) ++ if l.ended then [] else [path] }

/-- Print what was to be printed behind the line. -/
def printAdditions : Edit Unit := do
  for a in (← get).additions do
    match a with
    | .text cs => printText c cs
    | .raw cs =>
      completeLine c
      put c cs
    | .file path =>
      completeLine c
      put c ((← act (fileContent path)).toOption.getD [])
  modify fun e => { e with additions := [] }

/-! ### Reading -/

/-- The name for the old content of a file. -/
def backupName (suffix path : String) : String :=
  let pattern := if suffix.contains '*' then suffix else "*" ++ suffix
  let name := pattern.replace "*" (baseName path)
  if name.contains '/' || !path.contains '/' then name else Path.join (directoryName path) name

/-- Put what was written in the place of a file. -/
def replaceFile (suffix path : String) : Edit Unit := do
  let here := (← act Act.process).here
  let new := (← get).written.reverse.flatten
  if !suffix.isEmpty then
    let old := (← act (fileContent path)).toOption.getD []
    discard <| act <| Act.change (·.write here (backupName suffix path) (Octets.toBytes old))
  discard <| act <| Act.change (·.write here path (Octets.toBytes new))
  modify fun e => { e with written := [], unended := false }

/-- Have done with the file being edited. -/
def closeSource : Edit Unit := do
  match (← get).source with
  | none => return
  | some s =>
    if s.path = "-" && c.inPlace.isNone then act (Act.consume 0 s.taken 4096)
    match c.inPlace with
    | some suffix => replaceFile suffix s.path
    | none => pure ()
    modify fun e => { e with source := none }

/-- How the ranges of a script start out. -/
def firstSpans (s : Script) : List Span :=
  s.commands.toList.map fun command =>
    match command.selection.first with
    | some (.line 0) => .inside
    | _ => .outside

/-- Open a file. The answer is whether that was possible. -/
def openSource (path : String) : Edit Bool := do
  let complain (text : String) : Edit Bool := do
    act (warnAs "sed" text)
    modify fun e => { e with status := 2 }
    return false
  let opened ← act (if c.inPlace.isSome && path = "-" then return .error .notFound
    else contentAhead path)
  match opened with
  | .error .isDirectory =>
    throw (.failed (if c.inPlace.isSome then s!"couldn't edit {path}: not a regular file"
      else s!"read error on {path}: Is a directory") 4)
  | .error e => complain s!"can't read {path}: {e.words}"
  | .ok text =>
    let (lines, ended) := recordsOf c.terminator text
    modify fun e => { e with source := some ⟨path, lines, ended, 0⟩ }
    if c.separate then modify fun e => { e with number := 0, spans := firstSpans c.script }
    return true

/-- Take the next line of the file being edited. -/
def takeLine? : Edit (Option Line) := do
  match (← get).source with
  | some s =>
    match s.lines with
    | l :: rest =>
      let ended := s.ended || !rest.isEmpty
      let s := { s with
        lines := rest
        taken := s.taken + l.length + (if ended then 1 else 0) }
      modify fun e => { e with source := some s, number := e.number + 1 }
      return some ⟨l, ended⟩
    | [] => return none
  | none => return none

/-- The next line of all files. -/
def nextLine : List String → Edit (Option Line)
  | [] => do
    match ← takeLine? with
    | some l => return some l
    | none => closeSource c; return none
  | path :: rest => do
    match ← takeLine? with
    | some l => return some l
    | none =>
      closeSource c
      modify fun e => { e with waiting := rest }
      discard (openSource c path)
      nextLine rest

/-- Read the next line in the stead of the one being edited, or behind it. -/
def readNext (append : Bool) : Edit Bool := do
  printAdditions c
  modify fun e => { e with replaced := false }
  match ← nextLine c (← get).waiting with
  | none => return false
  | some l =>
    modify fun e => { e with
      line := if append then ⟨e.line.text ++ c.terminator :: l.text, l.ended⟩ else l }
    return true

/-- Whether no line is left to read. -/
def isLast : Edit Bool := do
  let e ← get
  if (e.source.map (·.lines)).any (!·.isEmpty) then return false
  if c.separate then return true
  e.waiting.allM fun path => do
    match ← act (contentAhead path) with
    | .ok text => return text.isEmpty
    | .error _ => return true

/-! ### Selecting -/

/-- The expression of a pattern, which becomes the one that was used last. -/
def use (p : Pattern) : Edit Regex := do
  match p.regex, (← get).lastUsed with
  | some r, _ =>
    modify fun e => { e with lastUsed := some r }
    return r
  | none, some r => return r
  | none, none =>
    let message := c.script.finish.text ++ ": " ++ Fault.noPrevious.message
    throw (.failed message 1)

def isAt (a : Address) : Edit Bool := do
  let e ← get
  match a with
  | .line n => return e.number = n
  | .last => isLast c
  | .every first step => return first ≤ e.number && (e.number - first) % step = 0
  | .text p =>
    let r ← use c p
    return r.matchesIn p.setting e.line.text

def setSpan (i : Nat) (s : Span) : Edit Unit :=
  modify fun e => { e with spans := e.spans.set i s }

/-- Start a range of lines at the current one. -/
def startRange (i : Nat) (stop : RangeEnd) : Edit Unit := do
  let n := (← get).number
  match stop with
  | .at (.line last) => if n < last then setSpan i (.upTo last)
  | .after count => if 0 < count then setSpan i (.upTo (n + count))
  | .multiple m => if 0 < m then setSpan i (.upTo (n + m - n % m))
  | .at _ => setSpan i .inside

/-- Whether the command of a number is for the current line. -/
def isSelected (i : Nat) (s : Selection) : Edit Bool := do
  let e ← get
  match s.first, s.stop, e.spans[i]?.getD .outside with
  | none, _, _ => return true
  | some first, none, _ => isAt c first
  | some first, some stop, .outside =>
    if ← isAt c first then
      startRange i stop
      return true
    else return false
  | _, some _, .upTo last =>
    if last ≤ e.number then setSpan i .outside
    return e.number ≤ last
  | _, some (.at a), .inside =>
    if ← isAt c a then setSpan i .outside
    return true
  | _, some _, .inside => return true

/-! ### Replacing -/

/-- The text of a segment for a match, and how the first letter that follows is written if that is
still to come. -/
def Segment.expand (m : Regex.Match) (s : Regex.Subject) (pending : Option Casing) (g : Segment) :
    List Char × Option Casing :=
  let lead := g.lead <|> pending
  let written (lead : Option Casing) (cs : List Char) : List Char :=
    match lead, cs with
    | some how, x :: xs => how.apply x :: xs.map g.casing.apply
    | _, cs => cs.map g.casing.apply
  let before := written lead g.text
  let lead := if g.text.isEmpty then lead else none
  match g.group with
  | none => (before, none)
  | some n =>
    let text := m.group s n
    if text.isEmpty then (before, if g.lead.isSome then lead else none)
    else (before ++ written lead text, none)

/-- What takes the place of a match. -/
def expansion (segments : List Segment) (m : Regex.Match) (s : Regex.Subject) : List Char :=
  (segments.foldl (fun (out, pending) g =>
    let (cs, pending) := g.expand m s pending
    (out ++ cs, pending)) (([] : List Char), (none : Option Casing))).1

/-- A text with its matches replaced; none if there is none to replace. -/
def Substitution.apply? (s : Substitution) (r : Regex) (cs : List Char) : Option (List Char) :=
  let subject := Regex.Subject.ofList s.pattern.setting cs
  let found := (Regex.allIn subject r).drop (s.nth - 1)
  let found := if s.all then found else found.take 1
  if found.isEmpty then none
  else
    let (out, last) := found.foldl (fun (out, last) m =>
      (out ++ subject.slice last m.start ++ expansion s.replacement m subject, m.stop)) ([], 0)
    some (out ++ subject.slice last cs.length)

/-- What a command prints. -/
def outputOfCommand (command : List Char) : Edit (List Char) := do
  let (_, bytes) ← act <| collecting do
    match ← c.start "sh" ["-c", String.ofList command] with
    | .ok f => return f.status
    | .error _ => return 127
  return Octets.ofBytes bytes

/-- Run the line as a command, and put what that prints in its place. -/
def runLine : Edit Unit := do
  let out ← outputOfCommand c (← get).line.text
  let out := if out.getLast? = some c.terminator then out.dropLast else out
  modify fun e => { e with line := { e.line with text := out } }

def substitute (s : Substitution) : Edit Unit := do
  let e ← get
  let r ← use c s.pattern
  match s.apply? r e.line.text with
  | none => return
  | some text =>
    modify fun e => { e with line := { e.line with text := text }, replaced := true }
    if s.printsEarly then printLine c (← get).line
    if s.runs then runLine c
    if s.prints then printLine c (← get).line
    if let some path := s.file then writeTo c path (← get).line

/-! ### Commands -/

/-- A character as it is listed. -/
def listed (ch : Char) : List Char :=
  match [('\\', '\\'), (Char.ofNat 7, 'a'), (Char.ofNat 8, 'b'), (Char.ofNat 12, 'f'), ('\n', 'n'),
      ('\r', 'r'), ('\t', 't'), (Char.ofNat 11, 'v')].lookup ch with
  | some letter => ['\\', letter]
  | none =>
    if 32 ≤ ch.toNat && ch.toNat < 127 then [ch]
    else
      let n := ch.toNat
      '\\' :: [n / 64, n / 8 % 8, n % 8].map fun d => Char.ofNat ('0'.toNat + d)

/-- A text as it is listed, in lines of at most a width; none is no limit. -/
def listing (width : Nat) (cs : List Char) : List Char :=
  (cs.foldl (fun (out, used) ch =>
    let shown := listed ch
    if 0 < width && width < used + shown.length + 1 then
      (out ++ '\\' :: '\n' :: shown, shown.length)
    else (out ++ shown, used + shown.length)) (([] : List Char), 0)).1 ++ ['$']

/-- How the commands go on. -/
inductive Flow where
  | on
  | goto (n : Nat)
  /-- To the end of the script. -/
  | finish
  /-- To the next line. -/
  | cycle
  /-- To the start of the script. -/
  | again

/-- The first line of the text being edited, and whether there are more. -/
def firstLine (l : Line) : Line × Bool :=
  if l.text.contains c.terminator then (⟨l.text.takeWhile (· ≠ c.terminator), true⟩, true)
  else (l, false)

def modifyLine (f : Line → Line) : Edit Unit := modify fun e => { e with line := f e.line }

def perform (i : Nat) (a : Action) : Edit Flow := do
  let e ← get
  let add (x : Addition) : Edit Unit := modify fun e => { e with additions := e.additions ++ [x] }
  let printUnlessQuiet : Edit Unit := do
    if !c.quiet then printLine c (← get).line
  let joined (a b : Line) : Line := ⟨a.text ++ c.terminator :: b.text, b.ended⟩
  match a with
  | .block _ | .close | .label => return .on
  | .jump on label =>
    let taken := match on with
      | .always => true
      | .replaced => e.replaced
      | .notReplaced => !e.replaced
    if on ≠ .always then modify fun e => { e with replaced := false }
    if !taken then return .on
    return match c.script.labels.lookup label with
      | some n => .goto n
      | none => .finish
  | .append text => add (.text text); return .on
  | .insert text => printText c text; return .on
  | .change text =>
    if e.spans[i]?.getD .outside = .outside then printText c text
    return .cycle
  | .delete => return .cycle
  | .deleteFirst =>
    let (first, more) := firstLine c e.line
    if !more then return .cycle
    modifyLine fun l => { l with text := l.text.drop (first.text.length + 1) }
    return .again
  | .run [] =>
    runLine c
    modifyLine fun l => { l with ended := true }
    return .on
  | .run command =>
    let out ← outputOfCommand c command
    completeLine c
    put c out
    return .on
  | .name =>
    printLine c ⟨((e.source.map (·.path)).getD "-").toList, true⟩
    return .on
  | .get => modifyLine fun _ => e.kept; return .on
  | .getAppend => modifyLine (joined · e.kept); return .on
  | .hold => modify fun e => { e with kept := e.line }; return .on
  | .holdAppend => modify fun e => { e with kept := joined e.kept e.line }; return .on
  | .exchange => modify fun e => { e with line := e.kept, kept := e.line }; return .on
  | .list width =>
    printLine c ⟨listing (width.getD c.width) e.line.text, true⟩
    return .on
  | .next =>
    if ← isLast c then return .finish
    printUnlessQuiet
    return if ← readNext c false then .on else .cycle
  | .nextAppend =>
    if ← isLast c then return .finish
    return if ← readNext c true then .on else .cycle
  | .print => printLine c e.line; return .on
  | .printFirst => printLine c (firstLine c e.line).1; return .on
  | .number => printLine c ⟨(toString e.number).toList, true⟩; return .on
  | .quit status =>
    printUnlessQuiet
    printAdditions c
    throw (.quit status)
  | .quitSilently status => throw (.quit status)
  | .readFile path => add (.file path); return .on
  | .readLine path =>
    let rest ← match e.readers.lookup path with
      | some rest => pure rest
      | none => pure ((← act (fileContent path)).toOption.getD [])
    let (text, others) := rest.span (· ≠ c.terminator)
    let text := text ++ others.take 1
    modify fun e => { e with
      readers := (path, others.drop 1) :: e.readers.filter (·.1 ≠ path) }
    if !text.isEmpty then add (.raw text)
    return .on
  | .writeFile path => writeTo c path e.line; return .on
  | .writeFirst path => writeTo c path (firstLine c e.line).1; return .on
  | .substitute s => substitute c s; return .on
  | .replaceChars pairs =>
    modifyLine fun l => { l with text := l.text.map fun x => (pairs.lookup x).getD x }
    return .on
  | .clear => modifyLine fun l => { l with text := [] }; return .on

/-- How many commands are run on one line at most, before they count as going on for ever. -/
def maxSteps : Nat := 400000

/-- How often the script is run at most, before it counts as going on for ever. -/
def maxCycles : Nat := 4000000

/-- Run commands from a number on to the end of the script. The answer is whether a line is to be
read for the next cycle. -/
def runFrom : Nat → Nat → Edit Bool
  | 0, _ => act (throw .spinning)
  | fuel + 1, i => do
    match c.script.commands[i]? with
    | none =>
      if !c.quiet then printLine c (← get).line
      return true
    | some command =>
      let selected := (← isSelected c i command.selection) != command.selection.negated
      let flow ← if selected then perform c i command.action else
        match command.action with
        | .block past => pure (.goto past)
        | _ => pure .on
      match flow with
      | .on => runFrom fuel (i + 1)
      | .goto n => runFrom fuel n
      | .finish => runFrom fuel c.script.commands.size
      | .cycle => return true
      | .again => return false

/-- Run the script on line after line. -/
def runCycles : Nat → Bool → Edit Unit
  | 0, _ => act (throw .spinning)
  | fuel + 1, reads => do
    let more ← if reads then readNext c false else pure true
    if more then runCycles fuel (← runFrom c maxSteps 0)

/-- Make the files empty that are written to. -/
def openTargets : Edit Unit := do
  let here := (← act Act.process).here
  for path in (c.script.commands.toList.flatMap (·.action.targets)).eraseDups do
    if !(["/dev/stdout", "/dev/stderr", "/dev/null"].contains path) then
      if let .error e ← act (Act.change (·.write here path .empty)) then
        throw (.failed s!"couldn't open file {path}: {e.words}" 4)

/-- Edit files by a script. -/
def edit (files : List String) : Act Nat := do
  let work : Edit Unit := do
    openTargets c
    runCycles c maxCycles true
  let start : Editor := { waiting := files, spans := firstSpans c.script }
  let (result, e) ← work.run.run start
  match result with
  | .ok () => return e.status
  | .error (.quit status) =>
    let (_, e) ← (closeSource c).run.run e
    return if status = 0 then e.status else status
  | .error (.failed text status) =>
    warnAs "sed" text
    return status

end PatchTrial.Shell.Tools.Sed
