import PatchTrial.Regex.Reader
import PatchTrial.Shell.Ending
import PatchTrial.Shell.Tools.Listing
import PatchTrial.Shell.Tools.Starting

/-!
Finding files below directories.

What is asked for is an expression of tests and actions, which is evaluated for each file on the
way. An action that is written with a plus sign is put off until all files have been seen.
-/
namespace PatchTrial.Shell.Tools.Find

/-- How a number is compared with one that is asked for. -/
structure Count where
  order : Ordering
  number : Nat
  deriving Repr

def Count.holds (c : Count) (n : Nat) : Bool := compare n c.number == c.order

/-- Which bits of a mode are asked for. -/
inductive ModeMatch where
  | exactly
  | all
  | any
  deriving DecidableEq, Repr

inductive Expression where
  | constant (b : Bool)
  | name (pattern : List Glyph) (ignoreCase : Bool)
  | path (pattern : List Glyph) (ignoreCase : Bool)
  | regex (r : Regex) (ignoreCase : Bool)
  | kind (letters : List Char)
  | empty
  | size (count : Count) (unit : Nat)
  | mode (how : ModeMatch) (bits : Nat)
  | runnable
  | links (count : Count)
  | print (ending : String)
  | format (text : List Char)
  | delete
  | prune
  | quit
  | run (command : List String) (inPlace : Bool)
  | runLater (index : Nat) (command : List String)
  | negation (e : Expression)
  | both (a b : Expression)
  | either (a b : Expression)
  | then_ (a b : Expression)
  deriving Inhabited

/-- What is asked for besides the expression. -/
structure Scope where
  least : Nat := 0
  most : Option Nat := none
  contentsFirst : Bool := false
  /-- Whether links are taken for what they lead to. -/
  follows : Bool := false
  /-- Whether something is done with files apart from printing them. -/
  acts : Bool := false
  /-- How many actions are put off. -/
  later : Nat := 0

/-! ### Reading -/

abbrev Reading := Except String (Expression × Scope × List String)

/-- A number with a sign that says whether it is a bound. -/
def count? (s : String) : Option (Count × String) :=
  let (order, rest) : Ordering × List Char := match s.toList with
    | '+' :: cs => (.gt, cs)
    | '-' :: cs => (.lt, cs)
    | cs => (.eq, cs)
  let (ds, unit) := rest.span Char.isDigit
  if ds.isEmpty then none
  else some (⟨order, Nat.ofDigitChars 10 ds 0⟩, String.ofList unit)

def sizeUnit? (s : String) : Option Nat :=
  [("", 512), ("b", 512), ("c", 1), ("w", 2), ("k", 1024), ("M", Nat.pow 1024 2),
    ("G", Nat.pow 1024 3)].lookup s

/-- The words of a command up to its end, and whether that is a plus sign. -/
def commandWords : List String → Option (List String × Bool × List String)
  | [] => none
  | ";" :: rest => some ([], false, rest)
  | "\x7b\x7d" :: "+" :: rest => some ([], true, rest)
  | w :: rest => (commandWords rest).map fun (ws, later, rest) => (w :: ws, later, rest)

/-- The letters of a list of kinds of files, between commas. -/
def kindLetters : List Char → Except String (List Char)
  | [] => .error "Arguments to -type should contain at least one letter"
  | c :: cs => do
    if !"bcdpflsD".contains c then throw s!"Unknown argument to -type: {c}"
    match cs with
    | [] => return [c]
    | [','] =>
      throw ("Last file type in list argument to -type is missing, i.e., list is ending on: " ++
        "','")
    | ',' :: more => return c :: (← kindLetters more)
    | _ => throw "Must separate multiple arguments to -type using: ','"

/-- A size with its unit. -/
def size (a : String) : Except String (Count × Nat) :=
  match a.toList.getLast? with
  | none => .error "invalid null argument to -size"
  | some last =>
    let digits := if last.isDigit then a else (a.dropEnd 1).toString
    let unit := if last.isDigit then "" else String.singleton last
    match sizeUnit? unit, count? digits with
    | none, _ => .error s!"invalid -size type \x60{last}'"
    | some unit, some (c, "") => .ok (c, unit)
    | _, _ => .error s!"Invalid argument \x60{a}' to -size"

/-- Whether a new file has an age. -/
def isNew (name a : String) : Except String Bool :=
  let body := (a.toList.dropWhile fun c => c = '+' || c = '-')
  if body.isEmpty || !body.all (fun c => c.isDigit || c = '.') then
    .error s!"invalid argument \x60{a}' to \x60{name}'"
  else .ok (a.startsWith "-" || (a = "0" && name.endsWith "time"))

/-- The users and groups that there are. -/
def knownNames : List String := ["root", "daemon", "bin", "sys", "nobody", "nogroup"]

/-- Whether a file belongs to a user or to a group. -/
def belongs (a complaint : String) : Except String Bool :=
  if (natural? a).isNone && !knownNames.contains a then .error s!"{Quoting.text a} {complaint}"
  else .ok (a = "root" || a = "0")

/-- Read a test or an action. -/
def readPrimary (name : String) (rest : List String) (s : Scope) : Reading :=
  let missing : Reading := .error s!"missing argument to \x60{name}'"
  let withArgument (f : String → Except String (Expression × Scope)) : Reading :=
    match rest with
    | [] => missing
    | arg :: rest => (f arg).map fun (e, s) => (e, s, rest)
  let test (e : Expression) : Except String (Expression × Scope) := .ok (e, s)
  let plain (e : Expression) : Reading := .ok (e, s, rest)
  let action (e : Expression) : Reading := .ok (e, { s with acts := true }, rest)
  let depth (set : Nat → Scope) : Reading := withArgument fun arg =>
    match natural? arg with
    | some n => .ok (.constant true, set n)
    | none => .error (s!"Expected a positive decimal integer argument to {name}, but got " ++
        Quoting.text arg)
  let command (inPlace : Bool) : Reading :=
    match commandWords rest with
    | none => missing
    | some ([], false, _) => missing
    | some (ws, false, rest) => .ok (.run ws inPlace, { s with acts := true }, rest)
    | some (ws, true, rest) =>
      .ok (.runLater s.later ws, { s with acts := true, later := s.later + 1 }, rest)
  match name with
  | "-name" => withArgument fun a => test (.name (glyphs a) false)
  | "-iname" => withArgument fun a => test (.name (glyphs a.toLower) true)
  | "-path" => withArgument fun a => test (.path (glyphs a) false)
  | "-wholename" => withArgument fun a => test (.path (glyphs a) false)
  | "-ipath" => withArgument fun a => test (.path (glyphs a.toLower) true)
  | "-regex" => withArgument fun a =>
    match Regex.ofNotation .basic a.toList with
    | .ok r => test (.regex r false)
    | .error f => .error f.message
  | "-iregex" => withArgument fun a =>
    match Regex.ofNotation .basic a.toList with
    | .ok r => test (.regex r true)
    | .error f => .error f.message
  | "-regextype" => withArgument fun _ => test (.constant true)
  | "-type" => withArgument fun a =>
    (kindLetters a.toList).bind fun letters => test (.kind letters)
  | "-empty" => plain .empty
  | "-size" => withArgument fun a =>
    (size a).bind fun (c, unit) => test (.size c unit)
  | "-perm" => withArgument fun a =>
    let (how, text) : ModeMatch × String :=
      if a.startsWith "-" then (.all, (a.drop 1).toString)
      else if a.startsWith "/" then (.any, (a.drop 1).toString)
      else (.exactly, a)
    match modeChange? 0 text with
    | some change => test (.mode how (change 0))
    | none => .error s!"invalid mode {Quoting.text a}"
  | "-executable" => plain .runnable
  | "-readable" => plain (.constant true)
  | "-writable" => plain (.constant true)
  | "-links" => withArgument fun a =>
    match count? a with
    | some (c, _) => test (.links c)
    | none => .error s!"invalid argument \x60{a}' to \x60-links'"
  | "-user" => withArgument fun a =>
    (belongs a "is not the name of a known user").bind fun b => test (.constant b)
  | "-group" => withArgument fun a =>
    (belongs a "is not the name of an existing group").bind fun b => test (.constant b)
  | "-newer" => withArgument fun _ => test (.constant false)
  | "-mtime" => withArgument fun a => (isNew name a).bind fun b => test (.constant b)
  | "-atime" => withArgument fun a => (isNew name a).bind fun b => test (.constant b)
  | "-ctime" => withArgument fun a => (isNew name a).bind fun b => test (.constant b)
  | "-mmin" => withArgument fun a => (isNew name a).bind fun b => test (.constant b)
  | "-amin" => withArgument fun a => (isNew name a).bind fun b => test (.constant b)
  | "-cmin" => withArgument fun a => (isNew name a).bind fun b => test (.constant b)
  | "-maxdepth" => depth fun n => { s with most := some n }
  | "-mindepth" => depth fun n => { s with least := n }
  | "-depth" => .ok (.constant true, { s with contentsFirst := true }, rest)
  | "-d" => .ok (.constant true, { s with contentsFirst := true }, rest)
  | "-follow" => .ok (.constant true, { s with follows := true }, rest)
  | "-xdev" => plain (.constant true)
  | "-mount" => plain (.constant true)
  | "-noleaf" => plain (.constant true)
  | "-nowarn" => plain (.constant true)
  | "-warn" => plain (.constant true)
  | "-true" => plain (.constant true)
  | "-false" => plain (.constant false)
  | "-prune" => plain .prune
  | "-quit" => plain .quit
  | "-print" => action (.print "\n")
  | "-print0" => action (.print "\x00")
  | "-printf" =>
    match rest with
    | [] => missing
    | a :: rest => .ok (.format a.toList, { s with acts := true }, rest)
  | "-delete" => .ok (.delete, { s with acts := true, contentsFirst := true }, rest)
  | "-exec" => command false
  | "-execdir" => command true
  | "-ok" => command false
  | _ =>
    if name.startsWith "-" then .error s!"unknown predicate \x60{name}'"
    else .error s!"paths must precede expression: \x60{name}'"

mutual
/-- Expressions separated by commas. -/
def readList (fuel : Nat) (args : List String) (s : Scope) : Reading :=
  match fuel with
  | 0 => .error "expression is too long"
  | fuel + 1 => do
    let (a, s, rest) ← readEither fuel args s
    match rest with
    | "," :: rest => do
      let (b, s, rest) ← readList fuel rest s
      return (.then_ a b, s, rest)
    | rest => return (a, s, rest)

def readEither (fuel : Nat) (args : List String) (s : Scope) : Reading :=
  match fuel with
  | 0 => .error "expression is too long"
  | fuel + 1 => do
    let (a, s, rest) ← readBoth fuel args s
    match rest with
    | op :: more =>
      if op = "-o" || op = "-or" then
        if more.isEmpty then .error s!"expected an expression after '{op}'"
        let (b, s, rest) ← readEither fuel more s
        return (.either a b, s, rest)
      else return (a, s, rest)
    | [] => return (a, s, [])

def readBoth (fuel : Nat) (args : List String) (s : Scope) : Reading :=
  match fuel with
  | 0 => .error "expression is too long"
  | fuel + 1 => do
    let (a, s, rest) ← readOne fuel args s
    let joined (rest : List String) : Reading := do
      let (b, s, rest) ← readBoth fuel rest s
      return (.both a b, s, rest)
    match rest with
    | [] => return (a, s, [])
    | "-a" :: more =>
      if more.isEmpty then .error "expected an expression after '-a'" else joined more
    | "-and" :: more =>
      if more.isEmpty then .error "expected an expression after '-and'" else joined more
    | next :: _ =>
      if ["-o", "-or", ",", ")"].contains next then return (a, s, rest) else joined rest

def readOne (fuel : Nat) (args : List String) (s : Scope) : Reading :=
  match fuel with
  | 0 => .error "expression is too long"
  | fuel + 1 => do
    match args with
    | [] => .error "expected an expression"
    | "(" :: rest => do
      let (e, s, rest) ← readList fuel rest s
      match rest with
      | ")" :: rest => return (e, s, rest)
      | _ =>
        .error "invalid expression; I was expecting to find a ')' somewhere but did not see one."
    | op :: rest =>
      if op = "!" || op = "-not" then
        if rest.isEmpty then .error s!"expected an expression after '{op}'"
        let (e, s, rest) ← readOne fuel rest s
        return (.negation e, s, rest)
      else if ["-o", "-or", "-a", "-and", ","].contains op then
        .error (s!"invalid expression; you have used a binary operator '{op}' " ++
          "with nothing before it.")
      else readPrimary op rest s
end

/-! ### Evaluation -/

/-- A file on the way. -/
structure Visited where
  /-- How it is called, and where the way to it began. -/
  path : String
  root : String
  listed : Listed
  depth : Nat

/-- What has come out so far. -/
structure Progress where
  pruned : Bool := false
  stopped : Bool := false
  failed : Bool := false
  /-- The files for actions that are put off, the latest first. -/
  later : List (Nat × String) := []

abbrev Search := StateT Progress Act

/-- The path from where the search began. -/
def Visited.below (v : Visited) : String :=
  let rest := v.path.toList.drop v.root.length
  String.ofList (if rest.head? = some '/' then rest.drop 1 else rest)

/-- The letter of a type. -/
def Visited.kind (v : Visited) : Char := if v.listed.kind = '-' then 'f' else v.listed.kind

/-- What a letter of a format tells of a file. -/
def formatPart (t : FileTree) (v : Visited) (c : Char) : Option String :=
  match c with
  | 'p' => some v.path
  | 'f' => some (baseName v.path)
  | 'h' =>
    let cs := v.path.toList.reverse.dropWhile (· != '/')
    some (if cs.isEmpty then "." else String.ofList (cs.drop 1).reverse)
  | 'P' => some v.below
  | 'H' => some v.root
  | 'd' => some (toString v.depth)
  | 'y' => some (toString v.kind)
  | 's' => some (toString v.listed.size)
  | 'm' => some (statPart t v.listed 'a')
  | 'M' => some (statPart t v.listed 'A')
  | 'n' => some (statPart t v.listed 'h')
  | 'u' => some "root"
  | 'g' => some "root"
  | 'l' => some (v.listed.target?.getD "")
  | '%' => some "%"
  | _ => none

/-- A format filled in for a file. -/
def formatted (t : FileTree) (v : Visited) : Nat → List Char → List Char
  | 0, _ => []
  | fuel + 1, cs =>
    match cs with
    | [] => []
    | '%' :: rest =>
      let (flags, rest) := rest.span fun c => c.isDigit || c == '-'
      match rest with
      | c :: rest =>
        match formatPart t v c with
        | some text =>
          let width := Nat.ofDigitChars 10 (flags.filter Char.isDigit) 0
          let text := if flags.head? = some '-' then left width text else right width text
          text.toList ++ formatted t v fuel rest
        | none => '%' :: c :: formatted t v fuel rest
      | [] => ['%']
    | '\\' :: c :: rest =>
      match Regex.octalChar? (c :: rest) with
      | some (c, rest) => c :: formatted t v fuel rest
      | none =>
        match Regex.controlChar? c with
        | some d => d :: formatted t v fuel rest
        | none => (if c = '\\' then ['\\'] else ['\\', c]) ++ formatted t v fuel rest
    | c :: rest => c :: formatted t v fuel rest

/-- A command with the file in the place of its marks. -/
def filledIn (command : List String) (path : String) : List String :=
  command.map fun w =>
    String.ofList (substituted ['\x7b', '\x7d'] path.toList (w.length + 1) w.toList)

variable (start : Starter)

/-- Run a command; the answer is whether it succeeded. -/
def runCommand (words : List String) : Act Bool := do
  match words with
  | [] => return false
  | name :: args =>
    match ← start name args with
    | .ok f => return f == .exited 0
    | .error e =>
      warnAs "find" s!"{Quoting.text name}: {e.words}"
      return false

/-- Remove a file; the directory in which a search begins stays. -/
def deleteFile (v : Visited) : Search Bool := do
  if v.path = "." then return true
  let here := (← Act.process).here
  let removed ← Act.change fun t =>
    if v.listed.isDirectory then t.removeDirectory here v.path else t.remove here v.path
  match removed with
  | .ok () => return true
  | .error e =>
    warnAs "find" s!"cannot delete {Quoting.text v.path}: {e.words}"
    modify fun p => { p with failed := true }
    return false

def evaluate (v : Visited) : Expression → Search Bool
  | .constant b => return b
  | .name p ignoreCase => do
    let name := baseName v.path
    return matchesPattern p (if ignoreCase then name.toLower else name).toList
  | .path p ignoreCase =>
    return matchesPattern p (if ignoreCase then v.path.toLower else v.path).toList
  | .regex r ignoreCase => do
    let s := Regex.Subject.ofList { ignoreCase := ignoreCase } v.path.toList
    return (Regex.ends s r [0]).contains v.path.length
  | .kind letters => return letters.contains v.kind
  | .empty => do
    if v.listed.isDirectory then return ((← Act.world).files.names v.listed.place).isEmpty
    else return v.kind = 'f' && v.listed.size = 0
  | .size count unit => return count.holds ((v.listed.size + unit - 1) / unit)
  | .mode how bits => do
    let mode := v.listed.mode
    match how with
    | .exactly => return mode = bits
    | .all => return mode &&& bits = bits
    | .any => return bits = 0 || mode &&& bits ≠ 0
  | .runnable => return v.listed.isDirectory || FileTree.isRunnable v.listed.mode
  | .links count => do return count.holds (linkCount (← Act.world).files v.listed)
  | .print ending => do
    Act.print (v.path ++ ending)
    return true
  | .format text => do
    emit (formatted (← Act.world).files v (text.length + 1) text)
    return true
  | .delete => deleteFile v
  | .prune => do
    modify fun p => { p with pruned := true }
    return true
  | .quit => do
    modify fun p => { p with stopped := true }
    return true
  | .run command inPlace => do
    if inPlace then
      let before := (← Act.process).here
      Act.modifyProcess fun p => { p with here := v.listed.place.dropLast }
      let ok ← runCommand start (filledIn command ("./" ++ baseName v.path))
      Act.modifyProcess fun p => { p with here := before }
      return ok
    else runCommand start (filledIn command v.path)
  | .runLater index _ => do
    modify fun p => { p with later := (index, v.path) :: p.later }
    return true
  | .negation e => do return !(← evaluate v e)
  | .both a b => do if ← evaluate v a then evaluate v b else return false
  | .either a b => do if ← evaluate v a then return true else evaluate v b
  | .then_ a b => do
    discard (evaluate v a)
    evaluate v b

/-- The commands that are put off. -/
def Expression.commands : Expression → List (Nat × List String)
  | .runLater index command => [(index, command)]
  | .negation e => e.commands
  | .both a b => a.commands ++ b.commands
  | .either a b => a.commands ++ b.commands
  | .then_ a b => a.commands ++ b.commands
  | _ => []

/-- Go through a file and what is below it. -/
def walk (s : Scope) (e : Expression) : Nat → Visited → Search Unit
  | 0, _ => return
  | fuel + 1, v => do
    if (← get).stopped then return
    let own : Search Unit := do
      modify fun p => { p with pruned := false }
      if s.least ≤ v.depth && !(← get).stopped then discard (evaluate start v e)
    if !s.contentsFirst then own
    let pruned := (← get).pruned && !s.contentsFirst
    if v.listed.isDirectory && !pruned && s.most.all (v.depth < ·) then
      for n in (← Act.world).files.names v.listed.place do
        let own := v.listed.place ++ [n]
        let behind := (← Act.world).files.behind? own
        let place := if s.follows then behind.getD own else own
        if let some entry := (← Act.world).files.entry? place then
          walk s e fuel
            { v with path := Path.join v.path n, listed := ⟨n, place, entry⟩, depth := v.depth + 1 }
    if s.contentsFirst then own

/-- Go through the files below paths. -/
def search (s : Scope) (e : Expression) (paths : List String) : Search Unit := do
  for path in paths do
    match ← placeBy s.follows path with
    | .error err =>
      warnAs "find" s!"{Quoting.text path}: {err.words}"
      modify fun p => { p with failed := true }
    | .ok place =>
      let t := (← Act.world).files
      if path.endsWith "/" && t.isFile place then
        warnAs "find" s!"{Quoting.text path}: Not a directory"
        modify fun p => { p with failed := true }
      else if let some entry := t.entry? place then
        walk start s e (t.entries.length + 2)
          { path := path, root := path, listed := ⟨path, place, entry⟩, depth := 0 }
  for (index, command) in e.commands do
    let found := (← get).later.reverse.filterMap fun (i, path) =>
      if i = index then some path else none
    if !found.isEmpty then
      if !(← runCommand start (command ++ found)) then
        modify fun p => { p with failed := true }

end Find

/-- Find files below directories. -/
def find (start : Starter) : Tool := fun args => do
  let follows := args.contains "-L"
  let args := args.filter fun a => !(["-L", "-P", "-H", "-O1", "-O2", "-O3"].contains a)
  let isPath (a : String) : Bool := !a.startsWith "-" && !(["(", ")", "!", ","].contains a)
  let paths := args.takeWhile isPath
  let rest := args.drop paths.length
  let paths := if paths.isEmpty then ["."] else paths
  let read : Find.Reading :=
    if rest.isEmpty then .ok (.constant true, {}, [])
    else Find.readList (4 * rest.length + 8) rest {}
  match read with
  | .error text => fail "find" text
  | .ok (_, _, _ :: _) => fail "find" "you have too many ')'"
  | .ok (e, s, []) => do
    let e := if s.acts then e else .both e (.print "\n")
    let s := { s with follows := s.follows || follows }
    let (_, progress) ← (Find.search start s e paths).run {}
    return if progress.failed then 1 else 0

end PatchTrial.Shell.Tools
