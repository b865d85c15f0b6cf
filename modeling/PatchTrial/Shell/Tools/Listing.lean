import PatchTrial.Shell.Pattern
import PatchTrial.Shell.Tools.Files

/-!
Tools that tell about files: their names, their sizes and where they are.
-/
namespace PatchTrial.Shell.Tools

open Quoting (always ifNeeded)

/-! ### Listings -/

/-- Something that is listed. -/
structure Listed where
  name : String
  place : FileTree.Place
  entry : FileTree.Entry

namespace Listed

def isDirectory (l : Listed) : Bool :=
  match l.entry with
  | .directory => true
  | _ => false

/-- The letter that says what a thing is. -/
def kind (l : Listed) : Char :=
  match l.entry with
  | .directory => 'd'
  | .file .. => '-'
  | .link _ => 'l'
  | .device => 'c'

/-- The path of a link. -/
def target? (l : Listed) : Option String :=
  match l.entry with
  | .link target => some target
  | _ => none

/-- The size of a directory is that of a block. -/
def size (l : Listed) : Nat :=
  match l.entry with
  | .directory => 4096
  | .file content .. => content.size
  | .link target => target.length
  | .device => 0

/-- The size in blocks of 1024 bytes, of which four are taken at a time, but none by a link. -/
def blocks (l : Listed) : Nat := if l.kind = 'l' then 0 else (l.size + 4095) / 4096 * 4

def mode (l : Listed) : Nat :=
  match l.entry with
  | .directory => 0o755
  | .file _ mode _ => mode
  | .link _ => 0o777
  | .device => 0o666

/-- The mark that shows what a thing is. -/
def mark (o : Options) (l : Listed) : String :=
  if l.isDirectory then (if o.has "F" || o.has "p" then "/" else "")
  else if o.has "F" && l.kind = 'l' then "@"
  else if o.has "F" && FileTree.isRunnable l.mode then "*" else ""

/-- What a name ends with after its last dot. -/
def extension (l : Listed) : String :=
  match (l.name.splitOn ".").reverse with
  | last :: _ :: _ => last
  | _ => ""

end Listed

/-- The number of directories that are in a directory, and of itself under its two names; or that
of the names of a file. -/
def linkCount (t : FileTree) (l : Listed) : Nat :=
  if l.isDirectory then
    2 + ((t.names l.place).filter fun n => t.isDirectory (l.place ++ [n])).length
  else max 1 (t.entries.countP fun x => x.2.isNameOf l.entry)

/-- A size with at most three digits and a letter, rounded up. -/
def humanSize (n : Nat) : String :=
  if n < 1024 then toString n
  else
    let units := ["K", "M", "G", "T", "P", "E"]
    let rec go : List String → Nat → String
      | [], _ => toString n
      | u :: us, scale =>
        let tenths := (n * 10 + scale - 1) / scale
        if tenths < 100 then s!"{tenths / 10}.{tenths % 10}{u}"
        else
          let whole := (n + scale - 1) / scale
          if whole < 1024 then s!"{whole}{u}" else go us (scale * 1024)
    go units 1024

/-- Texts brought to one width. -/
def alignRight (texts : List String) : List String :=
  let width := texts.foldl (fun w t => max w t.length) 0
  texts.map (right width)

/-- How a name is shown. -/
def listedName (o : Options) (l : Listed) : String :=
  let name := match o.value? "quoting-style" with
    | some "shell" => ifNeeded l.name
    | some "shell-always" => always l.name
    | _ => l.name
  let name := if o.has "Q" then "\"" ++ name ++ "\""
    else if o.has "b" then name.replace " " "\\ "
    else if o.has "q" then name.map fun c => if Quoting.isPrintable c then c else '?'
    else name
  name ++ l.mark o

/-- The time at which all files were last changed. -/
def changedAt (o : Options) : String :=
  if o.has "full-time" then "1970-01-01 00:00:00.000000000 +0000" else "Jan  1  1970"

/-- The lines of a listing with all details. -/
def longLines (o : Options) (t : FileTree) (ls : List Listed) : List String :=
  let sizeText (l : Listed) : String := if o.has "h" then humanSize l.size else toString l.size
  let owner := if o.has "n" then "0" else "root"
  let owners := (if o.has "g" then "" else owner ++ " ") ++
    (if o.has "o" || o.has "G" then "" else owner ++ " ")
  let links := alignRight (ls.map fun l => toString (linkCount t l))
  let sizes := alignRight (ls.map sizeText)
  let blocks := alignRight (ls.map fun l => toString l.blocks)
  (ls.zip (links.zip (sizes.zip blocks))).map fun (l, links, size, blocks) =>
    let name := match l.target? with
      | some target =>
        listedName { o with given := o.given.filter (·.1 != "F") } l ++ " -> " ++ target
      | none => listedName o l
    (if o.has "s" then blocks ++ " " else "") ++ toString l.kind ++ modeText l.mode ++
      s!" {links} {owners}{size} {changedAt o} {name}"

/-- Blanks and tabs from one column to another. -/
def indentation : Nat → Nat → Nat → String
  | 0, _, _ => ""
  | fuel + 1, column, target =>
    if target ≤ column then ""
    else if (column + 1) / 8 < target / 8 then
      "\t" ++ indentation fuel (column + 8 - column % 8) target
    else " " ++ indentation fuel (column + 1) target

/-- Texts in as many columns as fit into a width. -/
def inColumns (width : Nat) (across : Bool) (texts : List String) : List String :=
  let n := texts.length
  let widths (columns : Nat) : List Nat :=
    let rows := (n + columns - 1) / columns
    (List.range columns).map fun c =>
      let own := texts.zipIdx.filterMap fun (t, i) =>
        if (if across then i % columns else i / rows) = c then some (t.length + 2) else none
      own.foldl max 0
  let fits (columns : Nat) : Bool :=
    let ws := widths columns
    let last := ws.getLast?.getD 0
    (ws.dropLast.foldl (· + ·) 0) + (last - 2) < width && ws.all (· != 0)
  let candidates := (List.range (max 1 (min n (width / 3)))).map (· + 1)
  let columns := (candidates.reverse.find? fits).getD 1
  let rows := (n + columns - 1) / columns
  let ws := widths columns
  (List.range rows).map fun r =>
    let line := (List.range columns).filterMap fun c =>
      (texts[if across then r * columns + c else c * rows + r]?).map (·, c)
    (line.foldl (fun (s : String × Nat) (t, c) =>
      let start := (ws.take c).foldl (· + ·) 0
      (s.1 ++ indentation 200 s.2 start ++ t, start + t.length)) ("", 0)).1

/-- Names in lines that are filled up to a width, with commas between them. -/
def withCommas (width : Nat) (texts : List String) : List String :=
  let last := texts.length - 1
  let (lines, line) := texts.zipIdx.foldl (fun (s : List String × String) (t, i) =>
    let t := if i = last then t else t ++ ","
    if s.2.isEmpty then (s.1, t)
    else if s.2.length + 1 + t.length < width then (s.1, s.2 ++ " " ++ t)
    else (s.1 ++ [s.2], t)) ([], "")
  if line.isEmpty then lines else lines ++ [line]

/-- The format of a listing that was asked for last. -/
def isLong (o : Options) : Bool :=
  match o.last? ["l", "n", "g", "o", "1", "C", "x", "m", "full-time"] with
  | some key => ["l", "n", "g", "o", "full-time"].contains key ||
      (key = "1" && ["l", "n", "g", "o"].any o.has)
  | none => false

/-- The lines of a listing. -/
def listingLines (o : Options) (t : FileTree) (ls : List Listed) : List String :=
  if isLong o then longLines o t ls
  else
    let names := ls.map (listedName o)
    let names := if o.has "s" then
        List.zipWith (fun b n => s!"{b} {n}") (alignRight (ls.map fun l => toString l.blocks)) names
      else names
    let width := ((o.value? "w").bind natural?).getD 80
    match o.last? ["1", "C", "x", "m"] with
    | some "C" => inColumns width false names
    | some "x" => inColumns width true names
    | some "m" => withCommas width names
    | _ => names

/-- Things in the order that was asked for. -/
def ordered (o : Options) (ls : List Listed) : List Listed :=
  let byName (a b : Listed) : Bool := decide (a.name ≤ b.name)
  if o.has "U" || o.has "f" then ls
  else
    let sorted := match o.last? ["S", "X", "v", "sort"] with
      | some "S" => ls.mergeSort fun a b => b.size < a.size || (a.size = b.size && byName a b)
      | some "X" => ls.mergeSort fun a b =>
        decide (a.extension < b.extension) || (a.extension = b.extension && byName a b)
      | some "sort" =>
        if o.value? "sort" = some "size" then
          ls.mergeSort fun a b => b.size < a.size || (a.size = b.size && byName a b)
        else ls.mergeSort byName
      | _ => ls.mergeSort byName
    let sorted := if o.has "r" then sorted.reverse else sorted
    if o.has "group-directories-first" then
      sorted.filter (·.isDirectory) ++ sorted.filter (!·.isDirectory)
    else sorted

/-- Whether a name is left out of the listing of a directory. -/
def isHidden (o : Options) (name : String) : Bool :=
  let fits (p : String) : Bool := matchesPattern (p.toList.map (·, false)) name.toList
  let all := o.has "a" || o.has "f" || o.has "A"
  (name.startsWith "." && !all) || (o.values "I").any fits ||
    (!all && (o.values "hide").any fits) || (o.has "B" && name.endsWith "~")

/-- What is in a directory. -/
def contents (o : Options) (t : FileTree) (place : FileTree.Place) : List Listed :=
  let dots := if o.has "a" || o.has "f" then
      [⟨".", place, .directory⟩, ⟨"..", place.dropLast, .directory⟩] else []
  let found := (t.names place).filterMap fun n =>
    let own := place ++ [n]
    let p := if o.has "L" then (t.behind? own).getD own else own
    if isHidden o n then none else ((t.entry? p).or (t.entry? own)).map fun e => ⟨n, p, e⟩
  ordered o (dots ++ found)

/-- A directory with what is in it and, if that is asked for, those below it. -/
def directoryListing (o : Options) (t : FileTree) :
    Nat → Bool → String → FileTree.Place → List (List String)
  | 0, _, _, _ => []
  | fuel + 1, titled, path, place =>
    let found := contents o t place
    let total := if isLong o || o.has "s" then
        let n := found.foldl (fun n l => n + l.blocks) 0
        ["total " ++ (if o.has "h" then humanSize (n * 1024) else toString n)]
      else []
    let own := (if titled then [path ++ ":"] else []) ++ total ++ listingLines o t found
    let below := if o.has "R" then
        (found.filter fun l => l.isDirectory && l.name != "." && l.name != "..").flatMap fun l =>
          directoryListing o t fuel true (Path.join path l.name) l.place
      else []
    own :: below

def ls : Tool := fun args =>
  withOptions "ls"
    ("a|all A|almost-all b|escape B|ignore-backups c C d|directory f F|classify? g G|no-group " ++
      "h|human-readable H i|inode I|ignore: k|kibibytes l L|dereference m n|numeric-uid-gid " ++
      "N|literal o p|indicator-style? q|hide-control-chars Q|quote-name r|reverse R|recursive " ++
      "s|size S sort: t T|tabsize: time: time-style: u U v w|width: x X Z 1 author block-size: " ++
      "color? file-type format: full-time group-directories-first hide: quoting-style: " ++
      "show-control-chars si zero")
    args (fun o => do
      if let some width := o.value? "w" then
        if (natural? width).isNone then
          discard (fail "ls" s!"invalid line width: {Quoting.text width}")
          return 2
      let t := (← Act.world).files
      let mut status := 0
      let mut found : List Listed := []
      for path in if o.operands.isEmpty then ["."] else o.operands do
        -- a link is listed itself, unless it leads to a directory of which the names are wanted
        let behind ← placeOf path
        let wantsNames : Bool := match behind with
          | .ok place => t.isDirectory place && !(isLong o || o.has "d" || o.has "F")
          | .error _ => false
        match ← if wantsNames || o.has "L" || o.has "H" then pure behind else placeNamed path with
        | .error e =>
          discard (fail "ls" s!"cannot access {always path}: {e.words}")
          status := 2
        | .ok place =>
          let slashed := path.endsWith "/" && t.isFile place
          if slashed then
            discard (fail "ls" s!"cannot access {always path}: Not a directory")
            status := 2
          else if let some e := t.entry? place then found := found ++ [⟨path, place, e⟩]
      let isOwn (l : Listed) : Bool := !l.isDirectory || o.has "d"
      let own := ordered o (found.filter isOwn)
      let directories := ordered o (found.filter fun l => !isOwn l)
      let titled := 1 < o.operands.length || o.has "R"
      let parts := (if own.isEmpty then [] else [listingLines o t own]) ++
        directories.flatMap fun l =>
          directoryListing o t (t.entries.length + 1) titled l.name l.place
      Act.print ("\n".intercalate (parts.map fun lines => String.join (lines.map (· ++ "\n"))))
      return status) 2

/-! ### Names -/

/-- A text without an end, unless nothing else is in it. -/
def withoutSuffix (suffix name : String) : String :=
  if name != suffix && name.endsWith suffix then (name.dropEnd suffix.length).toString else name

def basename : Tool := fun args =>
  withOptions "basename" "a|multiple s|suffix: z|zero" args (fun o => do
    let ending := if o.has "z" then "\x00" else "\n"
    let several := o.has "a" || o.has "s"
    match o.operands with
    | [] => misuse "basename" "missing operand"
    | paths =>
      if several then
        let suffix := (o.value? "s").getD ""
        for path in paths do
          Act.print (withoutSuffix suffix (baseName path) ++ ending)
        return 0
      else
        match paths with
        | _ :: _ :: extra :: _ => misuse "basename" s!"extra operand {Quoting.text extra}"
        | path :: rest =>
          Act.print (withoutSuffix (rest.headD "") (baseName path) ++ ending)
          return 0
        | [] => return 0) 1 true

def dirname : Tool := fun args =>
  withOptions "dirname" "z|zero" args (fun o => do
    if o.operands.isEmpty then misuse "dirname" "missing operand"
    else
      for path in o.operands do
        Act.print (directoryName path ++ (if o.has "z" then "\x00" else "\n"))
      return 0) 1 true

/-! ### Places -/

/-- How much of a path has to be there. -/
inductive Presence where
  | all
  | allButLast
  | nothing
  deriving DecidableEq, Repr

/-- The place that a path leads to, where not all of it need be there. -/
def resolve (t : FileTree) (here : FileTree.Place) (needs : Presence) (path : String) :
    Except OsError FileTree.Place :=
  let start := if Path.isAbsolute path then [] else here
  let lexical := (Path.parts path).foldl (fun (p : FileTree.Place) c =>
    if c = "" || c = "." then p else if c = ".." then p.dropLast else p ++ [c]) start
  if path.isEmpty then .error .notFound
  else
    match needs with
    | .nothing => .ok ((t.follow here path).toOption.getD lexical)
    | .allButLast => do
      let p ← t.follow here (Path.withoutSlashes path)
      if path.endsWith "/" && t.isFile p then .error .notDirectory else return p
    | .all => do
      let p ← t.follow here path
      if (t.entry? p).isSome then return p else .error .notFound

/-- A place as it is seen from another one. -/
def relativeTo (base place : FileTree.Place) : String :=
  let shared := ((base.zip place).takeWhile fun (a, b) => a = b).length
  let names := List.replicate (base.length - shared) ".." ++ place.drop shared
  if names.isEmpty then "." else "/".intercalate names

def realpath : Tool := fun args =>
  withOptions "realpath"
    ("e|canonicalize-existing m|canonicalize-missing L|logical P|physical q|quiet " ++
      "relative-to: relative-base: s|strip|no-symlinks z|zero")
    args fun o => do
      if o.operands.isEmpty then misuse "realpath" "missing operand"
      else
        let needs : Presence := match o.last? ["e", "m"] with
          | some "e" => .all
          | some _ => .nothing
          | none => .allButLast
        let p ← Act.process
        let t := (← Act.world).files
        forOperands o.operands fun path => do
          match resolve t p.here needs path with
          | .error e =>
            if o.has "q" then return 1 else fail "realpath" s!"{path}: {e.words}"
          | .ok place =>
            let base := (o.value? "relative-to").bind fun b =>
              (resolve t p.here .nothing b).toOption
            let text := match base with
              | some base => relativeTo base place
              | none => FileTree.textOf place
            Act.print (text ++ (if o.has "z" then "\x00" else "\n"))
            return 0

def readlink : Tool := fun args =>
  withOptions "readlink"
    ("f|canonicalize e|canonicalize-existing m|canonicalize-missing n|no-newline q|quiet " ++
      "s|silent v|verbose z|zero")
    args fun o => do
      if o.operands.isEmpty then misuse "readlink" "missing operand"
      else
        let p ← Act.process
        let t := (← Act.world).files
        forOperands o.operands fun path => do
          let found : Except OsError String := match o.last? ["f", "e", "m"] with
            | some "f" => (resolve t p.here .allButLast path).map FileTree.textOf
            | some "e" => (resolve t p.here .all path).map FileTree.textOf
            | some _ => (resolve t p.here .nothing path).map FileTree.textOf
            | none => do
              match t.entry? (← t.locate p.here path) with
              | some (.link target) => return target
              | some _ => .error .invalidArgument
              | none => .error .notFound
          match found with
          | .error e => if o.has "v" then fail "readlink" s!"{path}: {e.words}" else return 1
          | .ok text =>
            let ending := if o.has "n" then "" else if o.has "z" then "\x00" else "\n"
            Act.print (text ++ ending)
            return 0

/-- What a letter of a format tells of a thing. -/
def statPart (t : FileTree) (l : Listed) (c : Char) : String :=
  match c with
  | 'n' => l.name
  | 'N' => always l.name ++ (l.target?.map fun target => " -> " ++ always target).getD ""
  | 's' => toString l.size
  | 'F' => match l.kind with
    | 'd' => "directory"
    | 'l' => "symbolic link"
    | 'c' => "character special file"
    | _ => if l.size = 0 then "regular empty file" else "regular file"
  | 'a' => String.ofList (Nat.toDigits 8 l.mode)
  | 'A' => toString l.kind ++ modeText l.mode
  | 'f' =>
    let bits := ([('d', 0o40000), ('l', 0o120000), ('c', 0o20000)].lookup l.kind).getD 0o100000
    String.ofList (Nat.toDigits 16 (bits + l.mode))
  | 'h' => toString (linkCount t l)
  | 'U' => "root"
  | 'G' => "root"
  | 'u' => "0"
  | 'g' => "0"
  | 'b' => toString (l.blocks * 2)
  | 'B' => "512"
  | 'o' => "4096"
  | '%' => "%"
  | _ => "0"

/-- A format with its parts filled in; escapes count where they are asked for. -/
def statText (t : FileTree) (l : Listed) (escapes : Bool) : Nat → List Char → List Char
  | 0, _ => []
  | fuel + 1, cs =>
    match cs with
    | [] => []
    | '%' :: rest =>
      let (flags, rest) := rest.span fun c => c.isDigit || c == '-' || c == '.'
      match rest with
      | c :: rest =>
        let text := statPart t l c
        let width := Nat.ofDigitChars 10 (flags.filter Char.isDigit) 0
        let text := if flags.head? = some '-' then left width text else right width text
        text.toList ++ statText t l escapes fuel rest
      | [] => ['%']
    | '\\' :: c :: rest =>
      if escapes then
        match [('n', '\n'), ('t', '\t'), ('\\', '\\')].lookup c with
        | some c => c :: statText t l escapes fuel rest
        | none => c :: statText t l escapes fuel rest
      else '\\' :: statText t l escapes fuel (c :: rest)
    | c :: rest => c :: statText t l escapes fuel rest

def stat : Tool := fun args =>
  withOptions "stat" "c|format: printf: L|dereference f|file-system t|terse cached:" args
    fun o => do
    if o.operands.isEmpty then misuse "stat" "missing operand"
    else
      let t := (← Act.world).files
      forOperands o.operands fun path => do
        match ← placeBy (o.has "L") path with
        | .error e => fail "stat" s!"cannot statx {always path}: {e.words}"
        | .ok place =>
          let l : Listed := ⟨path, place, (t.entry? place).getD .directory⟩
          match o.value? "printf", o.value? "c" with
          | some format, _ =>
            emit (statText t l true (format.length + 1) format.toList)
          | none, some format =>
            emit (statText t l false (format.length + 1) format.toList ++ ['\n'])
          | none, none =>
            emit (statText t l true 400 ("  File: %n\\n  Size: %-10s\tBlocks: %-10b " ++
              "IO Block: %-6o %F\\n").toList)
          return 0

end PatchTrial.Shell.Tools
