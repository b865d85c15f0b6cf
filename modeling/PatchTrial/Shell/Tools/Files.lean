import PatchTrial.Shell.Tools.Modes
import PatchTrial.Shell.Tools.Options

/-!
Tools that make, move, copy and remove files.
-/
namespace PatchTrial.Shell.Tools

open Quoting (always)

/-- The last component of a path. -/
def baseName (path : String) : String :=
  let stripped := path.toList.reverse.dropWhile (· == '/')
  if stripped.isEmpty then (if path.isEmpty then "" else "/")
  else String.ofList (stripped.takeWhile (· != '/')).reverse

/-- The path without its last component. -/
def directoryName (path : String) : String :=
  let stripped := path.toList.reverse.dropWhile (· == '/')
  let up := (stripped.dropWhile (· != '/')).dropWhile (· == '/')
  if !up.isEmpty then String.ofList up.reverse else if path.startsWith "/" then "/" else "."

/-- The entry that a path leads to, or that of a link if it is one. -/
def entryBy (follows : Bool) (path : String) : Act (Option FileTree.Entry) := do
  let t := (← Act.world).files
  match t.lead follows (← Act.process).here path with
  | .ok p => return t.entry? p
  | .error _ => return none

/-- The entry that a path leads to. -/
def entryAt (path : String) : Act (Option FileTree.Entry) := entryBy true path

/-- The place that a path leads to, or that of a link if it is one, if something is there. A path
that ends with a slash leads to a directory. -/
def placeBy (follows : Bool) (path : String) : Act (Except OsError FileTree.Place) := do
  let t := (← Act.world).files
  match t.lead follows (← Act.process).here path with
  | .error e => return .error e
  | .ok p => return if (t.entry? p).isSome then .ok p else .error .notFound

/-- The place that a path leads to. -/
def placeOf (path : String) : Act (Except OsError FileTree.Place) := placeBy true path

/-- The place that a path names. -/
def placeNamed (path : String) : Act (Except OsError FileTree.Place) := placeBy false path

/-- The place of the directory that a path leads to. -/
def directoryAt (path : String) : Act (Except OsError FileTree.Place) := do
  match ← placeOf path with
  | .error e => return .error e
  | .ok p => return if (← Act.world).files.isDirectory p then .ok p else .error .notDirectory

/-- Change the files, or complain. -/
def changeFiles (tool complaint : String) (op : FileTree → Except OsError FileTree) : Act Nat := do
  match ← Act.change op with
  | .ok () => return 0
  | .error e => fail tool s!"{complaint}: {e.words}"

/-! ### Removing -/

/-- All that is below a place, the deepest first, with the path from there. -/
def contentsOf (t : FileTree) (p : FileTree.Place) : List (FileTree.Place × FileTree.Entry) :=
  (t.below p).mergeSort fun a b =>
    let (inner, outer) := (b.1.isPrefixOf a.1, a.1.isPrefixOf b.1)
    if inner then true else if outer then false else FileTree.inOrder a.1 b.1

/-- Tell what was removed. -/
def tellRemoved (isDirectory : Bool) (path : String) : Act Unit :=
  Act.print ((if isDirectory then "removed directory " else "removed ") ++ always path ++ "\n")

def removeOne (o : Options) (path : String) : Act Nat := do
  let here := (← Act.process).here
  let complaint := s!"cannot remove {always path}"
  let tell (isDirectory : Bool) (path : String) : Act Unit :=
    if o.has "v" then tellRemoved isDirectory path else return
  match ← placeNamed path with
  | .error e =>
    if o.has "f" && (e = .notFound || e = .notDirectory) then return 0
    else fail "rm" s!"{complaint}: {e.words}"
  | .ok p =>
    let t := (← Act.world).files
    if t.isDirectory p then
      if o.has "r" then
        if baseName path = "." || baseName path = ".." then
          fail "rm" s!"refusing to remove '.' or '..' directory: skipping {always path}"
        else if p.isEmpty then
          discard (fail "rm" "it is dangerous to operate recursively on '/'")
          fail "rm" "use --no-preserve-root to override this failsafe"
        else
          for (q, e) in contentsOf t p do
            let isDirectory : Bool := match e with
              | .directory => true
              | _ => false
            tell isDirectory (Path.join path ("/".intercalate (q.drop p.length)))
          Act.perform (.files (·.cut p))
          tell true path
          return 0
      else if o.has "d" then do
        let s ← changeFiles "rm" complaint fun t => t.removeDirectory here path
        if s = 0 then tell true path
        return s
      else fail "rm" s!"{complaint}: Is a directory"
    else
      let s ← changeFiles "rm" complaint fun t => t.remove here path
      if s = 0 then tell false path
      return s

def rm : Tool := fun args =>
  withOptions "rm"
    ("f|force r|R|recursive d|dir v|verbose i I interactive? one-file-system " ++
      "no-preserve-root preserve-root?") args fun o => do
      if o.operands.isEmpty then
        if o.has "f" then return 0 else misuse "rm" "missing operand"
      else forOperands o.operands (removeOne o)

/-- A path and those above it, as long as they name something. -/
def ancestors : Nat → String → List String
  | 0, _ => []
  | fuel + 1, path =>
    let up := directoryName path
    path :: (if up = "." || up = "/" || up = path then [] else ancestors fuel up)

def rmdir : Tool := fun args =>
  withOptions "rmdir" "p|parents v|verbose ignore-fail-on-non-empty" args fun o => do
    if o.operands.isEmpty then misuse "rmdir" "missing operand"
    else
      let here := (← Act.process).here
      forOperands o.operands fun operand => do
        let mut status := 0
        for path in if o.has "p" then ancestors operand.length operand else [operand] do
          if status = 0 then
            if o.has "v" then Act.print s!"rmdir: removing directory, {always path}\n"
            match ← Act.change fun t => t.removeDirectory here path with
            | .ok () => pure ()
            | .error e =>
              if e = .notEmpty && o.has "ignore-fail-on-non-empty" then return 0
              let what := if path = operand then "" else "directory "
              status ← fail "rmdir" s!"failed to remove {what}{always path}: {e.words}"
        return status

/-! ### Making -/

/-- The first part of a path at which there is a file, so that nothing can be made below it. -/
def blockedBy? (t : FileTree) (here : FileTree.Place) (path : String) : Option String :=
  let parts := Path.parts path
  let starts := (List.range parts.length).map fun n => "/".intercalate (parts.take n)
  starts.find? fun start =>
    !start.isEmpty && (match t.follow here start with
      | .ok p => t.isFile p
      | .error _ => false)

/-- Make a directory and those above it that are missing. -/
def makeWithParents (o : Options) (path : String) : Act Nat := do
  let here := (← Act.process).here
  let before := (← Act.world).files
  let named := (blockedBy? before here path).getD path
  let (error, _) := before.createAll here path
  Act.perform (.files fun t => (t.createAll here path).2)
  if o.has "v" then
    for made in (ancestors path.length path).reverse do
      if !before.leadsToDirectory here made && (← Act.world).files.leadsToDirectory here made then
        Act.print s!"mkdir: created directory {always made}\n"
  match error with
  | none => return 0
  | some e => fail "mkdir" s!"cannot create directory {always named}: {e.words}"

def mkdir : Tool := fun args =>
  withOptions "mkdir" "p|parents m|mode: v|verbose Z" args fun o => do
    let badMode := (o.value? "m").filter fun mode => (modeChange? 0 mode).isNone
    if o.operands.isEmpty then misuse "mkdir" "missing operand"
    else if let some mode := badMode then fail "mkdir" s!"invalid mode {Quoting.text mode}"
    else
      let here := (← Act.process).here
      forOperands o.operands fun path => do
        if o.has "p" && !path.isEmpty then makeWithParents o path
        else
          let s ← changeFiles "mkdir" s!"cannot create directory {always path}" fun t =>
            t.makeDirectory here path
          if s = 0 && o.has "v" then Act.print s!"mkdir: created directory {always path}\n"
          return s

def touch : Tool := fun args =>
  withOptions "touch" "a c|no-create d|date: f m r|reference: t: h|no-dereference time:" args
    fun o => do
      if o.operands.isEmpty then misuse "touch" "missing file operand"
      else
        let here := (← Act.process).here
        if let some model := o.value? "r" then
          if let .error e ← placeOf model then
            return ← fail "touch" s!"failed to get attributes of {always model}: {e.words}"
        forOperands o.operands fun path => do
          match ← entryAt path with
          | some _ => return 0
          | none =>
            if o.has "c" || path = "-" then return 0
            else
              changeFiles "touch" s!"cannot touch {always path}" fun t => t.write here path .empty

/-- Cut files off at a size, or fill them up to it. -/
def truncate : Tool := fun args =>
  withOptions "truncate" "s|size: c|no-create o|io-blocks r|reference:" args fun o => do
    let here := (← Act.process).here
    let sizeOf (path : String) : Act Nat := do
      match ← entryAt path with
      | some (.file content ..) => return content.size
      | _ => return 0
    if let some model := o.value? "r" then
      if let .error e ← placeOf model then
        return ← fail "truncate" s!"cannot stat {always model}: {e.words}"
    let wanted : Option (Nat → Nat) ← match o.value? "s", o.value? "r" with
      | none, none => pure none
      | none, some model => do
        let n ← sizeOf model
        pure (some fun _ => n)
      | some text, _ =>
        let amount (cs : List Char) : Option Nat := size? (String.ofList cs)
        pure (match text.toList with
          | '+' :: cs => (amount cs).map fun n old => old + n
          | '-' :: cs => (amount cs).map fun n old => old - n
          | '<' :: cs => (amount cs).map fun n old => min old n
          | '>' :: cs => (amount cs).map fun n old => max old n
          | '/' :: cs => (amount cs).map fun n old => old / n * n
          | '%' :: cs => (amount cs).map fun n old => (old + n - 1) / n * n
          | cs => (amount cs).map fun n _ => n)
    match wanted with
    | none =>
      match o.value? "s" with
      | some text => fail "truncate" s!"Invalid number: {Quoting.text text}"
      | none => misuse "truncate" "you must specify either '--size' or '--reference'"
    | some newSize =>
      if o.operands.isEmpty then misuse "truncate" "missing file operand"
      else forOperands o.operands fun path => do
        match ← entryAt path with
        | none =>
          if o.has "c" then return 0
        | _ => pure ()
        let old ← match ← entryAt path with
          | some (.file content ..) => pure content
          | _ => pure .empty
        let n := newSize old.size
        let content := if n ≤ old.size then old.extract 0 n
          else old ++ ⟨(List.replicate (n - old.size) (0 : UInt8)).toArray⟩
        changeFiles "truncate" s!"cannot open {always path} for writing" fun t =>
          t.write here path content

/-! ### Copying and moving -/

/-- Put a copy of all that is at one place to another place. What is written to a device is not
kept, and nothing is read from one. -/
def copyTree (source target : FileTree.Place) (t : FileTree) : FileTree :=
  (t.entries.filter fun x => source.isPrefixOf x.1).foldl (fun s x =>
    let place := target ++ x.1.drop source.length
    let copy : FileTree.Entry := match x.2 with
      | .file content mode _ => .file content mode
      | .device => .file .empty FileTree.plainMode
      | e => e
    match copy, s.entry? place with
    | .file content .., some (.file _ mode number) => s.put place (.file content mode number)
    | .file .., some .device => s
    | .directory, some .directory => s
    | e, _ => s.put place e) t

/-- Tell of a copy and all that is in it. -/
def tellCopied (p : FileTree.Place) (source wanted : String) : Act Unit := do
  Act.print s!"{always source} -> {always wanted}\n"
  for (q, _) in (← Act.world).files.below p do
    let rest := "/".intercalate (q.drop p.length)
    Act.print s!"{always (Path.join source rest)} -> {always (Path.join wanted rest)}\n"

/-- Copy or move one thing to a path. A link is moved itself; it is copied itself if that is asked
for or if all that is below it is to be copied. -/
def transfer (tool : String) (o : Options) (moves : Bool) (source wanted : String) : Act Nat := do
  let here := (← Act.process).here
  let follows := !moves && (o.has "L" || !(o.has "r" || o.has "P" || o.has "d"))
  match ← placeBy follows source with
  | .error e => fail tool s!"cannot stat {always source}: {e.words}"
  | .ok p => do
    let t := (← Act.world).files
    if t.isDirectory p && !moves && !o.has "r" then
      fail tool s!"-r not specified; omitting directory {always source}"
    else
      let asLink := moves || (t.entry? p matches some (.link _))
      let target := t.lead (!asLink) here wanted
      let placed := if t.isDirectory p then t.lead (!asLink) here (Path.withoutSlashes wanted)
        else target
      if target matches .error .notDirectory then
        return ← fail tool s!"cannot stat {always wanted}: {OsError.notDirectory.words}"
      match placed with
      | .error e =>
        if moves && wanted.endsWith "/" && e = .notFound then
          fail tool s!"cannot move {always source} to {always wanted}: Not a directory"
        else if moves then fail tool s!"cannot move {always source} to {always wanted}: {e.words}"
        else if t.isDirectory p then
          fail tool s!"cannot create directory {always wanted}: {e.words}"
        else if wanted.endsWith "/" && e = .notFound then
          fail tool s!"cannot create regular file {always wanted}: Not a directory"
        else fail tool s!"cannot create regular file {always wanted}: {e.words}"
      | .ok q =>
        let taken := (t.entry? q).isSome
        if taken && (o.last? ["n", "f", "i"] = some "n") then return 0
        else if t.isDirectory p && p.isPrefixOf q && p != q then
          if moves then
            fail tool s!"cannot move {always source} to a subdirectory of itself, {always wanted}"
          else
            fail tool s!"cannot copy a directory, {always source}, into itself, {always wanted}"
        else if t.isSameFile p q then
          fail tool s!"{always source} and {always wanted} are the same file"
        else if t.isDirectory p && t.isFile q then
          fail tool
            s!"cannot overwrite non-directory {always wanted} with directory {always source}"
        else if !t.isDirectory p && t.isDirectory q then
          if moves then
            fail tool
              s!"cannot overwrite directory {always wanted} with non-directory {always source}"
          else fail tool s!"cannot overwrite directory {always wanted} with non-directory"
        else if moves && t.isDirectory q && !(t.names q).isEmpty then
          fail tool s!"cannot move {always source} to {always wanted}: Directory not empty"
        else if moves then do
          Act.perform (.files (·.move p q))
          if o.has "v" then Act.print s!"renamed {always source} -> {always wanted}\n"
          return 0
        else do
          if o.has "v" then tellCopied p source wanted
          Act.perform (.files (copyTree p q))
          return 0

/-- Copy or move each of some things into a directory. -/
def transferInto (tool : String) (o : Options) (moves : Bool) (directory : String)
    (sources : List String) : Act Nat :=
  forOperands sources fun source =>
    let name := if o.has "parents" then source else baseName source
    transfer tool o moves source (Path.join directory name)

def transferAll (tool : String) (moves : Bool) (forms : String) : Tool := fun args =>
  withOptions tool forms args fun o => do
    match o.value? "t", o.operands.reverse with
    | some directory, sources =>
      if sources.isEmpty then misuse tool "missing file operand"
      else
        match ← directoryAt directory with
        | .ok _ => transferInto tool o moves directory sources.reverse
        | .error e => fail tool s!"target directory {always directory}: {e.words}"
    | none, [] => misuse tool "missing file operand"
    | none, [only] => misuse tool s!"missing destination file operand after {always only}"
    | none, [target, source] =>
      match ← entryAt target with
      | some .directory =>
        if o.has "T" then transfer tool o moves source target
        else transferInto tool o moves target [source]
      | _ => transfer tool o moves source target
    | none, target :: sources =>
      if o.has "T" then misuse tool s!"extra operand {always target}"
      else
        match ← directoryAt target with
        | .ok _ => transferInto tool o moves target sources.reverse
        | .error e => fail tool s!"target {always target}: {e.words}"

def cp : Tool := transferAll "cp" false
  ("r|R|recursive|a|archive f|force p n|no-clobber i|interactive T|no-target-directory " ++
    "t|target-directory: v|verbose u|update d P|no-dereference L|dereference H l s preserve? " ++
    "parents")

def mv : Tool := transferAll "mv" true
  ("f|force n|no-clobber i|interactive T|no-target-directory t|target-directory: v|verbose " ++
    "u|update")

/-! ### Modes -/

/-- Change the mode of what is at a place, and tell of it if that is asked for. -/
def changeMode (o : Options) (change : Nat → Nat) (path : String) (p : FileTree.Place) :
    Act Unit := do
  match (← Act.world).files.entry? p with
  | some (.file content old number) =>
    let new := change old
    Act.perform (.files (·.put p (.file content new number)))
    let shown := s!"{modeDigits old} ({modeText old})"
    if new ≠ old && (o.has "v" || o.has "c") then
      Act.print (s!"mode of {always path} changed from {shown} to " ++
        s!"{modeDigits new} ({modeText new})\n")
    else if o.has "v" then Act.print s!"mode of {always path} retained as {shown}\n"
  | _ =>
    if o.has "v" then
      Act.print s!"mode of {always path} retained as 0755 (rwxr-xr-x)\n"

/-- Put a mode that starts with a dash behind a double dash. -/
def dashMode : List String → List String
  | [] => []
  | "--" :: rest => "--" :: rest
  | arg :: rest =>
    match arg.toList with
    | '-' :: c :: _ =>
      if "rwxXst".contains c then "--" :: arg :: rest.filter (!·.startsWith "-")
      else arg :: dashMode rest
    | _ => arg :: rest

def chmod : Tool := fun args =>
  withOptions "chmod"
    ("R|recursive f|silent|quiet v|verbose c|changes reference: preserve-root " ++
      "no-preserve-root") (dashMode args) fun o => do
      let mask := (← Act.process).creationMask
      match o.value? "reference", o.operands with
      | none, [] => misuse "chmod" "missing operand"
      | none, [mode] => misuse "chmod" s!"missing operand after {Quoting.text mode}"
      | model, operands => do
        if let some model := model then
          if let .error e ← placeOf model then
            return ← fail "chmod" s!"failed to get attributes of {always model}: {e.words}"
        let change : Option (Nat → Nat) ← match model with
          | some model =>
            match ← entryAt model with
            | some (.file _ mode _) => pure (some fun _ => mode)
            | _ => pure (some id)
          | none => pure (modeChange? mask (operands.headD ""))
        match change with
        | none => misuse "chmod" ("invalid mode: " ++ Quoting.text (operands.headD ""))
        | some change =>
          forOperands (if model.isSome then operands else operands.drop 1) fun path => do
            match ← placeOf path with
            | .error e =>
              if o.has "f" then return 1
              else fail "chmod" s!"cannot access {always path}: {e.words}"
            | .ok p => do
              changeMode o change path p
              if o.has "R" then
                for (q, _) in (← Act.world).files.below p do
                  changeMode o change (Path.join path ("/".intercalate (q.drop p.length))) q
              return 0

end PatchTrial.Shell.Tools
