import PatchTrial.Shell.Tools.Listing

/-!
Tools that give a file another name, and tools that make files with new names.

A name that is given to a file is as good as the one it had. A symbolic link holds a path, which
need not lead anywhere.
-/
namespace PatchTrial.Shell.Tools

open Quoting (always)

/-! ### Links -/

/-- Put a link at a path: another name of what is at a place, or a path of its own. -/
def putLink (o : Options) (source wanted complaint : String) (link : FileTree.Place ⊕ String) :
    Act Nat := do
  let t := (← Act.world).files
  match t.locate (← Act.process).here wanted with
  | .error e =>
    if o.has "s" then fail "ln" s!"{complaint}: {e.words}"
    else fail "ln" s!"{complaint} => {always source}: {e.words}"
  | .ok q =>
    let taken := (t.entry? q).isSome
    let same : Bool := match link with
      | .inl p => t.isSameFile p q
      | .inr _ => false
    if t.isDirectory q then fail "ln" s!"{wanted}: cannot overwrite directory"
    else if taken && o.has "f" && same then
      fail "ln" s!"{always source} and {always wanted} are the same file"
    else if taken && !o.has "f" then fail "ln" s!"{complaint}: File exists"
    else
      Act.perform (.files fun t =>
        match link with
        | .inl p => (t.cut q).giveName p q
        | .inr path => t.put q (.link path))
      if o.has "v" then
        let arrow := if o.has "s" then "->" else "=>"
        Act.print s!"{always wanted} {arrow} {always source}\n"
      return 0

/-- Give what is at a path another name. -/
def linkOne (o : Options) (source wanted : String) : Act Nat := do
  if o.has "s" then
    let complaint := s!"failed to create symbolic link {always wanted}"
    let here := (← Act.process).here
    let t := (← Act.world).files
    let target := match t.lead false here wanted with
      | .ok q =>
        if o.has "r" then
          match resolve t here .nothing source with
          | .ok p => relativeTo q.dropLast p
          | .error _ => source
        else source
      | .error _ => source
    if source.isEmpty then
      fail "ln" s!"{complaint} -> {always source}: {OsError.notFound.words}"
    else putLink o source wanted complaint (.inr target)
  else
    match ← placeBy (o.has "L") source with
    | .error e => fail "ln" s!"failed to access {always source}: {e.words}"
    | .ok p =>
      if (← Act.world).files.isDirectory p then
        fail "ln" s!"{source}: hard link not allowed for directory"
      else
        putLink o source wanted s!"failed to create hard link {always wanted}" (.inl p)

def ln : Tool := fun args =>
  withOptions "ln"
    ("s|symbolic f|force i|interactive n|no-dereference v|verbose T|no-target-directory " ++
      "t|target-directory: r|relative L|logical P|physical b S: backup?") args fun o => do
      let into (directory : String) (sources : List String) : Act Nat :=
        forOperands sources fun s => linkOne o s (Path.join directory (baseName s))
      match o.value? "t", o.operands.reverse with
      | some directory, sources =>
        match ← directoryAt directory, (← entryAt directory).isSome with
        | .ok _, _ => into directory sources.reverse
        | .error _, true => fail "ln" s!"target {always directory} is not a directory"
        | .error e, false => fail "ln" s!"failed to access {always directory}: {e.words}"
      | none, [] => misuse "ln" "missing file operand"
      | none, [only] => linkOne o only (Path.join "." (baseName only))
      | none, [target, source] =>
        match ← entryBy (!o.has "n") target with
        | some .directory => if o.has "T" then linkOne o source target else into target [source]
        | _ => linkOne o source target
      | none, target :: sources =>
        match ← entryAt target with
        | some .directory => into target sources.reverse
        | some _ => fail "ln" s!"target {always target}: Not a directory"
        | none => fail "ln" s!"target {always target}: No such file or directory"

def link : Tool := fun args =>
  withOptions "link" "" args fun o => do
    match o.operands with
    | [] => misuse "link" "missing operand"
    | [only] => misuse "link" s!"missing operand after {Quoting.text only}"
    | [source, wanted] =>
      let complaint := s!"cannot create link {always wanted} to {always source}"
      match ← placeNamed source, (← placeNamed wanted).toOption with
      | .error e, _ => fail "link" s!"{complaint}: {e.words}"
      | .ok _, some _ => fail "link" s!"{complaint}: File exists"
      | .ok p, none =>
        if (← Act.world).files.isDirectory p then
          fail "link" s!"{complaint}: Operation not permitted"
        else
          let here := (← Act.process).here
          changeFiles "link" complaint fun t => return t.giveName p (← t.locate here wanted)
    | _ :: _ :: extra :: _ => misuse "link" s!"extra operand {Quoting.text extra}"

def unlink : Tool := fun args =>
  withOptions "unlink" "" args fun o => do
    match o.operands with
    | [] => misuse "unlink" "missing operand"
    | [path] =>
      let here := (← Act.process).here
      changeFiles "unlink" s!"cannot unlink {always path}" fun t => t.remove here path
    | _ :: extra :: _ => misuse "unlink" s!"extra operand {Quoting.text extra}"

/-! ### New names -/

/-- The letters and digits of which new names are made. -/
def nameLetters : List Char :=
  "abcdefghijklmnopqrstuvwxyzABCDEFGHIJKLMNOPQRSTUVWXYZ0123456789".toList

/-- So many letters that stand for a number. -/
def nameOfNumber : Nat → Nat → List Char
  | 0, _ => []
  | k + 1, n => nameOfNumber k (n / nameLetters.length) ++
      [nameLetters.getD (n % nameLetters.length) 'a']

/-- A template for names: what stands before its mark, how long that is, and what stands behind. -/
def splitTemplate (template : List Char) : List Char × Nat × List Char :=
  let behind := (template.reverse.takeWhile (· != 'X')).reverse
  let front := template.take (template.length - behind.length)
  let count := (front.reverse.takeWhile (· == 'X')).length
  (front.take (front.length - count), count, behind)

def mktemp : Tool := fun args =>
  withOptions "mktemp" "d|directory u|dry-run q|quiet p: tmpdir? t suffix:" args fun o => do
    match o.operands with
    | _ :: _ :: _ => misuse "mktemp" "too many templates"
    | operands =>
      let given := operands.head?
      let template := given.getD "tmp.XXXXXXXXXX"
      let temporary := ((← Act.valueOf "TMPDIR").filter (!·.isEmpty)).getD "/tmp"
      let directory : Option String :=
        if o.has "p" || o.has "tmpdir" then
          let given := (o.value? "p").or (o.value? "tmpdir")
          some ((given.filter (!·.isEmpty)).getD temporary)
        else if o.has "t" || given.isNone then some temporary else none
      let suffix := (o.value? "suffix").getD ""
      let (front, count, behind) := splitTemplate template.toList
      if o.has "suffix" && !behind.isEmpty then
        fail "mktemp" s!"with --suffix, template {Quoting.text template} must end in X"
      else if count < 3 then
        fail "mktemp" s!"too few X's in template {Quoting.text (template ++ suffix)}"
      else if o.has "t" && template.contains '/' then
        fail "mktemp" s!"invalid template, {Quoting.text template}, contains directory separator"
      else
        let pathFor (n : Nat) : String :=
          let name := String.ofList (front ++ nameOfNumber count n ++ behind) ++ suffix
          match directory with
          | some d => Path.join d name
          | none => name
        let here := (← Act.process).here
        let t := (← Act.world).files
        let isFree (n : Nat) : Bool := match t.locate here (pathFor n) with
          | .ok p => (t.entry? p).isNone
          | .error _ => true
        let seed := (← Act.world).nextPid * 7919
        let number := ((List.range (t.entries.length + 1)).find? fun n => isFree (seed + n)).getD 0
        let path := pathFor (seed + number)
        let made : Except OsError Unit ← if o.has "u" then pure (.ok ()) else
          Act.change fun t =>
            if o.has "d" then t.makeDirectory here path else t.write here path .empty 0o600
        match made with
        | .ok () =>
          Act.print (path ++ "\n")
          return 0
        | .error e =>
          let whole := match directory with
            | some d => Path.join d template
            | none => template
          let shown := Quoting.text (whole ++ suffix)
          if o.has "q" then return 1
          let kind := if o.has "d" then "directory" else "file"
          fail "mktemp" s!"failed to create {kind} via template {shown}: {e.words}"

end PatchTrial.Shell.Tools
