import PatchTrial.Error
import PatchTrial.Text.Basic

/-!
A tree of directories and files.

A place in the tree is the list of names on the way from the root. A path is followed name by name
from a directory, so that every name but the last must be that of a directory or lead to one; each
operation fails with the error that an operating system gives for it.

A file can have several names, and a symbolic link leads on to where its own path leads. So two
paths can lead to one file, and what is written under the one is read under the other.

A path is a text. It is joined to another unless it is absolute. Empty components and single dots
carry no meaning when the parent of a path is taken.
-/
namespace PatchTrial.Path

/-- The components between slashes. -/
def parts (path : String) : List String :=
  (Text.pieces (· == '/') path.toList).map String.ofList

def isAbsolute (path : String) : Bool := path.startsWith "/"

/-- `path` as seen from the directory `dir`. -/
def join (dir path : String) : String :=
  if isAbsolute path || dir.isEmpty then path
  else if dir.endsWith "/" then dir ++ path
  else dir ++ "/" ++ path

/-- The components that carry a meaning. -/
def significant (path : String) : List String :=
  match parts path with
  | [] => []
  | first :: rest => (if first.isEmpty then [] else [first]) ++
      rest.filter fun c => !c.isEmpty && c ≠ "."

/-- The path without its last component, if it has one. -/
def parent? (path : String) : Option String :=
  match significant path with
  | [] => none
  | cs => some ((if isAbsolute path then "/" else "") ++ "/".intercalate cs.dropLast)

/-- The path without the slashes behind it, unless it has nothing else. -/
def withoutSlashes (path : String) : String :=
  let stripped := String.ofList (path.toList.reverse.dropWhile (· == '/')).reverse
  if stripped.isEmpty then path else stripped

end PatchTrial.Path

namespace PatchTrial

/-- For whom files are read and written: somebody whom no mode stops, or the one whom the first
digit of a mode is about. -/
inductive User where
  | root
  | owner
  deriving DecidableEq, Repr

namespace User

/-- Whether a file of a mode may be read. -/
def mayRead : User → Nat → Bool
  | .root, _ => true
  | .owner, mode => mode &&& 0o400 != 0

/-- Whether a file of a mode may be written to. -/
def mayWrite : User → Nat → Bool
  | .root, _ => true
  | .owner, mode => mode &&& 0o200 != 0

end User

inductive FileTree.Entry where
  | directory
  /-- A file has the permissions of its user, its group and others as three octal digits. If it has
  several names, it has a number that is found under each of them. -/
  | file (content : ByteArray) (mode : Nat) (number : Option Nat := none)
  /-- A symbolic link has a path, which starts where the link is. -/
  | link (target : String)
  /-- A device keeps nothing of what is written to it, and there is nothing to be read. -/
  | device

namespace FileTree.Entry

def number? : Entry → Option Nat
  | .file _ _ number => number
  | _ => none

/-- Whether two entries are names of one file. -/
def isNameOf (e e' : Entry) : Bool := e.number?.isSome && e.number? = e'.number?

/-- The entry with another path, if it is a link. -/
def mapTarget (f : String → String) : Entry → Entry
  | .link target => .link (f target)
  | e => e

end FileTree.Entry

structure FileTree where
  entries : List (List String × FileTree.Entry)

namespace FileTree

/-- The names on the way from the root. -/
abbrev Place := List String

/-- The mode of a new file, if nothing else is asked for. -/
def plainMode : Nat := 0o644

/-- The mode of a file that is made to be run. -/
def programMode : Nat := 0o755

/-- Whether a mode lets a file be run. -/
def isRunnable (mode : Nat) : Bool := mode &&& 0o111 != 0

def empty : FileTree := ⟨[]⟩

def entry? (t : FileTree) (p : Place) : Option Entry :=
  if p.isEmpty then some .directory else t.entries.lookup p

/-- Put an entry at a place, in the stead of what was there. A file changes under all its names. -/
def put (t : FileTree) (p : Place) (e : Entry) : FileTree :=
  let changed := t.entries.map fun x => if x.1 = p || x.2.isNameOf e then (x.1, e) else x
  if t.entries.any (·.1 = p) then ⟨changed⟩ else ⟨changed ++ [(p, e)]⟩

/-- Remove a place and all that is below it. -/
def cut (t : FileTree) (p : Place) : FileTree :=
  ⟨t.entries.filter fun x => !p.isPrefixOf x.1⟩

def isDirectory (t : FileTree) (p : Place) : Bool :=
  match t.entry? p with
  | some .directory => true
  | _ => false

def isFile (t : FileTree) (p : Place) : Bool :=
  match t.entry? p with
  | some (.file ..) => true
  | _ => false

/-- The number of the file at a place. -/
def number? (t : FileTree) (p : Place) : Option Nat := (t.entry? p).bind Entry.number?

/-- Whether two places are those of one file. -/
def isSameFile (t : FileTree) (p q : Place) : Bool :=
  p = q || (t.number? p).isSome && t.number? p = t.number? q

/-- The text of a place. -/
def textOf (p : Place) : String := "/" ++ "/".intercalate p

/-- The names in a directory, in ascending order. -/
def names (t : FileTree) (p : Place) : List String :=
  let found := t.entries.filterMap fun x => if x.1.dropLast = p then x.1.getLast? else none
  found.mergeSort fun a b => decide (a ≤ b)

/-- Whether a place is no later than another: name by name, and a directory before what it
holds. -/
def inOrder : Place → Place → Bool
  | [], _ => true
  | _ :: _, [] => false
  | m :: p, n :: q => m < n || (m = n && inOrder p q)

/-- All that is below a place, in ascending order. -/
def below (t : FileTree) (p : Place) : List (Place × Entry) :=
  (t.entries.filter fun x => p.isPrefixOf x.1 && x.1 != p).mergeSort fun x y => inOrder x.1 y.1

/-- The tree with other names. -/
def mapNames (f : String → String) (t : FileTree) : FileTree :=
  ⟨t.entries.map fun x => (x.1.map f, x.2.mapTarget f)⟩

/-! ### Following paths -/

/-- The longest name, in bytes. -/
def maxNameBytes : Nat := 255

/-- The longest path, in bytes. -/
def maxPathBytes : Nat := 4095

/-- The most links that are followed on one way. -/
def maxLinks : Nat := 40

/-- Follow names up to the first link, from where it is gone on with the path of the link and the
names behind it. The last name need not be there, and a link that it names is followed only if it
is not the link that is wanted. -/
def walkFrom (t : FileTree) (follows : Bool)
    (goOn : Place → List String → Except OsError Place) : Place → List String → Except OsError Place
  | here, [] => .ok here
  | here, c :: cs =>
    if c = "" || c = "." then walkFrom t follows goOn here cs
    else if c = ".." then walkFrom t follows goOn here.dropLast cs
    else if maxNameBytes < c.utf8ByteSize then .error .nameTooLong
    else
      match t.entry? (here ++ [c]) with
      | some .directory => walkFrom t follows goOn (here ++ [c]) cs
      | some (.link target) =>
        if cs.isEmpty && !follows then .ok (here ++ [c])
        else goOn (if Path.isAbsolute target then [] else here) (Path.parts target ++ cs)
      | other =>
        if cs.isEmpty then .ok (here ++ [c])
        else .error (if other.isSome then .notDirectory else .notFound)

/-- Follow names over so many links at most. -/
def walk (t : FileTree) (follows : Bool) : Nat → Place → List String → Except OsError Place
  | 0 => walkFrom t follows fun _ _ => .error .tooManyLinks
  | links + 1 => walkFrom t follows (walk t follows links)

/-- The place that a path leads to from `here`. Nothing need be there, but its directory must be;
a path that ends in a slash or a dot leads to a directory. -/
def lead (follows : Bool) (t : FileTree) (here : Place) (path : String) : Except OsError Place :=
  if path.isEmpty then .error .notFound
  else if path.toList.contains (Char.ofNat 0) then .error .nulInPath
  else if maxPathBytes < path.utf8ByteSize then .error .nameTooLong
  else t.walk follows maxLinks (if Path.isAbsolute path then [] else here) (Path.parts path)

/-- The place that a path leads to, which is never that of a link. -/
abbrev follow (t : FileTree) : Place → String → Except OsError Place := t.lead true

/-- The place that a path names, which may be that of a link. -/
abbrev locate (t : FileTree) : Place → String → Except OsError Place := t.lead false

/-- Where the links at a place lead, if they lead anywhere. -/
def behind? (t : FileTree) (p : Place) : Option Place := (t.walk true maxLinks [] p).toOption

/-! ### Reading and writing -/

def read (t : FileTree) (here : Place) (path : String) (user : User := .root) :
    Except OsError ByteArray := do
  match t.entry? (← t.follow here path) with
  | none => .error .notFound
  | some .directory => .error .isDirectory
  | some (.file content mode _) =>
    if user.mayRead mode then .ok content else .error .permissionDenied
  | some (.link _) => .error .tooManyLinks
  | some .device => .ok .empty

/-- The content of a file as text. -/
def readText (t : FileTree) (here : Place) (path : String) (user : User := .root) :
    Except OsError String := do
  let bytes ← t.read here path user
  match String.fromUTF8? bytes with
  | some text => .ok text
  | none => .error .invalidUtf8

/-- Replace the content of a file, or make the file with a mode. -/
def write (t : FileTree) (here : Place) (path : String) (content : ByteArray)
    (newMode : Nat := plainMode) (user : User := .root) : Except OsError FileTree :=
  match t.follow here path with
  | .error .notFound => if path.endsWith "/" && !path.isEmpty then .error .isDirectory
      else .error .notFound
  | .error e => .error e
  | .ok p =>
    match t.entry? p with
    | none => .ok (t.put p (.file content newMode))
    | some .directory => .error .isDirectory
    | some (.file _ mode number) =>
      if user.mayWrite mode then .ok (t.put p (.file content mode number))
      else .error .permissionDenied
    | some (.link _) => .error .tooManyLinks
    | some .device => .ok t

def makeDirectory (t : FileTree) (here : Place) (path : String) : Except OsError FileTree := do
  let p ← t.locate here (Path.withoutSlashes path)
  match t.entry? p with
  | some _ => .error .exists
  | none => .ok (t.put p .directory)

/-- Whether a path leads to a directory. -/
def leadsToDirectory (t : FileTree) (here : Place) (path : String) : Bool :=
  match t.follow here path with
  | .ok p => t.isDirectory p
  | .error _ => false

/-- Make a directory. One that is there already is no error. -/
def ensureDirectory (t : FileTree) (here : Place) (path : String) : Option OsError × FileTree :=
  match t.makeDirectory here path with
  | .ok t => (none, t)
  | .error e => (if t.leadsToDirectory here path then none else some e, t)

/-- Make a directory, and first those that it is to be in. The tree has what was made before an
error. -/
def makeDirectories (here : Place) : Nat → FileTree → String → Option OsError × FileTree
  | 0, t, _ => (some .notFound, t)
  | fuel + 1, t, path =>
    if path.isEmpty then (none, t)
    else
      match t.makeDirectory here path, Path.parent? path with
      | .error .notFound, none => (some .notFound, t)
      | .error .notFound, some up =>
        match makeDirectories here fuel t up with
        | (none, t) => t.ensureDirectory here path
        | failed => failed
      | _, _ => t.ensureDirectory here path

/-- Make a directory with all that it needs. -/
def createAll (t : FileTree) (here : Place) (path : String) : Option OsError × FileTree :=
  makeDirectories here (Path.parts path).length t path

def remove (t : FileTree) (here : Place) (path : String) : Except OsError FileTree := do
  let p ← t.locate here path
  match t.entry? p with
  | none => .error .notFound
  | some .directory => .error .isDirectory
  | some _ => .ok (t.cut p)

def removeDirectory (t : FileTree) (here : Place) (path : String) : Except OsError FileTree := do
  let p ← t.locate here path
  match t.entry? p with
  | none => .error .notFound
  | some .directory => if (t.names p).isEmpty then .ok (t.cut p) else .error .notEmpty
  | some _ => .error .notDirectory

/-- A number that no file has. -/
def freshNumber (t : FileTree) : Nat :=
  t.entries.foldl (fun n x => max n (x.2.number?.elim 0 (· + 1))) 0

/-- Give what is at a place another name. -/
def giveName (t : FileTree) (p q : Place) : FileTree :=
  match t.entry? p with
  | some (.file content mode none) =>
    let shared : Entry := .file content mode t.freshNumber
    (t.put p shared).put q shared
  | some e => t.put q e
  | none => t

/-- Move what is at a place, with all that is below it, to another place. -/
def move (t : FileTree) (p q : Place) : FileTree :=
  ⟨(t.cut q).entries.map fun x =>
    if p.isPrefixOf x.1 then (q ++ x.1.drop p.length, x.2) else x⟩

/-- All files below a place, with their paths from there, in ascending order. A link has the content
of the file that it leads to. -/
def filesBelow (t : FileTree) (p : Place) : List (String × ByteArray) :=
  let content? (x : Place × Entry) : Option ByteArray :=
    match x.2 with
    | .file content .. => some content
    | .link _ =>
      match (t.behind? x.1).bind t.entry? with
      | some (.file content ..) => some content
      | _ => none
    | _ => none
  let found := t.entries.filterMap fun x =>
    if p.isPrefixOf x.1 then (content? x).map fun c => ("/".intercalate (x.1.drop p.length), c)
    else none
  found.mergeSort fun a b => decide (a.1 ≤ b.1)

end FileTree

end PatchTrial
