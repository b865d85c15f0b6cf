import PatchTrial.Regex.Basic

/-!
Scripts that edit a text line by line.

A script is a list of commands. Each of them may select the lines that it is for. A block is a
command too: it leads past its closing brace where its line is not selected.
-/
namespace PatchTrial.Shell.Tools.Sed

/-! ### Selecting lines -/

/-- An expression with its setting; none stands for the expression that was used last. -/
structure Pattern where
  regex : Option Regex
  setting : Regex.Setting := {}

inductive Address where
  | line (n : Nat)
  | last
  /-- Every so many lines from one on. -/
  | every (first step : Nat)
  | text (p : Pattern)

/-- Where a range of lines ends. -/
inductive RangeEnd where
  | at (a : Address)
  /-- So many lines behind the first. -/
  | after (n : Nat)
  /-- At the next line whose number is a multiple of this one. -/
  | multiple (n : Nat)

structure Selection where
  first : Option Address := none
  stop : Option RangeEnd := none
  negated : Bool := false

/-! ### Replacing -/

/-- How letters are written. -/
inductive Casing where
  | asIs
  | lower
  | upper
  deriving DecidableEq, Repr

def Casing.apply : Casing → Char → Char
  | .asIs, c => c
  | .lower, c => c.toLower
  | .upper, c => c.toUpper

/-- A part of a replacement: a text and behind it the text of a group, if any. -/
structure Segment where
  text : List Char
  group : Option Nat := none
  casing : Casing := .asIs
  /-- How the first letter is written, if not as the others. -/
  lead : Option Casing := none

structure Substitution where
  pattern : Pattern
  replacement : List Segment
  /-- The first match that is replaced. -/
  nth : Nat := 1
  /-- Whether the matches behind that one are replaced too. -/
  all : Bool := false
  /-- Whether the result is run as a command, whose output takes its place. -/
  runs : Bool := false
  /-- Whether the result is printed; before it is run, and at the end. -/
  printsEarly : Bool := false
  prints : Bool := false
  file : Option String := none

/-! ### Commands -/

/-- When a jump is made. -/
inductive Trigger where
  | always
  | replaced
  | notReplaced
  deriving DecidableEq, Repr

inductive Action where
  /-- A block, whose closing brace is the command of this number. -/
  | block (past : Nat)
  | close
  | label
  | jump (on : Trigger) (label : String)
  | append (text : List Char)
  | insert (text : List Char)
  | change (text : List Char)
  | delete
  | deleteFirst
  | run (command : List Char)
  | name
  | get
  | getAppend
  | hold
  | holdAppend
  | exchange
  | list (width : Option Nat)
  | next
  | nextAppend
  | print
  | printFirst
  | number
  | quit (status : Nat)
  | quitSilently (status : Nat)
  | readFile (path : String)
  | readLine (path : String)
  | writeFile (path : String)
  | writeFirst (path : String)
  | substitute (s : Substitution)
  | replaceChars (pairs : List (Char × Char))
  | clear

structure Command where
  selection : Selection
  action : Action

/-- Where a piece of a script comes from. -/
inductive Origin where
  | argument (n : Nat)
  | file (path : String)
  deriving DecidableEq, Repr

/-- A position in the pieces of a script: characters of an argument, or lines of a file. -/
structure Place where
  origin : Origin
  offset : Nat
  deriving DecidableEq, Repr

def Place.text (p : Place) : String :=
  let n := p.offset
  match p.origin with
  | .argument k => s!"-e expression #{k}, char {n}"
  | .file path => s!"file {path} line {n}"

/-- The place that stands for a piece as a whole. -/
def Place.whole (p : Place) : Place :=
  match p.origin with
  | .argument _ => { p with offset := 0 }
  | .file _ => p

structure Script where
  commands : Array Command
  labels : List (String × Nat)
  /-- Whether lines are printed only if a command says so. -/
  quiet : Bool
  /-- Where the script ends. -/
  finish : Place

/-- The files to which a command writes. -/
def Action.targets : Action → List String
  | .writeFile path => [path]
  | .writeFirst path => [path]
  | .substitute s => s.file.toList
  | _ => []

end PatchTrial.Shell.Tools.Sed
