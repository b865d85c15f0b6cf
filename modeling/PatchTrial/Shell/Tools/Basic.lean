import PatchTrial.Shell.Session

/-!
What the tools have in common: how they read, write and complain.

A tool complains under its own name and goes on with its next operand; its status then tells that
something went wrong.
-/
namespace PatchTrial.Shell

/-- A command that works on its arguments. -/
abbrev Tool := List String → Act Nat

/-- Starts a program by its name as a process of its own. -/
abbrev Starter := String → List String → Act (Except OsError Finish)

namespace Tools

/-- Write octets to the standard output. -/
def emit (cs : List Char) : Act Unit := do
  if !cs.isEmpty then discard (Act.write 1 (Octets.toBytes cs))

/-- What a tool is called in its messages: the path by which it was started, if any. -/
def calledAs (tool : String) : Act String := do
  let p ← Act.process
  return if !p.isShell && p.name.endsWith ("/" ++ tool) then p.name else tool

/-- Say something under the name of the tool. -/
def warnAs (tool text : String) : Act Unit := do Act.warn s!"{← calledAs tool}: {text}"

/-- Say what went wrong, under the name of the tool. -/
def fail (tool text : String) : Act Nat := do
  warnAs tool text
  return 1

/-- Say where help is to be had. -/
def pointToHelp (tool : String) : Act Unit := do
  Act.warn s!"Try '{← calledAs tool} --help' for more information."

/-- Say what went wrong, and where help is to be had. -/
def misuse (tool text : String) : Act Nat := do
  warnAs tool text
  pointToHelp tool
  return 1

/-- Tell that the standard output could not be written, in the words of each tool; the status of the
tool. -/
def reportUnwritten (tool : String) (e : OsError) : Act Nat := do
  let tells (text : String) (status : Nat) : Act Nat := do
    warnAs tool text
    return status
  let words := e.words
  match tool with
  | "awk" => tells s!"close failed on file \"/dev/stdout\" ({words})" 2
  | "cat" =>
    tells (if e = .badDescriptor then s!"standard output: {words}" else s!"write error: {words}") 1
  | "diff" => tells s!"standard output: {words}" 2
  | "env" => tells s!"write error: {words}" 125
  | "expr" => tells s!"write error: {words}" 3
  | "find" => do
    warnAs tool s!"'standard output': {words}"
    tells "write error" 1
  | "grep" => tells s!"write error: {words}" 2
  | "ls" => tells s!"write error: {words}" 2
  | "sed" =>
    let failed := if e = .badDescriptor then "close" else "flush"
    tells s!"couldn't {failed} stdout: {words}" 4
  | "sort" => do
    warnAs tool s!"fflush failed: 'standard output': {words}"
    tells "write error" 2
  | "tee" => tells s!"'standard output': {words}" 1
  | "wc" => tells (if e = .badDescriptor then s!"write error: {words}" else "write error") 1
  | _ => tells s!"write error: {words}" 1

/-- Do something for each operand; the status is that of the last one that failed. -/
def forOperands (xs : List String) (act : String → Act Nat) : Act Nat := do
  let mut status := 0
  for x in xs do
    let s ← act x
    if s ≠ 0 then status := s
  return status

/-- How much of an endless text is there to read. -/
def endlessOctets : Nat := 0x100000

/-- The content of a file. -/
def fileContent (path : String) : Act (Except OsError (List Char)) := do
  match path with
  | "/dev/stdin" => return .ok ((← Act.readAll 0).getD [])
  | "/dev/fd/0" => return .ok ((← Act.readAll 0).getD [])
  | "/dev/null" => return .ok []
  | "/dev/zero" => return .ok (List.replicate endlessOctets (Char.ofNat 0))
  | path =>
    match (← Act.world).files.read (← Act.process).here path with
    | .ok bytes => return .ok (Octets.ofBytes bytes)
    | .error e => return .error e

/-- The content of a file, or of the standard input for a dash. -/
def contentOf (path : String) : Act (Except OsError (List Char)) := do
  if path = "-" then
    match ← Act.channel? 0, ← Act.readAll 0 with
    | some .directory, _ => return .error .isDirectory
    | _, some text => return .ok text
    | _, none => return .error .badDescriptor
  else fileContent path

/-- The content of a file, or of the standard input for a dash, from which nothing is taken. -/
def contentAhead (path : String) : Act (Except OsError (List Char)) := do
  if path = "-" then
    match ← Act.channel? 0 with
    | some .directory => return .error .isDirectory
    | some (.stream ..) => return .ok (← Act.peek 0)
    | some .nowhere => return .ok []
    | _ => return .error .badDescriptor
  else fileContent path

/-! ### Lines -/

/-- The pieces of a text that end with a character, and whether the last one does. -/
def recordsOf (terminator : Char) (cs : List Char) : List (List Char) × Bool :=
  let pieces := cs.foldr (fun c (ps : List (List Char)) =>
    match ps with
    | [] => [[c]]
    | p :: ps => if c == terminator then [] :: p :: ps else (c :: p) :: ps) [[]]
  match pieces.getLast? with
  | some [] => (pieces.dropLast, true)
  | _ => (pieces, false)

/-- The lines of a text, and whether the last one ends with a line break. -/
def linesOf (cs : List Char) : List (List Char) × Bool := recordsOf '\n' cs

/-- Lines, each with a line break. -/
def joinLines (lines : List (List Char)) : List Char := lines.flatMap (· ++ ['\n'])

/-- A text brought to a width by blanks before it. -/
def right (width : Nat) (text : String) : String :=
  String.ofList (List.replicate (width - text.length) ' ') ++ text

/-- A text brought to a width by blanks behind it. -/
def left (width : Nat) (text : String) : String :=
  text ++ String.ofList (List.replicate (width - text.length) ' ')

/-! ### Numbers -/

/-- The natural number that a text of digits stands for. -/
def natural? (s : String) : Option Nat :=
  if s.isEmpty || !s.all Char.isDigit then none else some (Nat.ofDigitChars 10 s.toList 0)

/-- The whole number that a text of digits stands for, with a sign if it has one. -/
def integer? (s : String) : Option Int :=
  match s.toList with
  | '-' :: cs => (natural? (String.ofList cs)).map fun n => -(n : Int)
  | '+' :: cs => (natural? (String.ofList cs)).map fun n => (n : Int)
  | cs => (natural? (String.ofList cs)).map fun n => (n : Int)

/-- The factor that a suffix of a size stands for. -/
def sizeFactor? (suffix : String) : Option Nat :=
  let powers (base : Nat) : List (Char × Nat) :=
    [('K', base), ('k', base), ('M', Nat.pow base 2), ('G', Nat.pow base 3),
      ('T', Nat.pow base 4), ('P', Nat.pow base 5), ('E', Nat.pow base 6)]
  match suffix.toList with
  | [] => some 1
  | ['c'] => some 1
  | ['b'] => some 512
  | ['w'] => some 2
  | [c] => (powers 1024).lookup c
  | [c, 'B'] => (powers 1000).lookup c
  | [c, 'i', 'B'] => (powers 1024).lookup c
  | _ => none

/-- A number with a suffix that scales it. -/
def size? (s : String) : Option Nat := do
  let (ds, suffix) := s.toList.span Char.isDigit
  if ds.isEmpty then none
  else return Nat.ofDigitChars 10 ds 0 * (← sizeFactor? (String.ofList suffix))

end Tools

end PatchTrial.Shell
