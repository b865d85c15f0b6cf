import PatchTrial.Shell.Expand
import PatchTrial.Shell.Tools.Awk.Reader
import PatchTrial.Shell.Tools.Awk.Record
import PatchTrial.Shell.Tools.Awk.Table
import PatchTrial.Shell.Tools.Files

/-!
Running programs that work on records.

What a program prints is kept back until another program is started or this one ends. A command that
is printed to gets its input when it is closed, at the latest at the end.
-/
namespace PatchTrial.Shell.Tools.Awk

/-- What a name stands for. -/
inductive Cell where
  | scalar (v : Value)
  | table (id : Nat)
  /-- A name without a value, which becomes the name of a table if it is used as one. -/
  | undecided (id : Nat)

/-- What ends statements early. -/
inductive Leave where
  | next
  | nextFile
  | exit
  | break
  | continue
  | return (v : Value)
  /-- The program cannot go on. -/
  | fatal (text : String)

structure State where
  globals : List (String × Cell)
  /-- The names of the function that is being run. -/
  locals : List (String × Cell) := []
  tables : Array Table := #[]
  record : String := ""
  fields : List Value := []
  /-- Whether the record has to be put together from its fields. -/
  stale : Bool := false
  /-- What was printed and is kept back, the latest first. -/
  pending : List String := []
  /-- Files that are written to. -/
  outputs : List (String × Channel) := []
  /-- Commands that are printed to, with what was printed, the latest first. -/
  commands : List (String × List String) := []
  /-- Files and outputs of commands that are being read, and how a command ended. -/
  readers : List (String × List Char × Nat) := []
  /-- What is left of the current file. -/
  input : Option (List Char) := none
  /-- The length of the current file, if it is the standard input. -/
  stdinLength : Option Nat := none
  /-- The operand that is looked at next. -/
  operand : Nat := 1
  /-- Whether a file was among the operands. -/
  sawFile : Bool := false
  status : Nat := 0
  seed : Nat := 0
  random : Nat := 1
  /-- Whether the ranges of the rules have started. -/
  ranges : List Bool := []

abbrev Exec := ExceptT Leave (StateT State Act)

def act {α : Type} (a : Act α) : Exec α := ExceptT.lift (StateT.lift a)

/-- A program at work. -/
structure Setup where
  program : Program
  start : Starter

variable (c : Setup)

/-! ### Variables -/

def cell? (name : String) : Exec (Option Cell) := do
  let s ← get
  return s.locals.lookup name <|> s.globals.lookup name

def setCell (name : String) (x : Cell) : Exec Unit := modify fun s =>
  let put (cells : List (String × Cell)) : List (String × Cell) :=
    cells.map fun e => if e.1 = name then (name, x) else e
  if (s.locals.lookup name).isSome then { s with locals := put s.locals }
  else if (s.globals.lookup name).isSome then { s with globals := put s.globals }
  else { s with globals := (name, x) :: s.globals }

def global (name : String) : Exec Value := do
  match (← get).globals.lookup name with
  | some (.scalar v) => return v
  | _ => return .unset

def setGlobal (name : String) (v : Value) : Exec Unit := modify fun s =>
  { s with globals := (name, .scalar v) :: s.globals.filter (·.1 ≠ name) }

/-- The format of numbers that are put into texts. -/
def format : Exec String := return (← global "CONVFMT").toText "%.6g"

def textOf (v : Value) : Exec String := do
  match v with
  | .number _ => return v.toText (← format)
  | v => return v.toText ""

/-- A run-time fault, with the place in the input. -/
def fault {α : Type} (text : String) : Exec α := do
  let file ← textOf (← global "FILENAME")
  let n ← textOf (← global "FNR")
  let total ← textOf (← global "NR")
  throw (.fatal s!"run time error: {text}\n\tFILENAME=\"{file}\" FNR={n} NR={total}")

/-- The expression that a text stands for. -/
def regexOf (text : String) : Exec Regex := do
  match Regex.ofNotation .records text.toList with
  | .ok r => return r
  | .error f =>
    let cause := regexFault f
    fault s!"regular expression compile failed ({cause})\n{text}"

def newTable : Exec Nat := do
  let id := (← get).tables.size
  modify fun s => { s with tables := s.tables.push {} }
  return id

/-- The table of a name. -/
def tableOf (name : String) : Exec Nat := do
  match ← cell? name with
  | some (.table id) => return id
  | some (.undecided id) => setCell name (.table id); return id
  | some (.scalar .unset) | none =>
    let id ← newTable
    setCell name (.table id)
    return id
  | some (.scalar _) => fault s!"illegal reference to variable {name}"

def table (id : Nat) : Exec Table := return (← get).tables[id]?.getD {}

def setTable (id : Nat) (t : Table) : Exec Unit :=
  modify fun s => { s with tables := s.tables.setIfInBounds id t }

/-! ### Records and fields -/

def separatorOf (text : String) : Exec Separator := do
  match separator? text with
  | .ok s => return s
  | .error _ => return .regex (← regexOf text)

/-- Cut a record into its fields. -/
def setRecord (text : String) : Exec Unit := do
  let sep ← separatorOf (← textOf (← global "FS"))
  let lines := (← textOf (← global "RS")).isEmpty
  modify fun s => { s with
    record := text
    fields := (sep.fields lines text).map outside
    stale := false }

def recordText : Exec String := do
  let s ← get
  if s.stale then
    let between ← textOf (← global "OFS")
    let parts ← s.fields.mapM textOf
    let text := between.intercalate parts
    modify fun s => { s with record := text, stale := false }
    return text
  else return s.record

def field (n : Nat) : Exec Value := do
  if n = 0 then return outside (← recordText)
  else return (← get).fields[n - 1]?.getD .unset

/-- Bring the number of fields to a value. -/
def resize (n : Nat) : Exec Unit := modify fun s => { s with
  fields := s.fields.take n ++ List.replicate (n - s.fields.length) (.text "")
  stale := true }

def setField (n : Nat) (v : Value) : Exec Unit := do
  if n = 0 then setRecord (← textOf v)
  else
    if (← get).fields.length < n then resize n
    modify fun s => { s with fields := s.fields.set (n - 1) v, stale := true }

def variableValue (name : String) : Exec Value := do
  if name = "NF" then return .ofNat (← get).fields.length
  match ← cell? name with
  | some (.scalar v) => return v
  | some (.table _) => fault s!"illegal reference to array {name}"
  | _ => return .unset

def setVariable (name : String) (v : Value) : Exec Unit := do
  if name = "NF" then resize (wholePart v.toNumber).toNat else setCell name (.scalar v)

/-- Where a value can be put. -/
inductive Ref where
  | variable (name : String)
  | field (n : Nat)
  | element (table : Nat) (key : Key)

def Ref.read : Ref → Exec Value
  | .variable name => variableValue name
  | .field n => Awk.field n
  | .element id key => do
    let t ← table id
    match t.find key with
    | (some v, t) => setTable id t; return v
    | (none, t) => setTable id (t.insert key .unset); return .unset

def Ref.write (r : Ref) (v : Value) : Exec Unit := do
  match r with
  | .variable name => setVariable name v
  | .field n => setField n v
  | .element id key => setTable id ((← table id).insert key v)

/-! ### Output -/

/-- Print what was kept back. -/
def flush : Exec Unit := do
  let texts := (← get).pending.reverse
  modify fun s => { s with pending := [] }
  act (emit (String.join texts).toList)

/-- Run a command by a shell, with an input if it has one of its own. -/
def runCommand (shell command : String) (input : Option String) : Exec Finish := do
  let run : Act Finish := do
    match ← c.start shell ["-c", command] with
    | .ok f => return f
    | .error _ => return .exited 127
  match input with
  | none => act run
  | some text =>
    act do
      let (w, n) := (← Act.world).addStream text.toList
      Act.setWorld w
      Act.within (fun p => { p with
        channels := (0, .stream n false) :: p.channels.filter (·.1 ≠ 0) }) run

/-- Where output to a path goes, which is opened if it is not yet. -/
def outputChannel (append : Bool) (path : String) : Exec Channel := do
  match (← get).outputs.lookup path with
  | some ch => return ch
  | none =>
    let ch : Channel ← if path = "/dev/stderr" then
        pure ((← act (Act.channel? 2)).getD .nowhere)
      else if path = "/dev/null" then pure .nowhere
      else do
        let here := (← act Act.process).here
        let exists_ ← act (entryAt path)
        let opened ← if append && exists_.isSome then pure (.ok ()) else
          act (Act.change (·.write here path .empty))
        match opened, ← act (placeOf path) with
        | .ok (), .ok p => pure (.file p)
        | .error e, _ =>
          throw (.fatal s!"cannot open \"{path}\" for output ({e.words})")
        | _, .error e =>
          throw (.fatal s!"cannot open \"{path}\" for output ({e.words})")
    modify fun s => { s with outputs := (path, ch) :: s.outputs }
    return ch

/-- Print to the standard output, to a file or to a command. -/
def printTo (text : String) : Option (Option Bool × String) → Exec Unit
  | none => modify fun s => { s with pending := text :: s.pending }
  | some (none, command) => do
    if ((← get).commands.lookup command).isNone then flush
    modify fun s => { s with
      commands := (command, text :: (s.commands.lookup command).getD []) ::
        s.commands.filter (·.1 ≠ command) }
  | some (some append, path) => do
    if path = "/dev/stdout" || path = "-" then
      modify fun s => { s with pending := text :: s.pending }
    else
      let ch ← outputChannel append path
      act <| Act.within (fun p => { p with channels := (9, ch) :: p.channels }) do
        discard (Act.write 9 (Octets.toBytes text.toList))

def statusOf : Finish → Nat
  | .exited n => n
  | .killed signal => 256 + signal

/-- Close a command that is printed to: it runs now. -/
def closeCommand (command : String) : Exec Nat := do
  let texts := ((← get).commands.lookup command).getD []
  modify fun s => { s with commands := s.commands.filter (·.1 ≠ command) }
  return statusOf (← runCommand c "/bin/sh" command (some (String.join texts.reverse)))

/-- Close a file or a command. The answer is how it ended. -/
def close (name : String) : Exec Float := do
  let s ← get
  let reader := s.readers.lookup name
  let output := (s.outputs.lookup name).isSome
  modify fun s => { s with
    readers := s.readers.filter (·.1 ≠ name), outputs := s.outputs.filter (·.1 ≠ name) }
  if (s.commands.lookup name).isSome then return (← closeCommand c name).toFloat
  match reader with
  | some (_, status) => return status.toFloat
  | none => return if output then 0 else -1

/-! ### Formats -/

/-- A text by a format. -/
def formatted (what text : String) : Nat → List Char → List Value → Nat → Exec (List Char)
  | 0, _, _, _ => return []
  | _ + 1, [], _, _ => return []
  | fuel + 1, '%' :: '%' :: cs, args, n =>
    return '%' :: (← formatted what text fuel cs args n)
  | fuel + 1, '%' :: cs, args, n => do
    let tooFew : Exec (List Char) := fault s!"not enough arguments passed to {what}(\"{text}\")"
    match readSlot cs with
    | none => return '%' :: cs
    | some (slot, rest) =>
      let d := slot.directive
      let starred (use : Bool) (args : List Value) : Option (Option Int × List Value) :=
        if !use then some (none, args)
        else match args with
          | a :: args => some (some (wholePart a.toNumber), args)
          | [] => none
      match starred slot.starWidth args with
      | none => tooFew
      | some (width, args) =>
        match starred slot.starPrecision args with
        | none => tooFew
        | some (precision, args) =>
          let d : Decimal.Directive := match width with
            | some w => { d with width := w.natAbs, left := d.left || w < 0 }
            | none => d
          let d : Decimal.Directive := match precision with
            | some p => { d with precision := if p < 0 then none else some p.toNat }
            | none => d
          if !"dioxXucseEfFgGaA".contains d.kind then
            fault s!"improper conversion(number {n}) in {what}(\"{text}\")"
          else
            match args with
            | [] => tooFew
            | a :: args =>
              let x := a.toNumber
              let shown : List Char ← match d.kind with
                | 'd' | 'i' => pure (d.signed (wholePart x))
                | 'o' | 'x' | 'X' | 'u' =>
                  pure (d.unsigned (wholePart x % 0x10000000000000000).toNat)
                | 's' => do pure (d.text (← textOf a).toList)
                | 'c' =>
                  let cs := match a with
                    | .number x => [Char.ofNat (wholePart x % 256).toNat]
                    | .numeral s _ => s.toList.take 1
                    | .text s => if s.isEmpty then [Char.ofNat 0] else s.toList.take 1
                    | .unset => [Char.ofNat 0]
                  pure (d.padded cs)
                | _ => pure (d.float (Decimal.ofFloat x))
              return shown ++ (← formatted what text fuel rest args (n + 1))
  | fuel + 1, ch :: cs, args, n => return ch :: (← formatted what text fuel cs args n)

def formattedBy (what : String) (args : List Value) : Exec String := do
  match args with
  | [] => return ""
  | f :: args =>
    let text ← textOf f
    return String.ofList (← formatted what text (text.length + 1) text.toList args 1)

/-! ### Input -/

/-- The assignment that an operand stands for, if it does. -/
def assignment? (operand : String) : Option (String × String) :=
  match Text.splitAt? '=' operand.toList with
  | some (name, value) =>
    if name.all isNameChar && (name.head?).any (!Char.isDigit ·) then
      some (String.ofList name, unescaped (String.ofList value))
    else none
  | none => none

/-- Open the next file of the operands. The answer is whether there was one. -/
def openNext : Nat → Exec Bool
  | 0 => return false
  | fuel + 1 => do
    let s ← get
    let count := (wholePart (← global "ARGC").toNumber).toNat
    if s.operand < count then
      modify fun s => { s with operand := s.operand + 1 }
      let t ← table (← tableOf "ARGV")
      let operand ← textOf ((t.entries.lookup (toString s.operand)).getD .unset)
      if operand.isEmpty then openNext fuel
      else
        match assignment? operand with
        | some (name, value) =>
          setVariable name (outside value)
          openNext fuel
        | none =>
          modify fun s => { s with sawFile := true }
          setGlobal "FILENAME" (.text operand)
          setGlobal "FNR" (.number 0)
          match ← act (contentAhead operand) with
          | .ok text =>
            modify fun s => { s with
              input := some text
              stdinLength := if operand = "-" then some text.length else none }
            return true
          | .error .isDirectory => throw (.fatal "read error (Is a directory)")
          | .error e =>
            throw (.fatal s!"cannot open \"{operand}\" ({e.words})")
    else if s.sawFile then return false
    else
      let text := (← act (contentAhead "-")).toOption.getD []
      modify fun s => { s with
        sawFile := true
        input := some text
        stdinLength := some text.length }
      return true

/-- Have done with the current file. -/
def closeInput : Exec Unit := do
  let s ← get
  if let some n := s.stdinLength then
    let taken := n - (s.input.getD []).length
    act (Act.consume 0 ((taken + 4095) / 4096 * 4096) 4096)
  modify fun s => { s with input := none, stdinLength := none }

def recordEnd : Exec Terminator := do
  let text ← textOf (← global "RS")
  match terminator? text with
  | .ok t => return t
  | .error _ => return .regex (← regexOf text)

/-- The next record of the operands. -/
def nextRecord : Nat → Exec (Option String)
  | 0 => return none
  | fuel + 1 => do
    match (← get).input with
    | some text =>
      match (← recordEnd).take text with
      | some (record, rest) =>
        modify fun s => { s with input := some rest }
        return some record
      | none =>
        closeInput
        nextRecord fuel
    | none => if ← openNext (fuel + 1) then nextRecord fuel else return none

/-- How many files and operands are looked at. -/
def maxOperands : Nat := 100000

def countRecord (file : Bool) : Exec Unit := do
  setGlobal "NR" (.number ((← global "NR").toNumber + 1))
  if file then setGlobal "FNR" (.number ((← global "FNR").toNumber + 1))

/-- The next record of a file or of the output of a command, and whether it can be read. -/
def nextFrom (isCommand : Bool) (name : String) : Exec (Option (Option String)) := do
  let known : Option (List Char × Nat) ← match (← get).readers.lookup name with
    | some r => pure (some r)
    | none =>
      if isCommand then do
        flush
        let (status, bytes) ← act <| collecting do
          match ← c.start "/bin/sh" ["-c", name] with
          | .ok f => return f.status
          | .error _ => return 127
        pure (some (Octets.ofBytes bytes, status))
      else do
        match ← act (contentOf name) with
        | .ok text => pure (some (text, 0))
        | .error _ => pure none
  match known with
  | none => return none
  | some (text, status) =>
    let (record, rest) := match (← recordEnd).take text with
      | some (record, rest) => (some record, rest)
      | none => (none, [])
    modify fun s => { s with
      readers := (name, rest, status) :: s.readers.filter (·.1 ≠ name) }
    return some record

/-! ### Expressions -/

def arithmetic (op : Operator) (a b : Value) : Exec Value := do
  let (x, y) := (a.toNumber, b.toNumber)
  match op with
  | .add => return .number (x + y)
  | .subtract => return .number (x - y)
  | .multiply => return .number (x * y)
  | .divide => return .number (x / y)
  | .remainder => return .number (remainder x y)
  | .power => return .number (x.pow y)
  | .join => return .text ((← textOf a) ++ (← textOf b))

def Comparison.holds : Comparison → Ordering → Bool
  | .less, o => o = .lt
  | .lessEqual, o => o ≠ .gt
  | .equal, o => o = .eq
  | .notEqual, o => o ≠ .eq
  | .greater, o => o = .gt
  | .greaterEqual, o => o ≠ .lt

/-- A part of a text by the number of its first character and its length. -/
def substring (s : String) (first : Float) (length : Option Float) : String :=
  let cs := s.toList
  let rounded (x : Float) : Int := wholePart (x + 0.5).floor
  let start := rounded first
  let stop : Int := match length with
    | none => cs.length + 1
    | some n => rounded (first + n)
  let start := max 1 start
  String.ofList ((cs.drop (start - 1).toNat).take (stop - start).toNat)

/-- The place of a text in another one, counted from one, or zero. -/
def indexOf (needle : List Char) : Nat → List Char → Nat
  | _, [] => 0
  | n, c :: cs => if needle.isPrefixOf (c :: cs) then n else indexOf needle (n + 1) cs

/-- Functions of numbers and texts. -/
def simpleBuiltin (name : String) (args : List Value) : Exec Value := do
  let arg (n : Nat) : Value := args[n]?.getD .unset
  let x := (arg 0).toNumber
  let text (n : Nat) : Exec String := textOf (arg n)
  match name with
  | "int" => return .number (if x < 0 then x.ceil else x.floor)
  | "sqrt" => return .number x.sqrt
  | "exp" => return .number x.exp
  | "log" => return .number x.log
  | "sin" => return .number x.sin
  | "cos" => return .number x.cos
  | "atan2" => return .number (Float.atan2 x (arg 1).toNumber)
  | "toupper" => return .text ((← text 0).map Char.toUpper)
  | "tolower" => return .text ((← text 0).map Char.toLower)
  | "index" =>
    let needle := (← text 1).toList
    let subject := (← text 0).toList
    return .ofNat (if needle.isEmpty then 1 else indexOf needle 1 subject)
  | "substr" =>
    return .text (substring (← text 0) (arg 1).toNumber (args[2]?.map Value.toNumber))
  | "sprintf" => return .text (← formattedBy "sprintf" args)
  | "rand" =>
    modify fun s => { s with random := (s.random * 1103515245 + 12345) % 0x80000000 }
    return .number ((← get).random.toFloat / 2147483648)
  | "srand" =>
    let before := (← get).seed
    let seed := if args.isEmpty then 1 else (wholePart x).natAbs
    modify fun s => { s with seed := seed, random := seed }
    return .ofNat before
  | "system" =>
    flush
    return .ofNat (statusOf (← runCommand c "sh" (← text 0) none))
  | "close" => return .number (← close c (← text 0))
  | "fflush" =>
    flush
    if args.isEmpty then return .number 0
    let name ← text 0
    let s ← get
    let known := (s.outputs.lookup name).isSome || (s.commands.lookup name).isSome
    return .number (if known then 0 else -1)
  | _ => return .unset

/-- How many steps of a loop are made at most, before it counts as going on for ever. -/
def maxRounds : Nat := 2000000

/-- Which error stands for an endless computation. -/
def endless {α : Type} : Exec α := act (throw .spinning)

/-- Repeat a statement for as long as a condition holds. -/
def repeating (holds : Exec Bool) (body step : Exec Unit) : Nat → Exec Unit
  | 0 => endless
  | fuel + 1 => do
    if ← holds then
      let goes ← try body; pure true catch
        | .break => pure false
        | .continue => pure true
        | e => throw e
      if goes then
        step
        repeating holds body step fuel

mutual
def eval (fuel : Nat) (e : Expr) : Exec Value :=
  match fuel with
  | 0 => endless
  | fuel + 1 => do
    match e with
    | .number x => return .number x
    | .text s => return .text s
    | .regex r => return .ofBool (r.matchesIn {} (← recordText).toList)
    | .variable name => variableValue name
    | .field _ | .element .. => (← resolve fuel e).read
    | .group e => eval fuel e
    | .assign op target value =>
      let ref ← resolve fuel target
      let v ← eval fuel value
      let v ← match op with
        | none => pure v
        | some op => arithmetic op (← ref.read) v
      ref.write v
      return v
    | .choose condition yes no =>
      if (← eval fuel condition).isTrue then eval fuel yes else eval fuel no
    | .both a b =>
      if (← eval fuel a).isTrue then return .ofBool (← eval fuel b).isTrue
      else return .ofBool false
    | .either a b =>
      if (← eval fuel a).isTrue then return .ofBool true
      else return .ofBool (← eval fuel b).isTrue
    | .not e => return .ofBool !(← eval fuel e).isTrue
    | .isIn index name =>
      let key ← keyOf fuel index
      let id ← tableOf name
      let (found, t) := (← table id).find key
      setTable id t
      return .ofBool found.isSome
    | .isMatch negated subject pattern =>
      let text ← textOf (← eval fuel subject)
      let r ← patternOf fuel pattern
      return .ofBool (r.matchesIn {} text.toList != negated)
    | .compare op a b =>
      let x ← eval fuel a
      let y ← eval fuel b
      return .ofBool (op.holds (x.order (← format) y))
    | .binary op a b =>
      let x ← eval fuel a
      let y ← eval fuel b
      arithmetic op x y
    | .negate e => return .number (0 - (← eval fuel e).toNumber)
    | .plus e => return .number (← eval fuel e).toNumber
    | .count up before target =>
      let ref ← resolve fuel target
      let x := (← ref.read).toNumber
      let y := if up then x + 1 else x - 1
      ref.write (.number y)
      return .number (if before then y else x)
    | .call name args => callFunction fuel name args
    | .builtin name args => callBuiltin fuel name args
    | .getline target =>
      match ← nextRecord maxOperands with
      | none => return .number 0
      | some record =>
        countRecord true
        receive fuel target record
        return .number 1
    | .getlineFile target path =>
      let path ← textOf (← eval fuel path)
      match ← nextFrom c false path with
      | none => return .number (-1)
      | some none => return .number 0
      | some (some record) =>
        receive fuel target record
        return .number 1
    | .getlineCommand target command =>
      let command ← textOf (← eval fuel command)
      match ← nextFrom c true command with
      | none => return .number (-1)
      | some none => return .number 0
      | some (some record) =>
        countRecord false
        receive fuel target record
        return .number 1

/-- Put a record that was read into a variable, or make it the current one. -/
def receive (fuel : Nat) (target : Option Expr) (record : String) : Exec Unit :=
  match fuel with
  | 0 => endless
  | fuel + 1 => do
    match target with
    | none => setRecord record
    | some t => (← resolve fuel t).write (outside record)

/-- Where an expression puts its value. -/
def resolve (fuel : Nat) (e : Expr) : Exec Ref :=
  match fuel with
  | 0 => endless
  | fuel + 1 => do
    match e with
    | .variable name => return .variable name
    | .field e =>
      let n := wholePart (← eval fuel e).toNumber
      if n < 0 then fault s!"negative field index ${n}"
      return .field n.toNat
    | .element name index =>
      let key ← keyOf fuel index
      return .element (← tableOf name) key
    | .group e => resolve fuel e
    | _ => fault "illegal target"

def keyOf (fuel : Nat) (index : List Expr) : Exec Key :=
  match fuel with
  | 0 => endless
  | fuel + 1 => do
    match ← index.mapM (eval fuel) with
    | [.number x] =>
      if isWhole x then return .number (wholePart x) else return .text (← textOf (.number x))
    | vs =>
      let between ← textOf (← global "SUBSEP")
      return .text (between.intercalate (← vs.mapM textOf))

/-- The expression that is looked for. -/
def patternOf (fuel : Nat) (e : Expr) : Exec Regex :=
  match fuel with
  | 0 => endless
  | fuel + 1 => do
    match e with
    | .regex r => return r
    | e => regexOf (← textOf (← eval fuel e))

def callBuiltin (fuel : Nat) (name : String) (args : List Expr) : Exec Value :=
  match fuel with
  | 0 => endless
  | fuel + 1 => do
    match name, args with
    | "length", [] => return .ofNat (← recordText).length
    | "length", [.variable x] =>
      match ← cell? x with
      | some (.table id) => return .ofNat (← table id).size
      | some (.undecided id) => return .ofNat (← table id).size
      | _ => return .ofNat (← textOf (← variableValue x)).length
    | "length", e :: _ => return .ofNat (← textOf (← eval fuel e)).length
    | "split", subject :: .variable x :: rest =>
      let text ← textOf (← eval fuel subject)
      let sep : Separator ← match rest with
        | .regex r :: _ => pure (.regex r)
        | e :: _ => do separatorOf (← textOf (← eval fuel e))
        | [] => do separatorOf (← textOf (← global "FS"))
      let parts := sep.fields false text
      setTable (← tableOf x) (.ofList (parts.map outside))
      return .ofNat parts.length
    | "match", [subject, pattern] =>
      let text ← textOf (← eval fuel subject)
      let r ← patternOf fuel pattern
      let (start, length) : Float × Float :=
        match Regex.findFrom? (.ofList {} text.toList) r 0 with
        | some m => ((m.start + 1).toFloat, (m.stop - m.start).toFloat)
        | none => (0, -1)
      setGlobal "RSTART" (.number start)
      setGlobal "RLENGTH" (.number length)
      return .number start
    | _, pattern :: replacement :: rest =>
      if name = "sub" || name = "gsub" then
        let r ← patternOf fuel pattern
        let replacement ← textOf (← eval fuel replacement)
        let ref ← resolve fuel (rest.head?.getD (.field (.number 0)))
        let text ← textOf (← ref.read)
        let (n, text) := replaceMatches r (name = "gsub") replacement text
        if n ≠ 0 then ref.write (.text text)
        return .ofNat n
      else simpleBuiltin c name (← args.mapM (eval fuel))
    | _, args => simpleBuiltin c name (← args.mapM (eval fuel))

/-- What a function gets for an argument. -/
def passed (fuel : Nat) (e : Expr) : Exec Cell :=
  match fuel with
  | 0 => endless
  | fuel + 1 => do
    match e with
    | .variable name =>
      match ← cell? name with
      | some (.table id) => return .table id
      | some (.undecided id) => return .undecided id
      | some (.scalar .unset) | none =>
        if name = "NF" then return .scalar (← variableValue name)
        let id ← newTable
        setCell name (.undecided id)
        return .undecided id
      | some (.scalar _) => return .scalar (← variableValue name)
    | e => return .scalar (← eval fuel e)

def callFunction (fuel : Nat) (name : String) (args : List Expr) : Exec Value :=
  match fuel with
  | 0 => endless
  | fuel + 1 => do
    match c.program.functions.find? (·.name = name) with
    | none => fault s!"function {name} never defined"
    | some f =>
      let cells ← args.mapM (passed fuel)
      let cells := cells ++
        List.replicate (f.parameters.length - cells.length) (Cell.scalar .unset)
      let outer := (← get).locals
      modify fun s => { s with locals := f.parameters.zip cells }
      let v : Value ← try exec fuel f.body; pure .unset catch
        | .return v => pure v
        | e => throw e
      modify fun s => { s with locals := outer }
      return v

def exec (fuel : Nat) (s : Statement) : Exec Unit :=
  match fuel with
  | 0 => endless
  | fuel + 1 => do
    let target : Option Target → Exec (Option (Option Bool × String))
      | none => return none
      | some (.file append path) => do
        return some (some append, ← textOf (← eval fuel path))
      | some (.command e) => do return some (none, ← textOf (← eval fuel e))
    match s with
    | .nothing => return
    | .expr e => discard (eval fuel e)
    | .print args goal =>
      let shown ← textOf (← global "OFMT")
      let parts ← if args.isEmpty then do pure [← recordText] else
        args.mapM fun e => do return (← eval fuel e).toText shown
      let between ← textOf (← global "OFS")
      let ending ← textOf (← global "ORS")
      printTo (between.intercalate parts ++ ending) (← target goal)
    | .printf args goal =>
      let text ← formattedBy "printf" (← args.mapM (eval fuel))
      printTo text (← target goal)
    | .cond condition yes no =>
      if (← eval fuel condition).isTrue then exec fuel yes
      else match no with
        | some no => exec fuel no
        | none => return
    | .while condition body =>
      repeating (return (← eval fuel condition).isTrue) (exec fuel body) (return) maxRounds
    | .doWhile body condition =>
      let first ← try exec fuel body; pure true catch
        | .break => pure false
        | .continue => pure true
        | e => throw e
      if first then
        repeating (return (← eval fuel condition).isTrue) (exec fuel body) (return) maxRounds
    | .for start condition step body =>
      exec fuel start
      let holds : Exec Bool := match condition with
        | none => return true
        | some e => return (← eval fuel e).isTrue
      repeating holds (exec fuel body) (exec fuel step) maxRounds
    | .forIn name tableName body =>
      let id ← tableOf tableName
      let (keys, t) := (← table id).keys
      setTable id t
      forKeys fuel name body keys
    | .block ss => execAll fuel ss
    | .next => throw .next
    | .nextFile => throw .nextFile
    | .exit status =>
      if let some e := status then
        let n := wholePart (← eval fuel e).toNumber
        modify fun s => { s with status := (n % 256).toNat }
      throw .exit
    | .return e =>
      match e with
      | none => throw (.return .unset)
      | some e => throw (.return (← eval fuel e))
    | .break => throw .break
    | .continue => throw .continue
    | .delete name index =>
      let id ← tableOf name
      match index with
      | none => setTable id {}
      | some index => setTable id ((← table id).erase (← keyOf fuel index))

def execAll (fuel : Nat) (ss : List Statement) : Exec Unit :=
  match fuel with
  | 0 => endless
  | fuel + 1 => do
    match ss with
    | [] => return
    | s :: ss => do
      exec fuel s
      execAll fuel ss

/-- Run a statement for each key. -/
def forKeys (fuel : Nat) (name : String) (body : Statement) (keys : List String) : Exec Unit :=
  match fuel with
  | 0 => endless
  | fuel + 1 => do
    match keys with
    | [] => return
    | k :: keys =>
      setVariable name (.text k)
      let goes ← try exec fuel body; pure true catch
        | .break => pure false
        | .continue => pure true
        | e => throw e
      if goes then forKeys fuel name body keys
end

/-! ### Rules -/

/-- How deep expressions, statements and calls may be nested. -/
def maxDepth : Nat := 100000

/-- Whether the rule of a number is for the current record. -/
def applies (n : Nat) (p : Pattern) : Exec Bool := do
  let holds (e : Expr) : Exec Bool := return (← eval c maxDepth e).isTrue
  let setRange (b : Bool) : Exec Unit := modify fun s => { s with ranges := s.ranges.set n b }
  match p with
  | .begin | .end => return false
  | .always => return true
  | .when e => holds e
  | .range first last =>
    if (← get).ranges[n]?.getD false then
      if ← holds last then setRange false
      return true
    else if ← holds first then
      setRange !(← holds last)
      return true
    else return false

def runRules : List (Nat × Rule) → Exec Unit
  | [] => return
  | (n, r) :: rest => do
    if ← applies c n r.pattern then exec c maxDepth r.body
    runRules rest

def runRecords (rules : List (Nat × Rule)) : Nat → Exec Unit
  | 0 => endless
  | fuel + 1 => do
    match ← nextRecord maxOperands with
    | none => return
    | some record =>
      countRecord true
      setRecord record
      try runRules c rules catch
        | .next => pure ()
        | .nextFile => closeInput
        | e => throw e
      runRecords rules fuel

def isBegin : Pattern → Bool
  | .begin => true
  | _ => false

def isEnd : Pattern → Bool
  | .end => true
  | _ => false

/-- Run a program: its rules for the start, those for the records, and those for the end. -/
def runProgram : Exec Unit := do
  let numbered := (List.range c.program.rules.length).zip c.program.rules
  let main := numbered.filter fun r => !isBegin r.2.pattern && !isEnd r.2.pattern
  let ending := numbered.filter fun r => isEnd r.2.pattern
  let leaving (a : Exec Unit) : Exec Unit := do
    try a catch
      | .fatal text => throw (.fatal text)
      | _ => return
  leaving do
    for (_, r) in numbered do
      if isBegin r.pattern then exec c maxDepth r.body
    if !(main.isEmpty && ending.isEmpty) then runRecords c main maxRounds
  leaving do
    for (_, r) in ending do
      exec c maxDepth r.body

/-- Close all that is printed to. -/
def closeAll : Nat → Exec Unit
  | 0 => return
  | fuel + 1 => do
    match (← get).commands with
    | [] => return
    | (command, _) :: _ => do
      discard (closeCommand c command)
      closeAll fuel

/-- Run a program from its first state. The answer is its status. -/
def run (start : State) : Act Nat := do
  let work : Exec Unit := do
    runProgram c
  let (result, s) ← work.run.run start
  let finish : Exec Unit := do
    closeInput
    closeAll c (s.commands.length + 1)
    flush
  match result with
  | .error (.fatal text) =>
    warnAs "awk" text
    let (_, _) ← finish.run.run s
    return 2
  | _ =>
    let (_, s) ← finish.run.run s
    return s.status

end PatchTrial.Shell.Tools.Awk
