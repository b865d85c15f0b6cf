import PatchTrial.Shell.Ending
import PatchTrial.Shell.Tools.Time

/-!
Tools that start other programs.
-/
namespace PatchTrial.Shell.Tools

variable (start : Starter)

/-- The status of a tool that cannot start a program. -/
def startFailure (e : OsError) : Nat := if e = .notFound then 127 else 126

/-- Put a program in the place of a tool, or complain about it. -/
def become (tool complaint : String) (name : String) (args : List String) : Act Nat := do
  match ← start name args with
  | .ok f => endAs f
  | .error e =>
    warnAs tool s!"{complaint}: {e.words}"
    return startFailure e

/-! ### Environments -/

/-- Print the environment, or the values of some variables. -/
def printenv : Tool := fun args =>
  withOptions "printenv" "0|null" args (fun o => do
    let shown := (← Act.process).environment
    let ending := if o.has "0" then "\x00" else "\n"
    if o.operands.isEmpty then
      for (n, v) in shown do
        Act.print s!"{n}={v}{ending}"
      return 0
    else forOperands o.operands fun n => do
      match shown.lookup n with
      | some v =>
        Act.print (v ++ ending)
        return 0
      | none => return 1) 2

/-- Cut a text into the arguments that it stands for. -/
def splitArguments (text : String) : List String :=
  ((Text.pieces (fun c => c == ' ' || c == '\t') text.toList).filter (!·.isEmpty)).map String.ofList

/-- Set what operands that look like assignments say, and give the operands behind them. -/
def assignOperands : List String → Act (List String)
  | [] => return []
  | arg :: rest => do
    match Text.splitAt? '=' arg.toList with
    | some (name, value) =>
      Act.setVariable (String.ofList name) { value := some (String.ofList value), exported := true }
      assignOperands rest
    | none => return arg :: rest

/-- Start a program with other variables. -/
def env : Tool := fun args =>
  let args := match args with
    | arg :: rest =>
      if arg.startsWith "-S" && arg.length > 2 then splitArguments (arg.drop 2).toString ++ rest
      else args
    | [] => []
  let args := match args with
    | "-S" :: text :: rest => splitArguments text ++ rest
    | args => args
  withOptions "env" "i|ignore-environment 0|null u|unset: C|chdir: S|split-string: v|debug" args
    (fun o => do
      let operands := match o.operands with
        | "-" :: rest => rest
        | operands => operands
      if o.has "i" || o.operands.head? = some "-" then
        Act.modifyProcess fun p => { p with bindings := [] }
      for name in o.values "u" do
        Act.restoreVariable name none
      match ← assignOperands operands with
      | [] =>
        let ending := if o.has "0" then "\x00" else "\n"
        for (n, v) in (← Act.process).environment do
          Act.print s!"{n}={v}{ending}"
        return 0
      | name :: args =>
        if let some directory := o.value? "C" then
          let p ← Act.process
          let t := (← Act.world).files
          match t.follow p.here directory with
          | .ok place =>
            if t.isDirectory place then Act.modifyProcess fun p => { p with here := place }
            else
              let shown := Quoting.always directory
              let e := if (t.entry? place).isSome then OsError.notDirectory else .notFound
              warnAs "env" s!"cannot change directory to {shown}: {e.words}"
              return 125
          | .error e =>
            warnAs "env" s!"cannot change directory to {Quoting.always directory}: {e.words}"
            return 125
        let status ← become start "env" (Quoting.text name) name args
        if status = 127 && name.contains ' ' then
          warnAs "env" "use -[v]S to pass options in shebang lines"
        return status) 125 true

/-- Start a program that does not end with its terminal. -/
def nohup : Tool := fun args =>
  withOptions "nohup" "" args (fun o => do
    match o.operands with
    | [] => do
      discard (misuse "nohup" "missing operand")
      return 125
    | name :: args =>
      Act.modifyProcess fun p => { p with traps := ("HUP", "") :: p.traps }
      let complaint := s!"failed to run command {Quoting.always name}"
      become start "nohup" complaint name args) 125 true

/-- Start a program with less of a claim on the processor. -/
def nice : Tool := fun args =>
  let args := match args with
    | arg :: rest =>
      match arg.toList with
      | '-' :: ds =>
        let digits := if ds.head? = some '-' then ds.drop 1 else ds
        if digits.isEmpty || !digits.all Char.isDigit then args
        else "-n" :: String.ofList ds :: rest
      | _ => args
    | [] => []
  withOptions "nice" "n|adjustment:" args (fun o => do
    match o.value? "n" with
    | some n =>
      if (integer? n).isNone then
        warnAs "nice" s!"invalid adjustment {Quoting.text n}"
        return 125
    | none => pure ()
    match o.operands with
    | [] =>
      if o.has "n" then
        discard (misuse "nice" "a command must be given with an adjustment")
        return 125
      Act.print "0\n"
      return 0
    | name :: args => become start "nice" (Quoting.text name) name args) 125 true

/-- Start a program in a session of its own, which does not show. -/
def setsid : Tool := fun args =>
  withOptions "setsid" "c|ctty f|fork w|wait" args (fun o => do
    match o.operands with
    | [] => misuse "setsid" "no command specified"
    | name :: args => become start "setsid" s!"failed to execute {name}" name args) 1 true

/-- Start a program whose standard streams have other buffers, which does not show. -/
def stdbuf : Tool := fun args =>
  withOptions "stdbuf" "i|input: o|output: e|error:" args (fun o => do
    let isMode (text : String) : Bool := text = "L" || (size? text).isSome
    let modes := ["i", "o", "e"].filterMap o.value?
    match modes.find? (!isMode ·), o.operands with
    | some mode, _ =>
      warnAs "stdbuf" s!"invalid mode {Quoting.text mode}"
      return 125
    | none, [] =>
      discard (misuse "stdbuf" "missing operand")
      return 125
    | none, name :: args =>
      if modes.isEmpty then
        discard (misuse "stdbuf" "you must specify a buffering mode option")
        return 125
      become start "stdbuf" s!"failed to run command {Quoting.text name}" name args) 125 true

/-! ### Time limits -/

/-- A signal that is given by number or by name, which may have the usual start. -/
def signal? (s : String) : Option Nat :=
  let s := s.toUpper
  Signal.number? (if s.startsWith "SIG" then (s.drop 3).toString else s)

/-- End a program when its time is up. -/
def timeout : Tool := fun args =>
  withOptions "timeout" "s|signal: k|kill-after: preserve-status foreground v|verbose" args
    (fun o => do
      let fault (text : String) : Act Nat := do
        discard (misuse "timeout" text)
        return 125
      match o.operands with
      | limit :: name :: args =>
        let signal := match o.value? "s" with
          | some text => signal? text
          | none => some Signal.terminate
        match signal, duration? limit, (o.value? "k").map duration? with
        | none, _, _ => fault (Quoting.text ((o.value? "s").getD "") ++ ": invalid signal")
        | _, _, some none =>
          fault ("invalid time interval " ++ Quoting.text ((o.value? "k").getD ""))
        | _, none, _ => fault s!"invalid time interval {Quoting.text limit}"
        | some signal, some ms, _ => do
          let begun ← Act.world
          let deadline := begun.clock + ms
          let outcome : Option (Except OsError Finish) ← try some <$> start name args catch
            | .spinning => pure none
            | e => throw e
          let w ← Act.world
          let timedOut : Act Nat := do
            Act.setWorld (World.cutOff begun deadline w)
            if o.has "v" then
              warnAs "timeout"
                s!"sending signal {Signal.name signal} to command {Quoting.text name}"
            if signal = Signal.kill then throw (.killed (← Act.process).pid signal)
            return if o.has "preserve-status" then 128 + signal else 124
          match outcome with
          | none => if ms = 0 then throw .spinning else timedOut
          | some (.error e) =>
            warnAs "timeout" s!"failed to run command {Quoting.text name}: {e.words}"
            return startFailure e
          | some (.ok f) => if ms ≠ 0 && deadline < w.clock then timedOut else endAs f
      | _ => do
        pointToHelp "timeout"
        return 125) 125 true

/-! ### Arguments from the input -/

/-- What a text of items is read into. -/
structure Items where
  /-- The items of each line that has any, the latest first. -/
  lines : List (List String) := []
  line : List String := []
  item : Option (List Char) := none
  /-- The quote that is open. -/
  quote : Option Char := none
  escaped : Bool := false

namespace Items

def endItem (i : Items) : Items :=
  match i.item with
  | some cs => { i with line := String.ofList cs.reverse :: i.line, item := none }
  | none => i

def endLine (i : Items) : Items :=
  let i := i.endItem
  if i.line.isEmpty then i else { i with lines := i.line.reverse :: i.lines, line := [] }

/-- Go on with a character; blanks end items unless whole lines are wanted. -/
def add (whole : Bool) (i : Items) (c : Char) : Items :=
  let put (c : Char) : Items := { i with item := some (c :: i.item.getD []), escaped := false }
  if i.escaped then put c
  else
    match i.quote with
    | some q => if c = q then { i with quote := none, item := some (i.item.getD []) } else put c
    | none =>
      if c = '\\' then { i with escaped := true, item := some (i.item.getD []) }
      else if c = '\'' || c = '"' then { i with quote := some c, item := some (i.item.getD []) }
      else if c = '\n' then i.endLine
      else if c = ' ' || c = '\t' then
        if whole then (if i.item.isSome then put c else i) else i.endItem
      else put c

/-- The text up to the end of the first line in which a quote stays open. -/
def read (whole : Bool) : List Char → Items → Items
  | [], i => i.endLine
  | c :: cs, i => if c = '\n' && i.quote.isSome then i else read whole cs (i.add whole c)

end Items

/-- Items in groups of a size. -/
def chunks {α : Type} (n : Nat) : Nat → List α → List (List α)
  | 0, _ => []
  | fuel + 1, xs => if xs.isEmpty then [] else xs.take n :: chunks n fuel (xs.drop n)

/-- Put a text in the place of each occurrence of another one. -/
def substituted (mark text : List Char) : Nat → List Char → List Char
  | 0, cs => cs
  | _ + 1, [] => []
  | fuel + 1, c :: cs =>
    if !mark.isEmpty && mark.isPrefixOf (c :: cs) then
      text ++ substituted mark text fuel ((c :: cs).drop mark.length)
    else c :: substituted mark text fuel cs

/-- Run commands one after another; the status tells of the worst that has happened. -/
def runAll (trace : Bool) : List (List String) → Nat → Act Nat
  | [], status => return status
  | [] :: rest, status => runAll trace rest status
  | (name :: args) :: rest, status => do
    if trace then Act.warn (" ".intercalate ((name :: args).map Quoting.ifNeeded))
    match ← start name args with
    | .error e =>
      warnAs "xargs" s!"{name}: {e.words}"
      return startFailure e
    | .ok (.exited 0) => runAll trace rest status
    | .ok (.exited 255) =>
      warnAs "xargs" s!"{name}: exited with status 255; aborting"
      return 124
    | .ok (.exited _) => runAll trace rest 123
    | .ok (.killed signal) =>
      warnAs "xargs" s!"{name}: terminated by signal {signal}"
      return 125

def xargs : Tool := fun args =>
  withOptions "xargs"
    ("0|null a|arg-file: d|delimiter: E: I: i|replace? L: l|max-lines? n|max-args: P|max-procs: " ++
      "p|interactive r|no-run-if-empty s|max-chars: t|verbose x|exit o|open-tty")
    args (fun o => do
      let number (key : String) : Except String (Option Nat) :=
        match o.value? key with
        | none => .ok none
        | some text =>
          match natural? text with
          | some 0 => .error s!"value 0 for -{key} option should be >= 1"
          | some n => .ok (some n)
          | none => .error s!"invalid number \"{text}\" for -{key} option"
      let hidden : Except String Unit := do
        discard (number "s")
        match o.value? "P" with
        | none => return ()
        | some text =>
          if (natural? text).isNone then throw s!"invalid number \"{text}\" for -P option"
      let isDelimiter (d : String) : Bool := d.length = 1 || d.startsWith "\\"
      match number "n", number "L", hidden, (o.value? "d").filter (!isDelimiter ·) with
      | .error text, _, _, _ => misuse "xargs" text
      | _, .error text, _, _ => misuse "xargs" text
      | _, _, .error text, _ => misuse "xargs" text
      | _, _, _, some d =>
        fail "xargs" (s!"Invalid input delimiter specification {d}: the delimiter must be " ++
          "either a single character or an escape sequence starting with \\.")
      | .ok most, .ok mostLines, .ok (), none => do
        let content ← match o.value? "a" with
          | some path => contentOf path
          | none => pure (.ok ((← Act.readAll 0).getD []))
        match content with
        | .error e =>
          let path := Quoting.text ((o.value? "a").getD "")
          fail "xargs" s!"Cannot open input file {path}: {e.words}"
        | .ok text => do
          let mark := (o.value? "I").or (if o.has "i" then
            some (if (o.value? "i").getD "" = "" then "\x7b\x7d" else (o.value? "i").getD "")
            else none)
          let delimiter : Option Char := if o.has "0" then some (Char.ofNat 0)
            else (o.value? "d").map fun d =>
              match d.toList with
              | ['\\', 'n'] => '\n'
              | ['\\', 't'] => '\t'
              | ['\\', '0'] => Char.ofNat 0
              | c :: _ => c
              | [] => Char.ofNat 0
          let (lines, open_) : List (List String) × Option Char := match delimiter with
            | some d => ((recordsOf d text).1.map fun r => [String.ofList r], none)
            | none =>
              let i := Items.read mark.isSome text {}
              ((if i.quote.isSome then i.endItem.endLine.lines else i.lines).reverse, i.quote)
          let lines := match o.value? "E" with
            | some word =>
              let items := lines.flatten.takeWhile (· != word)
              if items.length = lines.flatten.length then lines else items.map ([·])
            | none => lines
          let command := if o.operands.isEmpty then ["echo"] else o.operands
          let commands : List (List String) := match mark with
            | some mark => lines.flatten.map fun item => command.map fun arg =>
                String.ofList (substituted mark.toList item.toList (arg.length + 1) arg.toList)
            | none =>
              let groups := match mostLines, most with
                | some n, none => (chunks n (lines.length + 1) lines).map List.flatten
                | _, some n => chunks n (lines.flatten.length + 1) lines.flatten
                | none, none => if lines.isEmpty then [] else [lines.flatten]
              if groups.isEmpty then (if o.has "r" then [] else [command])
              else groups.map fun g => command ++ g
          Act.modifyProcess fun p => { p with
            channels := (0, .nowhere) :: p.channels.filter (·.1 != 0) }
          let status ← runAll start (o.has "t") commands 0
          match open_ with
          | some q =>
            let kind := if q = '"' then "double" else "single"
            fail "xargs" (s!"unmatched {kind} quote; by default quotes are special to xargs " ++
              "unless you use the -0 option")
          | none => return status) 1 true

end PatchTrial.Shell.Tools
