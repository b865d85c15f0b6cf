import PatchTrial.Shell.Tools.Options

/-!
Working on the columns of lines: parts of lines, lines side by side, lines of a limited width, and
tabs in place of blanks.
-/
namespace PatchTrial.Shell.Tools

open Quoting (always ifNeeded)

/-! ### Parts of lines -/

namespace Cut

/-- What is numbered. -/
inductive Unit where
  | octet
  | field
  deriving DecidableEq, Repr

inductive Fault where
  | noList
  | twoLists
  | badDelimiter
  | delimiterForOctets
  | suppressOctets
  | zero (u : Unit)
  | badNumber (u : Unit) (text : String)
  | tooLarge (u : Unit) (digits : String)
  | badRange (u : Unit)
  | decreasing
  | noEndpoint
  deriving DecidableEq, Repr

def Fault.message : Fault → String
  | .noList => "you must specify a list of bytes, characters, or fields"
  | .twoLists => "only one list may be specified"
  | .badDelimiter => "the delimiter must be a single character"
  | .delimiterForOctets => "an input delimiter may be specified only when operating on fields"
  | .suppressOctets =>
    "suppressing non-delimited lines makes sense\n\tonly when operating on fields"
  | .zero .octet => "byte/character positions are numbered from 1"
  | .zero .field => "fields are numbered from 1"
  | .badNumber .octet text => s!"invalid byte/character position {Quoting.text text}"
  | .badNumber .field text => s!"invalid field value {Quoting.text text}"
  | .tooLarge .octet digits => s!"byte/character offset {Quoting.text digits} is too large"
  | .tooLarge .field digits => s!"field number {Quoting.text digits} is too large"
  | .badRange .octet => "invalid byte or character range"
  | .badRange .field => "invalid field range"
  | .decreasing => "invalid decreasing range"
  | .noEndpoint => "invalid range with no endpoint: -"

/-- A range of numbers. It may have no end. -/
abbrev Range := Nat × Option Nat

/-- Read one range. What is read of the list up to its end is reported if it is no number. -/
def readRange (u : Unit) (text rest : List Char) : Except Fault Range := do
  let number (cs : List Char) : Except Fault (Option Nat × List Char) :=
    let ds := cs.takeWhile Char.isDigit
    let n := Nat.ofDigitChars 10 ds 0
    if ds.isEmpty then .ok (none, cs)
    else if 0x10000000000000000 - 1 ≤ n then .error (.tooLarge u (String.ofList ds))
    else .ok (some n, cs.drop ds.length)
  let bad (cs : List Char) : Except Fault Range :=
    .error (.badNumber u (String.ofList (cs ++ rest)))
  let (first, more) ← number text
  match more with
  | [] =>
    match first with
    | none => .error (.zero u)
    | some 0 => .error (.zero u)
    | some n => return (n, some n)
  | '-' :: more =>
    let (last, end') ← number more
    match end' with
    | '-' :: _ => .error (.badRange u)
    | _ :: _ => bad end'
    | [] =>
      match first, last with
      | none, none => .error .noEndpoint
      | some 0, _ => .error (.zero u)
      | _, none => return (first.getD 1, none)
      | _, some b =>
        if b < first.getD 1 then .error .decreasing else return (first.getD 1, some b)
  | more => bad more

/-- Read ranges that are separated by commas or blanks. -/
def readRanges (u : Unit) : List (List Char) → Except Fault (List Range)
  | [] => .ok []
  | piece :: pieces => do
    let r ← readRange u piece (pieces.flatMap (',' :: ·))
    return r :: (← readRanges u pieces)

/-- The ranges in ascending order, those that overlap joined. -/
def joined (rs : List Range) : List Range :=
  let sorted := rs.mergeSort fun a b => decide (a.1 ≤ b.1)
  (sorted.foldl (fun (out : List Range) r =>
    match out with
    | (a, none) :: rest => (a, none) :: rest
    | (a, some b) :: rest =>
      if r.1 ≤ b then (a, r.2.map (max b)) :: rest else r :: (a, some b) :: rest
    | [] => [r]) []).reverse

/-- What is between ranges in ascending order. -/
def complement : Nat → List Range → List Range
  | start, [] => [(start, none)]
  | start, (a, b) :: rest =>
    (if start < a then [(start, some (a - 1))] else []) ++
      match b with
      | none => []
      | some b => complement (b + 1) rest

def isIn (rs : List Range) (n : Nat) : Bool := rs.any fun (a, b) => a ≤ n && b.all (n ≤ ·)

def startsAt (rs : List Range) (n : Nat) : Bool := rs.any (·.1 = n)

/-- The octets of a line that are in the ranges; `between` stands between two ranges. -/
def octets (rs : List Range) (between line : List Char) : List Char :=
  let chosen := (line.mapIdx fun i c => (i + 1, c)).filter fun (n, _) => isIn rs n
  chosen.foldl (fun out (n, c) =>
    out ++ (if !out.isEmpty && startsAt rs n then between else []) ++ [c]) []

/-- The fields of a line that are in the ranges; none if the line is not shown. -/
def fields? (rs : List Range) (delimiter : Char) (between : List Char) (suppress : Bool)
    (line : List Char) : Option (List Char) :=
  match Text.pieces (· == delimiter) line with
  | [_] => if suppress then none else some line
  | pieces =>
    let chosen := (pieces.mapIdx fun i p => (i + 1, p)).filter fun (n, _) => isIn rs n
    some (between.intercalate (chosen.map (·.2)))

end Cut

def cut : Tool := fun args =>
  withOptions "cut"
    ("b|bytes: c|characters: d|delimiter: f|fields: n s|only-delimited z|zero-terminated " ++
      "complement output-delimiter:")
    args fun o => do
      let complain (fault : Cut.Fault) : Act Nat := misuse "cut" fault.message
      let lists := o.given.filter fun (key, _) => ["b", "c", "f"].contains key
      if (o.values "d").any (1 < ·.length) then return ← complain .badDelimiter
      match lists with
      | [] => complain .noList
      | _ :: _ :: _ => complain .twoLists
      | [(key, list)] =>
        let u : Cut.Unit := if key = "f" then .field else .octet
        if u = .octet && o.has "d" then return ← complain .delimiterForOctets
        if u = .octet && o.has "s" then return ← complain .suppressOctets
        let pieces := Text.pieces (fun c => c == ',' || c == ' ' || c == '\t')
          (list.getD "").toList
        match Cut.readRanges u pieces with
        | .error fault => complain fault
        | .ok rs =>
          let rs := Cut.joined rs
          let rs := if o.has "complement" then Cut.complement 1 rs else rs
          let terminator := if o.has "z" then Char.ofNat 0 else '\n'
          let delimiter := match o.value? "d" with
            | some d => d.toList.headD (Char.ofNat 0)
            | none => '\t'
          let between := match o.value? "output-delimiter" with
            | some text => if text.isEmpty then [Char.ofNat 0] else text.toList
            | none => if u = .field then [delimiter] else []
          forOperands (if o.operands.isEmpty then ["-"] else o.operands) fun path => do
            match ← contentOf path with
            | .error e => fail "cut" s!"{ifNeeded path}: {e.words}"
            | .ok text =>
              emit ((recordsOf terminator text).1.flatMap fun line =>
                match u with
                | .octet => Cut.octets rs between line ++ [terminator]
                | .field =>
                  match Cut.fields? rs delimiter between (o.has "s") line with
                  | some line => line ++ [terminator]
                  | none => [])
              return 0

/-! ### Lines side by side -/

/-- The delimiters that a list names; some stand for no character. None for a list that ends in a
lone backslash. -/
def readDelimiters : List Char → Option (List (Option Char))
  | [] => some []
  | ['\\'] => none
  | '\\' :: c :: cs =>
    let meaning : Option Char := match c with
      | '0' => none
      | 'b' => some (Char.ofNat 8)
      | 'f' => some (Char.ofNat 12)
      | 'n' => some '\n'
      | 'r' => some '\r'
      | 't' => some '\t'
      | 'v' => some (Char.ofNat 11)
      | c => some c
    (readDelimiters cs).map (meaning :: ·)
  | c :: cs => (readDelimiters cs).map (some c :: ·)

/-- Texts with delimiters between them, which are used in turn. -/
def delimited (ds : List (Option Char)) (texts : List (List Char)) : List Char :=
  (texts.mapIdx fun i text =>
    (if i = 0 then [] else
      ((ds[(i - 1) % ds.length]?).join.map ([·])).getD []) ++ text).flatten

/-- The lines of several texts in rounds. Each dash among the paths takes the next line of the
standard input. -/
def pasteRounds (paths : List String) : Nat → List (List (List Char)) → List (List Char) →
    List (List (List Char))
  | 0, _, _ => []
  | fuel + 1, texts, input =>
    let (round, input) := (paths.zip texts).foldl
      (fun (out, input) (path, lines) =>
        if path = "-" then
          match input with
          | [] => (out ++ [(none, lines)], [])
          | line :: rest => (out ++ [(some line, lines)], rest)
        else (out ++ [(lines.head?, lines.drop 1)], input))
        (([] : List (Option (List Char) × _)), input)
    if round.all (·.1.isNone) then []
    else (round.map fun x => x.1.getD []) :: pasteRounds paths fuel (round.map (·.2)) input

def paste : Tool := fun args =>
  withOptions "paste" "s|serial d|delimiters: z|zero-terminated" args fun o => do
    let list := (o.value? "d").getD "\t"
    match readDelimiters list.toList with
    | none => fail "paste" s!"delimiter list ends with an unescaped backslash: {list}"
    | some ds =>
      let ds := if ds.isEmpty then [none] else ds
      let terminator := if o.has "z" then Char.ofNat 0 else '\n'
      let paths := if o.operands.isEmpty then ["-"] else o.operands
      if o.has "s" then
        forOperands paths fun path => do
          match ← contentOf path with
          | .error e => fail "paste" s!"{ifNeeded path}: {e.words}"
          | .ok text =>
            emit (delimited ds (recordsOf terminator text).1 ++ [terminator])
            return 0
      else
        let input ← if paths.contains "-" then Act.readAll 0 else pure none
        let mut texts : List (List (List Char)) := []
        for path in paths do
          if path = "-" then texts := texts ++ [[]]
          else
            match ← contentOf path with
            | .error e => return ← fail "paste" s!"{ifNeeded path}: {e.words}"
            | .ok text => texts := texts ++ [(recordsOf terminator text).1]
        let input := (recordsOf terminator (input.getD [])).1
        let most := texts.foldl (fun n text => n + text.length) input.length
        let rounds := pasteRounds paths (most + 1) texts input
        emit (rounds.flatMap fun texts => delimited ds texts ++ [terminator])
        return 0

/-! ### Limited width -/

/-- The column behind a character. -/
def nextColumn (byOctet : Bool) (column : Nat) (c : Char) : Nat :=
  if byOctet then column + 1
  else if c = '\x08' then column - 1
  else if c = '\r' then 0
  else if c = '\t' then (column / 8 + 1) * 8
  else column + 1

/-- A line that is being filled: its characters, the latest first, and its width. -/
structure Filling where
  /-- Lines that are full, the latest first. -/
  done : List (List Char) := []
  line : List Char := []

/-- Break one line at a width, behind a blank if that is asked for. -/
def foldLine (width : Nat) (byOctet atBlanks : Bool) (line : List Char) : List (List Char) :=
  let widthOf (cs : List Char) : Nat := cs.foldl (nextColumn byOctet) 0
  let f := line.foldl (fun (f : Filling) c =>
    if nextColumn byOctet (widthOf f.line.reverse) c ≤ width || f.line.isEmpty then
      { f with line := c :: f.line }
    else
      let tail := f.line.takeWhile fun x => !(x == ' ' || x == '\t')
      let lead := f.line.drop tail.length
      if atBlanks && !lead.isEmpty then ⟨lead.reverse :: f.done, c :: tail⟩
      else ⟨f.line.reverse :: f.done, [c]⟩) {}
  (if f.line.isEmpty && !f.done.isEmpty then f.done else f.line.reverse :: f.done).reverse

def fold : Tool := fun args =>
  let args := args.map fun arg =>
    match arg.toList with
    | '-' :: cs => if !cs.isEmpty && cs.all Char.isDigit then "-w" ++ String.ofList cs else arg
    | _ => arg
  withOptions "fold" "b|bytes s|spaces w|width:" args fun o => do
    let text := (o.value? "w").getD "80"
    match natural? text with
    | none => fail "fold" s!"invalid number of columns: {Quoting.text text}"
    | some 0 =>
      fail "fold" s!"invalid number of columns: {Quoting.text text}: Numerical result out of range"
    | some width =>
      forOperands (if o.operands.isEmpty then ["-"] else o.operands) fun path => do
        match ← contentOf path with
        | .error e => fail "fold" s!"{ifNeeded path}: {e.words}"
        | .ok text =>
          let (lines, ended) := linesOf text
          let out := joinLines (lines.flatMap (foldLine width (o.has "b") (o.has "s")))
          emit (if ended then out else out.dropLast)
          return 0

/-! ### Tabs -/

/-- Where tabs lead: so many columns each, or to columns that are listed. -/
inductive TabStops where
  | every (n : Nat)
  | listed (columns : List Nat)
  deriving DecidableEq, Repr

/-- The column that a tab leads to; none behind the last one listed. -/
def TabStops.next? : TabStops → Nat → Option Nat
  | .every n, column => some ((column / n + 1) * n)
  | .listed ns, column => ns.find? (column < ·)

def readTabStops (texts : List String) : Except String TabStops := do
  if texts.isEmpty then return .every 8
  let words := texts.flatMap fun text =>
    (Text.pieces (fun c => c == ',' || c == ' ' || c == '\t') text.toList).filter (!·.isEmpty)
  let ns ← words.mapM fun w => do
    let digits := match w with
      | '/' :: ds => ds
      | '+' :: ds => ds
      | ds => ds
    match natural? (String.ofList digits) with
    | some n => pure n
    | none =>
      let rest := String.ofList (digits.dropWhile Char.isDigit)
      throw s!"tab size contains invalid character(s): {Quoting.text rest}"
  if ns.contains 0 then throw "tab size cannot be 0"
  if !(ns.zip (ns.drop 1)).all (fun (a, b) => a < b) then throw "tab sizes must be ascending"
  match ns with
  | [] => return .every 8
  | [n] => return .every n
  | ns => return .listed ns

/-- Blanks in place of the tabs of a line; `onlyLeading` leaves those behind other characters. -/
def expandLine (stops : TabStops) (onlyLeading : Bool) : Nat → Bool → List Char → List Char
  | _, _, [] => []
  | column, leading, c :: cs =>
    if c = '\t' && (leading || !onlyLeading) then
      let next := (stops.next? column).getD (column + 1)
      List.replicate (next - column) ' ' ++ expandLine stops onlyLeading next leading cs
    else
      let column := if c = '\x08' then column - 1 else column + 1
      c :: expandLine stops onlyLeading column (leading && c == ' ') cs

/-- Options with the numbers that were given as options made tab stops. -/
def tabOptions (args : List String) : List String :=
  args.map fun arg =>
    match arg.toList with
    | '-' :: c :: cs =>
      if c.isDigit && cs.all fun x => x.isDigit || x == ',' then "-t" ++ String.ofList (c :: cs)
      else arg
    | _ => arg

def expand : Tool := fun args =>
  withOptions "expand" "i|initial t|tabs:" (tabOptions args) fun o => do
    match readTabStops (o.values "t") with
    | .error text => fail "expand" text
    | .ok stops =>
      forOperands (if o.operands.isEmpty then ["-"] else o.operands) fun path => do
        match ← contentOf path with
        | .error e => fail "expand" s!"{ifNeeded path}: {e.words}"
        | .ok text =>
          let (lines, ended) := linesOf text
          let out := joinLines (lines.map (expandLine stops (o.has "i") 0 true))
          emit (if ended then out else out.dropLast)
          return 0

/-- A line whose blanks become tabs. -/
structure Tabbing where
  column : Nat := 0
  /-- Blanks that have been read and not been written, the latest first. -/
  blanks : List Char := []
  /-- Whether the first of them reaches a tab stop by itself. -/
  single : Bool := false
  afterBlank : Bool := true
  converts : Bool := true
  /-- What has been written, the latest first. -/
  out : List Char := []

namespace Tabbing

/-- Write the blanks that are left. -/
def flush (t : Tabbing) : Tabbing :=
  let blanks := if 1 < t.blanks.length && t.single then t.blanks.dropLast ++ ['\t'] else t.blanks
  { t with out := blanks ++ t.out, blanks := [], single := false }

/-- Write a tab in place of the blanks before it. -/
def tab (t : Tabbing) (column : Nat) : Tabbing :=
  { t with
    column
    out := '\t' :: ((if t.single then ['\t'] else []) ++ t.out)
    blanks := []
    single := false
    afterBlank := true }

/-- One more character. -/
def next (stops : TabStops) (all : Bool) (t : Tabbing) (c : Char) : Tabbing :=
  if !t.converts then { t with out := c :: t.out }
  else if c = ' ' || c = '\t' then
    match stops.next? t.column with
    | none =>
      let t := t.flush
      { t with converts := false, out := c :: t.out }
    | some stop =>
      if c = '\t' then t.tab stop
      else if t.afterBlank && t.column + 1 = stop then t.tab stop
      else
        { t with
          column := t.column + 1
          single := t.single || t.column + 1 = stop
          blanks := ' ' :: t.blanks
          afterBlank := true }
  else
    let t := t.flush
    { t with
      column := if c = '\x08' then t.column - 1 else t.column + 1
      out := c :: t.out
      afterBlank := false
      converts := all }

end Tabbing

/-- Tabs in place of the blanks of a line. -/
def unexpandLine (stops : TabStops) (all : Bool) (line : List Char) : List Char :=
  (line.foldl (Tabbing.next stops all) {}).flush.out.reverse

def unexpand : Tool := fun args =>
  withOptions "unexpand" "a|all first-only t|tabs:" (tabOptions args) fun o => do
    match readTabStops (o.values "t") with
    | .error text => fail "unexpand" text
    | .ok stops =>
      let all := (o.has "a" || o.has "t") && !o.has "first-only"
      forOperands (if o.operands.isEmpty then ["-"] else o.operands) fun path => do
        match ← contentOf path with
        | .error e => fail "unexpand" s!"{ifNeeded path}: {e.words}"
        | .ok text =>
          let (lines, ended) := linesOf text
          let out := joinLines (lines.map (unexpandLine stops all))
          emit (if ended then out else out.dropLast)
          return 0

end PatchTrial.Shell.Tools
