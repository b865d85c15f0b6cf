import PatchTrial.Regex.Reader
import PatchTrial.Shell.Tools.Files

/-!
Tools that show texts as they are, numbered, backwards or in part.
-/
namespace PatchTrial.Shell.Tools

open Quoting (always ifNeeded)

/-! ### Whole texts -/

/-- How a character is shown that cannot be printed. -/
def visible (c : Char) : List Char :=
  let rec low (n : Nat) : List Char :=
    if n < 32 then ['^', Char.ofNat (n + 64)] else if n = 127 then ['^', '?'] else [Char.ofNat n]
  let n := c.toNat
  if n < 128 then low n else 'M' :: '-' :: low (n - 128)

/-- A line as the flags ask for it. -/
def dressed (o : Options) (line : List Char) (ended : Bool) : List Char :=
  let nonprinting := o.has "v" || o.has "A" || o.has "e" || o.has "t"
  let tabs := o.has "T" || o.has "A" || o.has "t"
  let ends := o.has "E" || o.has "A" || o.has "e"
  let shown := line.flatMap fun c =>
    if c = '\t' then (if tabs then ['^', 'I'] else [c])
    else if nonprinting then visible c else [c]
  let shown := if ends && !nonprinting && ended && shown.getLast? = some '\r' then
      shown.dropLast ++ ['^', 'M'] else shown
  shown ++ (if ended then (if ends then ['$', '\n'] else ['\n']) else [])

/-- What is carried from one line to the next, also across files. -/
structure Dressing where
  number : Nat := 0
  blanks : Nat := 0
  /-- Whether the line before was ended. -/
  atStart : Bool := true

/-- Lines as the flags ask for them. -/
def dressLines (o : Options) : List (List Char) → Bool → Dressing → List (List Char) →
    List (List Char) × Dressing
  | [], _, d, out => (out.reverse, d)
  | line :: rest, ended, d, out =>
    let isEnded := ended || !rest.isEmpty
    let blank := line.isEmpty && d.atStart && isEnded
    let blanks := if blank then d.blanks + 1 else 0
    if o.has "s" && 1 < blanks then dressLines o rest ended { d with blanks := blanks } out
    else
      let counts := d.atStart && (if o.has "b" then !blank else o.has "n")
      let number := if counts then d.number + 1 else d.number
      let lead := if counts then (right 6 (toString number) ++ "\t").toList else []
      dressLines o rest ended ⟨number, blanks, isEnded⟩ ((lead ++ dressed o line isEnded) :: out)

def cat : Tool := fun args =>
  withOptions "cat"
    ("n|number b|number-nonblank s|squeeze-blank E|show-ends T|show-tabs v|show-nonprinting " ++
      "A|show-all e t u")
    args fun o => do
      let plain := o.given.all (·.1 = "u")
      let target := (← Act.process).channels.lookup 1
      let mut dressing : Dressing := {}
      let mut status := 0
      if target.isNone then return ← fail "cat" s!"standard output: {OsError.badDescriptor.words}"
      for path in if o.operands.isEmpty then ["-"] else o.operands do
        let same : Bool := match target, (← placeOf path).toOption with
          | some (.file p), some q => p == q
          | _, _ => false
        let known ← contentOf path
        let nonempty : Bool := match known with
          | .ok text => !text.isEmpty
          | .error _ => false
        if path != "-" && same && nonempty then
          status ← fail "cat" s!"{ifNeeded path}: input file is output file"
        else
          match known with
          | .error e => status ← fail "cat" s!"{ifNeeded path}: {e.words}"
          | .ok text =>
            if plain then emit text
            else
              let (lines, ended) := linesOf text
              let (shown, next) := dressLines o lines ended dressing []
              dressing := next
              emit shown.flatten
      return status

/-- The pieces of a text, each with what separates it from the next one. -/
def piecesWith (separator : List Char) (before : Bool) : Nat → List Char → List Char →
    List (List Char)
  | 0, cur, _ => [cur.reverse]
  | _ + 1, cur, [] => if cur.isEmpty then [] else [cur.reverse]
  | fuel + 1, cur, c :: cs =>
    if separator.isPrefixOf (c :: cs) && !separator.isEmpty then
      let rest := (c :: cs).drop separator.length
      if before then cur.reverse :: piecesWith separator before fuel separator.reverse rest
      else (separator.reverse ++ cur).reverse :: piecesWith separator before fuel [] rest
    else piecesWith separator before fuel (c :: cur) cs

/-- The lines of texts in reverse order. -/
def tac : Tool := fun args =>
  withOptions "tac" "b|before r|regex s|separator:" args fun o => do
    let separator := ((o.value? "s").getD "\n").toList
    forOperands (if o.operands.isEmpty then ["-"] else o.operands) fun path => do
      match ← contentOf path with
      | .error .isDirectory => fail "tac" s!"{ifNeeded path}: read error: Invalid argument"
      | .error e => fail "tac" s!"failed to open {always path} for reading: {e.words}"
      | .ok text =>
        emit (piecesWith separator (o.has "b") (text.length + 1) [] text).reverse.flatten
        return 0

/-- Each line backwards. -/
def rev : Tool := fun args =>
  withOptions "rev" "" args fun o =>
    forOperands (if o.operands.isEmpty then ["-"] else o.operands) fun path => do
      match ← contentOf path with
      | .error e => fail "rev" s!"cannot open {path}: {e.words}"
      | .ok text =>
        let (lines, ended) := linesOf text
        let out := joinLines (lines.map List.reverse)
        emit (if ended then out else out.dropLast)
        return 0

def tee : Tool := fun args =>
  withOptions "tee" "a|append i|ignore-interrupts p output-error?" args fun o => do
    let text := (← Act.readAll 0).getD []
    let here := (← Act.process).here
    emit text
    forOperands o.operands fun path => do
      if path = "/dev/null" then return 0
      if path = "/dev/stderr" then
        discard (Act.write 2 (Octets.toBytes text))
        return 0
      if path = "/dev/stdout" || path = "-" then
        emit text
        return 0
      let old ← match ← entryAt path with
        | some (.file content ..) => pure (if o.has "a" then content else .empty)
        | _ => pure ByteArray.empty
      changeFiles "tee" (ifNeeded path) fun t => t.write here path (old ++ Octets.toBytes text)

/-! ### Numbered lines -/

/-- Which lines get a number. -/
inductive Numbering where
  | all
  | nonempty
  | none
  | matching (r : Regex)

def numbering? (s : String) : Option Numbering :=
  match s.toList with
  | ['a'] => some .all
  | ['t'] => some .nonempty
  | ['n'] => some .none
  | 'p' :: cs => (Regex.ofNotation? .basic cs).map .matching
  | _ => Option.none

/-- The part of a page that a line begins, if it does. -/
def pagePart? (line : List Char) : Option Nat :=
  if line = "\\:\\:\\:".toList then some 0
  else if line = "\\:\\:".toList then some 1
  else if line = "\\:".toList then some 2
  else none

def nl : Tool := fun args =>
  withOptions "nl"
    ("b|body-numbering: h|header-numbering: f|footer-numbering: i|line-increment: " ++
      "l|join-blank-lines: n|number-format: p|no-renumber s|number-separator: " ++
      "v|starting-line-number: w|number-width: d|section-delimiter:")
    args fun o => do
      let styles := [("h", "n"), ("b", "t"), ("f", "n")].map fun (key, standard) =>
        numbering? ((o.value? key).getD standard)
      let number (key : String) (standard : Int) : Option Int :=
        match o.value? key with
        | some text => integer? text
        | none => some standard
      let wrongNumber := [("v", "starting line number"), ("i", "line number increment"),
        ("l", "line number of blank lines"), ("w", "line number field width")].find?
          fun (key, _) => (o.value? key).any fun text => (integer? text).isNone
      let wrongStyle := [("h", "header"), ("b", "body"), ("f", "footer")].find?
        fun (key, _) => (o.value? key).any fun text => (numbering? text).isNone
      if let some (key, what) := wrongNumber then
        return ← fail "nl" ("invalid " ++ what ++ ": " ++ Quoting.text ((o.value? key).getD ""))
      if let some (key, part) := wrongStyle then
        let style := Quoting.text ((o.value? key).getD "")
        return ← misuse "nl" s!"invalid {part} numbering style: {style}"
      let isFormat := ["ln", "rn", "rz"].contains
      if let some format := (o.value? "n").filter (!isFormat ·) then
        return ← misuse "nl" s!"invalid line numbering format: {Quoting.text format}"
      match styles.mapM id, number "v" 1, number "i" 1, number "w" 6, number "l" 1 with
      | some styles, some start, some step, some width, some join => do
        let width := width.toNat
        let separator := (o.value? "s").getD "\t"
        let shown (n : Int) : String :=
          match (o.value? "n").getD "rn" with
          | "ln" => left width (toString n)
          | "rz" =>
            let digits := toString n.natAbs
            let sign := if n < 0 then "-" else ""
            let missing := width - sign.length - digits.length
            sign ++ String.ofList (List.replicate missing '0') ++ digits
          | _ => right width (toString n)
        let unnumbered := String.ofList (List.replicate (width + separator.length) ' ')
        let mut status := 0
        let mut n := start
        let mut part := 1
        let mut blanks := 0
        for path in if o.operands.isEmpty then ["-"] else o.operands do
          match ← contentOf path with
          | .error e => status ← fail "nl" s!"{ifNeeded path}: {e.words}"
          | .ok text =>
            for line in (linesOf text).1 do
              match pagePart? line with
              | some p =>
                part := p
                if !o.has "p" && p ≤ 1 then n := start
                Act.print "\n"
              | none =>
                let chosen : Bool := match styles.getD part .none with
                  | .all =>
                    if line.isEmpty && 1 < join then blanks % join.toNat = join.toNat - 1 else true
                  | .nonempty => !line.isEmpty
                  | .none => false
                  | .matching r => r.matchesIn {} line
                blanks := if line.isEmpty then (if chosen then 0 else blanks + 1) else 0
                if chosen then
                  emit ((shown n).toList ++ separator.toList ++ line ++ ['\n'])
                  n := n + step
                else emit (unnumbered.toList ++ line ++ ['\n'])
        return status
      | _, _, _, _, _ => return 1

/-! ### Parts -/

/-- The old way to give a number of lines, in the new one. -/
def countOption (args : List String) : List String :=
  match args with
  | arg :: rest =>
    match arg.toList with
    | '-' :: c :: cs =>
      if c.isDigit && cs.all Char.isDigit then "-n" :: String.ofList (c :: cs) :: rest else args
    | _ => args
  | [] => []

/-- Cut a text into its first records and the rest. -/
def splitRecords (terminator : Char) : Nat → List Char → List Char × List Char
  | 0, cs => ([], cs)
  | _ + 1, [] => ([], [])
  | n + 1, cs =>
    let (line, rest) := cs.span (· != terminator)
    let (lines, rest') := splitRecords terminator n (rest.drop 1)
    (line ++ rest.take 1 ++ lines, rest')

/-- What part of a text is asked for: so many records or octets from its start or its end. -/
structure Part where
  inOctets : Bool
  /-- Whether the number is what is left out. -/
  inverse : Bool
  count : Nat

def Part.ofOptions? (o : Options) (sign : Char) : Except String Part :=
  let octets := o.has "c"
  let text := ((o.value? "c").or (o.value? "n")).getD "10"
  let read (cs : List Char) : Option Nat := size? (String.ofList cs)
  let (inverse, digits) : Bool × List Char := match text.toList with
    | c :: cs => if c = sign then (true, cs) else if c = '-' || c = '+' then (false, cs)
        else (false, c :: cs)
    | [] => (false, [])
  match read digits with
  | some n => .ok ⟨octets, inverse, n⟩
  | none =>
    let what := if octets then "bytes" else "lines"
    let shown := if text.startsWith "-" then (text.drop 1).toString else text
    .error s!"invalid number of {what}: {Quoting.text shown}"

/-- The start of a text. -/
def startOf (p : Part) (terminator : Char) (text : List Char) : List Char :=
  if p.inOctets then text.take (if p.inverse then text.length - p.count else p.count)
  else
    let n := if p.inverse then (recordsOf terminator text).1.length - p.count else p.count
    (splitRecords terminator n text).1

/-- The end of a text. -/
def endOf (p : Part) (terminator : Char) (text : List Char) : List Char :=
  if p.inOctets then text.drop (if p.inverse then p.count - 1 else text.length - p.count)
  else
    let n := if p.inverse then p.count - 1 else (recordsOf terminator text).1.length - p.count
    (splitRecords terminator n text).2

/-- How much is read at a time. -/
def blockSize : Nat := 8192

/-- Show a part of each operand, under its name if there are several. -/
def showParts (tool : String) (sign : Char) (part : Part → Char → List Char → List Char)
    (takesAll : Bool) : Tool := fun args =>
  withOptions tool
    ("c|bytes: n|lines: q|quiet|silent v|verbose z|zero-terminated f|follow? F s: pid: " ++
      "retry")
    (countOption args) fun o => do
      let terminator := if o.has "z" then Char.ofNat 0 else '\n'
      match Part.ofOptions? o sign with
      | .error text => fail tool text
      | .ok p =>
        let paths := if o.operands.isEmpty then ["-"] else o.operands
        let mut status := 0
        let mut first := true
        for path in paths do
          let content ← if path = "-" && !takesAll then do
              let text ← Act.peek 0
              let shown := part p terminator text
              Act.consume 0 shown.length (if p.inOctets then 1 else blockSize)
              pure (Except.ok text)
            else contentOf path
          match content with
          | .error .isDirectory =>
            if (1 < paths.length || o.has "v") && !o.has "q" then
              Act.print ((if first then "" else "\n") ++ s!"==> {path} <==\n")
            first := false
            status ← fail tool s!"error reading {always path}: Is a directory"
          | .error e => status ← fail tool s!"cannot open {always path} for reading: {e.words}"
          | .ok text =>
            if (1 < paths.length || o.has "v") && !o.has "q" then
              let name := if path = "-" then "standard input" else path
              Act.print ((if first then "" else "\n") ++ s!"==> {name} <==\n")
            emit (part p terminator text)
            first := false
        return status

def head : Tool := showParts "head" '-' startOf false

def tail : Tool := fun args =>
  let args := match args with
    | arg :: rest =>
      match arg.toList with
      | '+' :: cs => if !cs.isEmpty && cs.all Char.isDigit then "-n" :: arg :: rest else args
      | _ => args
    | [] => []
  showParts "tail" '+' endOf true args

end PatchTrial.Shell.Tools
