import PatchTrial.Regex.Basic

/-!
Reading regular expressions.

In the basic notation the signs for groups, alternatives and repetitions, but for the star, are
written with a backslash; in the extended notation they are written without one. The dialects differ
in what a repetition means where there is nothing to repeat, and in what is a fault.
-/
namespace PatchTrial.Regex

/-- What is wrong with an expression. -/
inductive Fault where
  | invalid
  | unmatchedBracket
  | badClass
  /-- A class without the outer brackets. -/
  | bareClass
  | badRange
  | badCollation
  | unmatchedOpen
  | unmatchedClose
  | unmatchedBrace
  | badBrace
  | badReference
  | nothingToRepeat
  | tooBig
  | trailingBackslash
  deriving DecidableEq, Repr

def Fault.message : Fault → String
  | .invalid => "Invalid regular expression"
  | .unmatchedBracket => "Unmatched [, [^, [:, [., or [="
  | .badClass => "Invalid character class name"
  | .bareClass => "character class syntax is [[:space:]], not [:space:]"
  | .badRange => "Invalid range end"
  | .badCollation => "Invalid collation character"
  | .unmatchedOpen => "Unmatched ( or \\("
  | .unmatchedClose => "Unmatched ) or \\)"
  | .unmatchedBrace => "Unmatched \\\x7b"
  | .badBrace => "Invalid content of \\\x7b\\\x7d"
  | .badReference => "Invalid back reference"
  | .nothingToRepeat => "Invalid preceding regular expression"
  | .tooBig => "Regular expression too big"
  | .trailingBackslash => "Trailing backslash"

/-- What a repetition means where there is nothing to repeat. -/
inductive Loose where
  | itself
  | nothing
  | fault
  deriving DecidableEq, Repr

structure Dialect where
  /-- Whether signs are written without backslashes. -/
  extended : Bool
  /-- What a star, a plus sign or a question mark means without anything before it. -/
  loose : Loose
  /-- Whether bounds must not stand where there is nothing to repeat or behind another
  repetition. -/
  strictBounds : Bool
  /-- Whether braces that hold no bounds stand for themselves. -/
  bareBraces : Bool := false
  /-- Whether a parenthesis that closes nothing stands for itself. -/
  bareClose : Bool := false
  /-- Whether there are bounds. -/
  bounds : Bool := true
  /-- Whether backslashes also write control characters, in brackets as well. -/
  escapes : Bool := false
  deriving Repr

/-- The basic notation. -/
def Dialect.basic : Dialect := { extended := false, loose := .itself, strictBounds := false }

/-- The basic notation for editing. -/
def Dialect.basicEdit : Dialect := { extended := false, loose := .itself, strictBounds := true }

/-- The extended notation for editing. -/
def Dialect.extendedEdit : Dialect := { extended := true, loose := .fault, strictBounds := false }

/-- The extended notation for searching. -/
def Dialect.extendedSearch : Dialect :=
  { extended := true, loose := .nothing, strictBounds := false, bareBraces := true,
    bareClose := true }

/-- The notation of programs that work on records. -/
def Dialect.records : Dialect :=
  { extended := true, loose := .itself, strictBounds := false, bareBraces := true, bounds := false,
    escapes := true }

/-- The extended notation with bounds and control characters. -/
def Dialect.full : Dialect :=
  { extended := true, loose := .fault, strictBounds := false, escapes := true }

/-- The most repetitions that can be asked for. -/
def maxRepeats : Nat := 32767

/-! ### Brackets -/

/-- A member of a set, or an end of a range. -/
inductive Element where
  | char (c : Char)
  | named (name : String)

/-- What stands between two signs like those of a class. -/
def untilSign (sign : Char) : List Char → Option (List Char × List Char)
  | c :: d :: cs =>
    if c = sign && d = ']' then some ([], cs)
    else (untilSign sign (d :: cs)).map fun (a, b) => (c :: a, b)
  | _ => none

/-- The control character that a letter behind a backslash stands for. -/
def controlChar? (c : Char) : Option Char :=
  [('n', '\n'), ('t', '\t'), ('r', '\r'), ('f', Char.ofNat 12), ('v', Char.ofNat 11),
    ('a', Char.ofNat 7), ('b', Char.ofNat 8)].lookup c

/-- A character that is written by up to three octal digits. -/
def octalChar? (cs : List Char) : Option (Char × List Char) :=
  let ds := (cs.take 3).takeWhile fun c => '0' ≤ c && c ≤ '7'
  if ds.isEmpty then none
  else
    let n := ds.foldl (fun n c => n * 8 + (c.toNat - '0'.toNat)) 0
    some (Char.ofNat (n % 256), cs.drop ds.length)

def readElement (d : Dialect) (cs : List Char) : Except Fault (Element × List Char) :=
  match cs with
  | [] => .error .unmatchedBracket
  | '[' :: ':' :: rest =>
    match untilSign ':' rest with
    | none => .error .unmatchedBracket
    | some (name, rest) =>
      let name := String.ofList name
      if charClasses.contains name then .ok (.named name, rest) else .error .badClass
  | '[' :: sign :: rest =>
    if sign = '.' || sign = '=' then
      match untilSign sign rest with
      | none => .error .unmatchedBracket
      | some ([c], rest) => .ok (.char c, rest)
      | some _ => .error .badCollation
    else .ok (.char '[', sign :: rest)
  | '\\' :: c :: rest =>
    if d.escapes then
      match octalChar? (c :: rest) with
      | some (c, rest) => .ok (.char c, rest)
      | none =>
        match controlChar? c with
        | some c => .ok (.char c, rest)
        | none =>
          if c = '\\' || c = '/' || c = '"' || c = ']' || c = '-' then .ok (.char c, rest)
          else .ok (.char '\\', c :: rest)
    else .ok (.char '\\', c :: rest)
  | c :: rest => .ok (.char c, rest)

/-- The members of a set up to the closing bracket. -/
def readItems (d : Dialect) : Nat → Bool → List Char → Except Fault (List SetItem × List Char)
  | 0, _, _ => .error .unmatchedBracket
  | fuel + 1, first, cs => do
    match cs with
    | [] => .error .unmatchedBracket
    | ']' :: rest => if first then more d fuel (.char ']') rest else return ([], rest)
    | '-' :: c :: rest =>
      if first || c = ']' then more d fuel (.char '-') (c :: rest) else .error .badRange
    | cs =>
      let (e, rest) ← readElement d cs
      more d fuel e rest
where
  /-- Go on behind an element, with which a range may start. -/
  more (d : Dialect) (fuel : Nat) (e : Element) (cs : List Char) :
      Except Fault (List SetItem × List Char) := do
    match cs with
    | '-' :: c :: rest =>
      if c = ']' then alone d fuel e cs
      else
        let (last, rest) ← readElement d (c :: rest)
        match e, last with
        | .char a, .char b =>
          if b < a then .error .badRange
          else
            let (is, rest) ← readItems d fuel false rest
            return (.range a b :: is, rest)
        | _, _ => .error .badRange
    | cs => alone d fuel e cs
  alone (d : Dialect) (fuel : Nat) (e : Element) (cs : List Char) :
      Except Fault (List SetItem × List Char) := do
    let (is, rest) ← readItems d fuel false cs
    match e with
    | .char c => return (.range c c :: is, rest)
    | .named name => return (.named name :: is, rest)

/-- Whether members were meant to be a class. -/
def isBareClass (is : List SetItem) : Bool :=
  let colon : SetItem := .range ':' ':'
  let singles : Bool := is.all fun
    | .range a b => a == b
    | .named _ => false
  singles && is.head? == some colon && is.getLast? == some colon && is.any (· != colon)

/-- Read a set after its opening bracket. -/
def readSet (d : Dialect) (cs : List Char) : Except Fault (Regex × List Char) := do
  let (negated, body) := match cs with
    | '^' :: rest => (true, rest)
    | rest => (false, rest)
  if body.isEmpty then .error .invalid
  else
    let (items, rest) ← readItems d (body.length + 1) true body
    if isBareClass items && !d.escapes then .error .bareClass
    else return (.set negated items, rest)

/-! ### Repetitions -/

/-- A number up to the largest that is of interest. -/
def readBound (cs : List Char) : Option Nat × List Char :=
  match cs.span Char.isDigit with
  | ([], rest) => (none, rest)
  | (ds, rest) => (some (Nat.ofDigitChars 10 ds 0), rest)

/-- What stands in braces. -/
inductive Braces where
  | bounds (least : Nat) (most : Option Nat) (rest : List Char)
  | fault (f : Fault)
  /-- They hold no bounds and are no fault. -/
  | bare

/-- Read bounds up to the closing brace. -/
def readBraces (d : Dialect) (cs : List Char) : Braces :=
  let wrong (rest : List Char) : Braces :=
    if d.bareBraces then .bare else .fault (if rest.isEmpty then .unmatchedBrace else .badBrace)
  let close (least : Nat) (most : Option Nat) (rest : List Char) : Braces :=
    let after : Option (List Char) := match d.extended, rest with
      | true, '}' :: rest => some rest
      | false, '\\' :: '}' :: rest => some rest
      | _, _ => none
    match after with
    | none => wrong rest
    | some rest =>
      if most.any (· < least) then .fault .badBrace
      else if maxRepeats < most.getD least then .fault .tooBig
      else .bounds least most rest
  match readBound cs with
  | (least, ',' :: rest) =>
    let (most, rest) := readBound rest
    close (least.getD 0) most rest
  | (some n, rest) => close n (some n) rest
  | (none, rest) => wrong rest

/-- A sign of repetition at the start of a text. -/
inductive Sign where
  | simple (least : Nat) (most : Option Nat) (rest : List Char)
  | braces (rest : List Char)
  | other

def signAt (d : Dialect) (cs : List Char) : Sign :=
  match d.extended, cs with
  | _, '*' :: rest => .simple 0 none rest
  | true, '+' :: rest => .simple 1 none rest
  | true, '?' :: rest => .simple 0 (some 1) rest
  | true, '{' :: rest => if d.bounds then .braces rest else .other
  | false, '\\' :: '+' :: rest => .simple 1 none rest
  | false, '\\' :: '?' :: rest => .simple 0 (some 1) rest
  | false, '\\' :: '{' :: rest => .braces rest
  | _, _ => .other

/-- Put the repetitions that follow around an expression. -/
def readRepeats (d : Dialect) : Nat → Bool → Regex → List Char → Except Fault (Regex × List Char)
  | 0, _, r, cs => .ok (r, cs)
  | fuel + 1, again, r, cs =>
    match signAt d cs with
    | .other => .ok (r, cs)
    | .simple least most rest =>
      if again && d.strictBounds && cs.head? = some '*' then .error .nothingToRepeat
      else readRepeats d fuel true (.many r least most) rest
    | .braces rest =>
      if again && d.strictBounds then .error .nothingToRepeat
      else
        match readBraces d rest with
        | .bounds least most rest => readRepeats d fuel true (.many r least most) rest
        | .fault f => .error f
        | .bare => .ok (r, cs)

/-! ### Expressions -/

/-- What is left to read, and which groups have been opened and closed. -/
structure Reading where
  rest : List Char
  opened : Nat := 0
  closed : List Nat := []
  /-- How many groups are open here. -/
  depth : Nat := 0
  /-- Whether a sign that was met had nothing to repeat. -/
  looseSigns : List Char := []

namespace Reading

/-- Whether alternatives end or change here. -/
def atAlternative? (d : Dialect) (r : Reading) : Option (List Char) :=
  match d.extended, r.rest with
  | true, '|' :: rest => some rest
  | false, '\\' :: '|' :: rest => some rest
  | _, _ => none

def atClose? (d : Dialect) (r : Reading) : Option (List Char) :=
  match d.extended, r.rest with
  | true, ')' :: rest => some rest
  | false, '\\' :: ')' :: rest => some rest
  | _, _ => none

/-- Whether a dollar sign stands for the end, by what follows it. -/
def endsLine (d : Dialect) (r : Reading) : Bool :=
  d.extended || r.rest.isEmpty || (r.atAlternative? d).isSome || (r.atClose? d).isSome

end Reading

/-- The meaning of a letter behind a backslash. -/
def letterMeaning? (d : Dialect) (c : Char) : Option Regex :=
  if d.escapes then (controlChar? c).map .char
  else
    match c with
    | 'w' => some (.set false [.named "alnum", .range '_' '_'])
    | 'W' => some (.set true [.named "alnum", .range '_' '_'])
    | 's' => some (.set false [.named "space"])
    | 'S' => some (.set true [.named "space"])
    | 'b' => some (.wordEdge false)
    | 'B' => some (.wordEdge true)
    | '<' => some .wordStart
    | '>' => some .wordEnd
    | '\x60' => some .textStart
    | '\'' => some .textEnd
    | _ => none

/-- Expressions that match at positions and not characters; nothing repeats them. -/
def isAnchor : Regex → Bool
  | .lineStart | .lineEnd | .textStart | .textEnd | .wordEdge _ | .wordStart | .wordEnd => true
  | _ => false

mutual
/-- Alternatives up to the end of a group or of the text. -/
def readEither (d : Dialect) (fuel : Nat) (r : Reading) : Except Fault (Regex × Reading) :=
  match fuel with
  | 0 => .error .tooBig
  | fuel + 1 => do
    let (a, r) ← readSequence d fuel true r
    match r.atAlternative? d with
    | none => return (a, r)
    | some rest => do
      let (b, r) ← readEither d fuel { r with rest := rest }
      return (.either a b, r)

/-- Expressions one after another; at the start, and behind a sign for the start of a line, another
such sign is one too. -/
def readSequence (d : Dialect) (fuel : Nat) (start : Bool) (r : Reading) :
    Except Fault (Regex × Reading) :=
  match fuel with
  | 0 => .error .tooBig
  | fuel + 1 =>
    let ends : Bool := r.rest.isEmpty || (r.atAlternative? d).isSome ||
      ((r.atClose? d).isSome && (r.depth ≠ 0 || !d.bareClose))
    if ends then
      if (r.atClose? d).isSome && r.depth = 0 then .error .unmatchedClose
      else .ok (.nothing, r)
    else do
      let (atom, q) ← readAtom d fuel start r
      if isAnchor atom && !d.escapes then
        let (others, q) ← readSequence d fuel true q
        return (.sequence atom others, q)
      else
        let (atom, rest) ← readRepeats d (q.rest.length + 1) false atom q.rest
        let (others, q) ← readSequence d fuel false { q with rest := rest }
        return (.sequence atom others, q)

def readAtom (d : Dialect) (fuel : Nat) (start : Bool) (r : Reading) :
    Except Fault (Regex × Reading) :=
  match fuel with
  | 0 => .error .tooBig
  | fuel + 1 =>
    let went (a : Regex) (rest : List Char) : Except Fault (Regex × Reading) :=
      .ok (a, { r with rest := rest })
    let inGroup (rest : List Char) : Except Fault (Regex × Reading) := do
      let n := r.opened + 1
      let (a, q) ← readEither d fuel { r with rest := rest, opened := n, depth := r.depth + 1 }
      match q.atClose? d with
      | none => .error .unmatchedOpen
      | some rest =>
        return (.group n a, { q with rest := rest, closed := n :: q.closed, depth := r.depth })
    let onlyStart := if start then signAt d r.rest else .other
    match onlyStart with
    | .simple _ _ rest =>
      let sign := r.rest.headD ' '
      match if d.extended then d.loose else .itself with
      | .fault => .error .nothingToRepeat
      | .nothing =>
        let r := { r with rest := rest, looseSigns := r.looseSigns ++ [sign] }
        if rest.isEmpty || (r.atAlternative? d).isSome || (r.atClose? d).isSome then
          .ok (.nothing, r)
        else readAtom d fuel start r
      | .itself => went (.char (if sign = '\\' then (r.rest.drop 1).headD ' ' else sign)) rest
    | .braces rest =>
      if d.strictBounds || (d.extended && d.loose = .fault) then .error .nothingToRepeat
      else if !d.extended then went (.char '{') rest
      else
        match readBraces d rest with
        | .bounds _ _ rest =>
          let r := { r with rest := rest, looseSigns := r.looseSigns ++ ['{'] }
          if rest.isEmpty || (r.atAlternative? d).isSome || (r.atClose? d).isSome then
            .ok (.nothing, r)
          else readAtom d fuel start r
        | .fault f => .error f
        | .bare => went (.char '{') rest
    | .other =>
      match r.rest with
      | [] => .error .invalid
      | ['\\'] => if d.escapes then went (.char '\\') [] else .error .trailingBackslash
      | '\\' :: c :: rest =>
        if c = '(' && !d.extended then inGroup rest
        else if c.isDigit && !d.escapes && c ≠ '0' then
          let n := c.toNat - '0'.toNat
          if r.closed.contains n then went (.same n) rest else .error .badReference
        else
          match if d.escapes then octalChar? (c :: rest) else none with
          | some (c, rest) => went (.char c) rest
          | none => went ((letterMeaning? d c).getD (.char c)) rest
      | '.' :: rest => went .any rest
      | '[' :: rest => do
        let (a, rest) ← readSet d rest
        went a rest
      | '^' :: rest => went (if start || d.extended then .lineStart else .char '^') rest
      | '$' :: rest =>
        went (if ({ r with rest := rest } : Reading).endsLine d then .lineEnd else .char '$') rest
      | '(' :: rest => if d.extended then inGroup rest else went (.char '(') rest
      | c :: rest => went (.char c) rest
end

/-- Read an expression, with the signs that had nothing to repeat. -/
def readAll (d : Dialect) (cs : List Char) : Except Fault (Regex × List Char) := do
  let (a, r) ← readEither d (4 * cs.length + 8) { rest := cs }
  return (a, r.looseSigns)

def ofNotation (d : Dialect) (cs : List Char) : Except Fault Regex := (readAll d cs).map (·.1)

def ofNotation? (d : Dialect) (cs : List Char) : Option Regex := (ofNotation d cs).toOption

end PatchTrial.Regex
