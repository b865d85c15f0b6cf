import PatchTrial.Text.CharSet
import PatchTrial.Shell.Tools.Options

/-!
Replacing, removing and squeezing single characters.

Two lists of characters are paired. A list is written with ranges, classes and repetitions; the
second one goes on with its last character for as long as the first one does.
-/
namespace PatchTrial.Shell.Tools

namespace Exchange

/-- A part of a list of characters. -/
inductive Part where
  | char (c : Char)
  | range (first last : Char)
  | named (name : String)
  /-- Characters that count as equal to one; that is only itself. -/
  | equal (c : Char)
  /-- A character so many times, or as often as it takes. -/
  | repeated (c : Char) (count : Option Nat)
  deriving DecidableEq, Repr

inductive Fault where
  | unknownClass (name : String)
  | noClassName
  | noEqualName
  | equalName (name : String)
  | repeatCount (text : String)
  | reversed (first last : Char)
  | repeatInFirst
  | repeatTwice
  | repeatUnpaired
  | equalInSecond
  | classInSecond
  | misaligned
  | emptySecond
  | classAtEnd
  | complementToMany
  deriving DecidableEq, Repr

/-- A character as messages show it. -/
def shown (c : Char) : String :=
  String.ofList (if Quoting.isPrintable c then [c] else '\\' :: Quoting.octalDigits c.toNat)

def Fault.message : Fault → String
  | .unknownClass name => s!"invalid character class {Quoting.text name}"
  | .noClassName => "missing character class name '[::]'"
  | .noEqualName => "missing equivalence class character '[==]'"
  | .equalName name => s!"{name}: equivalence class operand must be a single character"
  | .repeatCount text => s!"invalid repeat count {Quoting.text text} in [c*n] construct"
  | .reversed a b =>
    s!"range-endpoints of '{shown a}-{shown b}' are in reverse collating sequence order"
  | .repeatInFirst => "the [c*] repeat construct may not appear in string1"
  | .repeatTwice => "only one [c*] repeat construct may appear in string2"
  | .repeatUnpaired => "the [c*] construct may appear in string2 only when translating"
  | .equalInSecond => "[=c=] expressions may not appear in string2 when translating"
  | .classInSecond => "when translating, the only character classes that may appear in\n" ++
      "string2 are 'upper' and 'lower'"
  | .misaligned => "misaligned [:upper:] and/or [:lower:] construct"
  | .emptySecond => "when not truncating set1, string2 must be non-empty"
  | .classAtEnd => "when translating with string1 longer than string2,\n" ++
      "the latter string must not end with a character class"
  | .complementToMany => "when translating with complemented character classes,\n" ++
      "string2 must map all characters in the domain to one"

/-! ### Reading -/

/-- Characters of a list, each with a mark whether it was written with a backslash. The warnings
come with them. -/
def unescape : Nat → List Char → List (Char × Bool) × List String
  | 0, _ => ([], [])
  | _ + 1, [] => ([], [])
  | _ + 1, ['\\'] =>
    ([('\\', false)], ["warning: an unescaped backslash at end of string is not portable"])
  | fuel + 1, '\\' :: c :: cs =>
    let go (x : Char) (warnings : List String) (rest : List Char) :=
      let (xs, more) := unescape fuel rest
      ((x, true) :: xs, warnings ++ more)
    let digits := ((c :: cs).take 3).takeWhile fun d => '0' ≤ d && d ≤ '7'
    let worth (ds : List Char) : Nat :=
      ds.foldl (fun n d => n * 8 + (d.toNat - '0'.toNat)) 0
    if digits.isEmpty then
      let plain := [('a', 7), ('b', 8), ('f', 12), ('n', 10), ('r', 13), ('t', 9), ('v', 11)]
      go (((plain.lookup c).map Char.ofNat).getD c) [] cs
    else if worth digits < 256 then
      go (Char.ofNat (worth digits)) [] ((c :: cs).drop digits.length)
    else
      let short := digits.take 2
      let text := String.ofList digits
      let start := String.ofList short
      let last := String.ofList (digits.drop 2)
      go (Char.ofNat (worth short))
        [s!"warning: the ambiguous octal escape \\{text} is being\n\tinterpreted as the " ++
          s!"2-byte sequence \\0{start}, {last}"] ((c :: cs).drop 2)
  | fuel + 1, c :: cs =>
    let (xs, more) := unescape fuel cs
    ((c, false) :: xs, more)

/-- What stands before a sign and a closing bracket, and what stands behind them. -/
def untilClose (sign : Char) : List (Char × Bool) → Option (List Char × List (Char × Bool))
  | (a, x) :: (b, y) :: rest =>
    if a = sign && b = ']' && !x && !y then some ([], rest)
    else (untilClose sign ((b, y) :: rest)).map fun (cs, r) => (a :: cs, r)
  | _ => none

/-- A repetition behind its opening bracket. -/
def repetition? (cs : List (Char × Bool)) : Option (Except Fault (Part × List (Char × Bool))) :=
  match cs with
  | (c, _) :: ('*', false) :: rest =>
    let digits := rest.takeWhile (· ≠ (']', false))
    match rest.drop digits.length with
    | [] => none
    | _ :: rest =>
      let ds := digits.map (·.1)
      if ds.isEmpty then some (.ok (.repeated c none, rest))
      else
        let base := if ds.head? = some '0' then 8 else 10
        if ds.all fun d => d.isDigit && d.toNat - '0'.toNat < base then
          let n := Nat.ofDigitChars base ds 0
          some (.ok (.repeated c (if n = 0 then none else some n), rest))
        else some (.error (.repeatCount (String.ofList ds)))
  | _ => none

/-- A class, a character with its equals or a repetition, behind the opening bracket. -/
def bracketed? (cs : List (Char × Bool)) : Option (Except Fault (Part × List (Char × Bool))) :=
  let otherwise (fault : Fault) : Option (Except Fault (Part × List (Char × Bool))) :=
    match repetition? cs with
    | some (.ok found) => some (.ok found)
    | _ => some (.error fault)
  match cs with
  | (':', false) :: body =>
    match untilClose ':' body with
    | some ([], _) => otherwise .noClassName
    | some (name, rest) =>
      let name := String.ofList name
      if charClasses.contains name then some (.ok (.named name, rest))
      else otherwise (.unknownClass name)
    | none => repetition? cs
  | ('=', false) :: body =>
    match untilClose '=' body with
    | some ([], _) => otherwise .noEqualName
    | some ([c], rest) => some (.ok (.equal c, rest))
    | some (name, _) => otherwise (.equalName (String.ofList name))
    | none => repetition? cs
  | _ => repetition? cs

/-- The parts of a list. -/
def readParts : Nat → List (Char × Bool) → Except Fault (List Part)
  | 0, _ => .ok []
  | fuel + 1, cs => do
    match cs with
    | [] => return []
    | (c, escaped) :: rest =>
      let bracket := if c = '[' && !escaped then bracketed? rest else none
      match bracket with
      | some (.error fault) => .error fault
      | some (.ok (part, rest)) => return part :: (← readParts fuel rest)
      | none =>
        match rest with
        | ('-', false) :: (d, _) :: others =>
          if d < c then .error (.reversed c d)
          else return .range c d :: (← readParts fuel others)
        | _ => return .char c :: (← readParts fuel rest)

/-! ### Lists -/

/-- All octets, as characters. -/
def octets : List Char := (List.range 256).map Char.ofNat

/-- The characters of a part; `fill` is what a repetition without a number stands for. -/
def Part.chars (fill : Nat) : Part → List Char
  | .char c => [c]
  | .range a b => (List.range (b.toNat + 1 - a.toNat)).map fun n => Char.ofNat (a.toNat + n)
  | .named name => octets.filter (inCharClass name)
  | .equal c => [c]
  | .repeated c count => List.replicate (count.getD fill) c

def isClass : Part → Bool
  | .named _ => true
  | _ => false

def isOpenRepeat : Part → Bool
  | .repeated _ none => true
  | _ => false

def isCaseClass (p : Part) : Bool := p = .named "upper" || p = .named "lower"

/-- The places of the parts that are classes for a case, counted in characters, where such a class
counts as one. -/
def casePlaces (fill : Nat) : List Part → Nat → List Nat
  | [], _ => []
  | p :: ps, n =>
    if isCaseClass p then n :: casePlaces fill ps (n + 1)
    else casePlaces fill ps (n + (p.chars fill).length)

/-- What is done with characters. -/
structure Rule where
  removes : Char → Bool
  /-- What a character becomes. -/
  map : Char → Char
  /-- Whether repetitions of a character are squeezed to one. -/
  squeezes : Char → Bool

/-- Pair two lists. -/
def pairing (complement truncate : Bool) (first second : List Part) :
    Except Fault (List (Char × Char)) := do
  if first.any isOpenRepeat then throw .repeatInFirst
  let chosen := first.flatMap (Part.chars 0)
  let source := if complement then octets.filter (!chosen.contains ·) else chosen
  if 1 < (second.filter isOpenRepeat).length then throw .repeatTwice
  let least := (second.flatMap (Part.chars 0)).length
  let fill := source.length - least
  if second.any (fun p => match p with
      | .equal _ => true
      | _ => false) then throw .equalInSecond
  if second.any (fun p => isClass p && !isCaseClass p) then throw .classInSecond
  if !complement && !(casePlaces fill second 0).all (casePlaces 0 first 0).contains then
    throw .misaligned
  let target := second.flatMap (Part.chars fill)
  let target ← if source.length ≤ target.length || truncate then pure target
    else
      match second.getLast?, target.getLast? with
      | some last, some c =>
        if isClass last then throw .classAtEnd
        else pure (target ++ List.replicate (source.length - target.length) c)
      | _, _ => throw .emptySecond
  if complement && first.any isClass &&
      !(target.length = source.length && target.all (some · = target.head?)) then
    throw .complementToMany
  return source.zip target

/-- What the options ask for. -/
def ofOptions (o : Options) (first : List Part) (second : Option (List Part)) :
    Except Fault Rule := do
  let complement := o.has "c" || o.has "C"
  let chosen := first.flatMap (Part.chars 0)
  let inFirst (c : Char) : Bool := chosen.contains c != complement
  match o.has "d", second with
  | false, some second =>
    let pairs ← pairing complement (o.has "t") first second
    let target := second.flatMap (Part.chars 256)
    return {
      removes := fun _ => false
      map := fun c => ((pairs.reverse.lookup c).getD c)
      squeezes := fun c => o.has "s" && target.contains c }
  | removes, second => do
    if first.any isOpenRepeat then throw .repeatInFirst
    if (second.getD []).any isOpenRepeat then throw .repeatUnpaired
    let target := (second.getD []).flatMap (Part.chars 0)
    return {
      removes := fun c => removes && inFirst c
      map := id
      squeezes := fun c => o.has "s" && (if second.isSome then target.contains c else inFirst c) }

/-- Drop each character that is squeezed and that follows itself. -/
def squeezed (squeezes : Char → Bool) : Option Char → List Char → List Char
  | _, [] => []
  | last, c :: cs =>
    if last = some c && squeezes c then squeezed squeezes last cs
    else c :: squeezed squeezes (some c) cs

def Rule.apply (t : Rule) (cs : List Char) : List Char :=
  squeezed t.squeezes none ((cs.filter (!t.removes ·)).map t.map)

end Exchange

def tr : Tool := fun args =>
  withOptions "tr" "c|complement C d|delete s|squeeze-repeats t|truncate-set1" args (fun o => do
    let removes := o.has "d"
    let squeezes := o.has "s"
    let both := removes == squeezes
    let complain (text more : String) : Act Nat := do
      warnAs "tr" text
      if !more.isEmpty then Act.warn more
      pointToHelp "tr"
      return 1
    let run (first : String) (second : Option String) : Act Nat := do
      let read (s : String) : Act (Except Exchange.Fault (List Exchange.Part)) := do
        let (cs, warnings) := Exchange.unescape (s.length + 1) s.toList
        warnings.forM (warnAs "tr")
        return Exchange.readParts (cs.length + 1) cs
      let parts ← read first
      let others ← match second with
        | none => pure (.ok none)
        | some s => pure ((← read s).map some)
      match do Exchange.ofOptions o (← parts) (← others) with
      | .error fault => fail "tr" fault.message
      | .ok t => do
        match ← contentOf "-" with
        | .error e => fail "tr" s!"read error: {e.words}"
        | .ok text =>
          emit (t.apply text)
          return 0
    match o.operands with
    | [] => complain "missing operand" ""
    | [a] =>
      if both then
        complain s!"missing operand after {Quoting.text a}"
          (if squeezes then "Two strings must be given when both deleting and squeezing repeats."
            else "Two strings must be given when translating.")
      else run a none
    | [a, b] =>
      if removes && !squeezes then
        complain s!"extra operand {Quoting.text b}"
          "Only one string may be given when deleting without squeezing repeats."
      else run a (some b)
    | _ :: b :: c :: _ =>
      let extra := if removes && !squeezes then b else c
      complain s!"extra operand {Quoting.text extra}" "") 1 true

end PatchTrial.Shell.Tools
