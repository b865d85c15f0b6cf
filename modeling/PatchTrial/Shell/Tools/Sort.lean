import PatchTrial.Shell.Tools.Print
import PatchTrial.Shell.Tools.Files

/-!
Sorting lines, and tools for lines that are sorted.

Lines are compared key by key, and in the end as a whole. A key is a part of a line with its own way
to compare.
-/
namespace PatchTrial.Shell.Tools

open Quoting (always ifNeeded)

/-! ### Comparing -/

/-- The order of texts by their octets. -/
def compareOctets : List Char → List Char → Ordering
  | [], [] => .eq
  | [], _ => .lt
  | _, [] => .gt
  | a :: as, b :: bs => if a < b then .lt else if b < a then .gt else compareOctets as bs

/-- A decimal number at the start of a text: whether it is negative, and its digits before and
behind the point, without the zeros that do not count. -/
def decimalParts (cs : List Char) : Bool × List Char × List Char :=
  let cs := cs.dropWhile fun c => c == ' ' || c == '\t' || c == '\n'
  let (negative, cs) := match cs with
    | '-' :: cs => (true, cs)
    | cs => (false, cs)
  let (whole, rest) := cs.span Char.isDigit
  let behind := match rest with
    | '.' :: ds => ds.takeWhile Char.isDigit
    | _ => []
  let whole := whole.dropWhile (· == '0')
  let behind := (behind.reverse.dropWhile (· == '0')).reverse
  (negative && !(whole.isEmpty && behind.isEmpty), whole, behind)

/-- The order of decimal numbers without their signs. -/
def compareMagnitudes (a b : List Char × List Char) : Ordering :=
  (compare a.1.length b.1.length).then ((compareOctets a.1 b.1).then (compareOctets a.2 b.2))

def compareDecimals (a b : List Char) : Ordering :=
  let (na, ma) := decimalParts a
  let (nb, mb) := decimalParts b
  match na, nb with
  | true, false => .lt
  | false, true => .gt
  | false, false => compareMagnitudes ma mb
  | true, true => compareMagnitudes mb ma

/-- The rank of the suffix of a number that scales it. -/
def suffixRank (cs : List Char) : Nat :=
  let cs := cs.dropWhile fun c => c == ' ' || c == '\t'
  let cs := if cs.head? = some '-' then cs.drop 1 else cs
  let rest := cs.dropWhile fun c => c.isDigit || c == '.'
  match rest.head?.bind fun c => ['K', 'M', 'G', 'T', 'P', 'E', 'Z', 'Y'].idxOf? c with
  | some i => i + 1
  | none => if rest.head? = some 'k' then 1 else 0

/-- The order of numbers with suffixes. -/
def compareScaled (a b : List Char) : Ordering :=
  let (na, ma) := decimalParts a
  let (nb, mb) := decimalParts b
  let rank (m : List Char × List Char) (cs : List Char) : Nat :=
    if m.1.isEmpty && m.2.isEmpty then 0 else suffixRank cs
  let magnitudes : Ordering :=
    (compare (rank ma a) (rank mb b)).then (compareMagnitudes ma mb)
  match na, nb with
  | true, false => .lt
  | false, true => .gt
  | false, false => magnitudes
  | true, true => magnitudes.swap

/-- The order of floating-point numbers; what is no number comes first. -/
def compareFloats (a b : List Char) : Ordering :=
  let read (cs : List Char) : Option Float :=
    (Decimal.readNumeral? (cs.dropWhile isSpace)).map (·.1)
  let rank : Option Float → Nat
    | none => 0
    | some x => if x.isNaN then 1 else 2
  let x := read a
  let y := read b
  (compare (rank x) (rank y)).then (match x, y with
    | some x, some y => if x < y then .lt else if y < x then .gt else .eq
    | _, _ => .eq)

def monthRank (cs : List Char) : Nat :=
  let name := ((cs.dropWhile fun c => c == ' ' || c == '\t').take 3).map Char.toUpper
  match ["JAN", "FEB", "MAR", "APR", "MAY", "JUN", "JUL", "AUG", "SEP", "OCT", "NOV",
      "DEC"].idxOf? (String.ofList name) with
  | some i => i + 1
  | none => 0

/-- The rank of a character between the numbers of versions; a tilde comes before the end. -/
def versionRank : List Char → Int
  | [] => -1
  | c :: _ => if c.isDigit then 0 else if c.isAlpha then c.toNat
      else if c = '~' then -2 else c.toNat + 256

/-- The order of texts in which runs of digits count as numbers. -/
def compareVersions : Nat → List Char → List Char → Ordering
  | 0, _, _ => .eq
  | _ + 1, [], [] => .eq
  | fuel + 1, a, b =>
    let isText : List Char → Bool
      | [] => false
      | c :: _ => !c.isDigit
    if isText a || isText b then
      match compare (versionRank a) (versionRank b) with
      | .eq => compareVersions fuel (a.drop 1) (b.drop 1)
      | o => o
    else
      let (x, a) := (a.dropWhile (· == '0')).span Char.isDigit
      let (y, b) := (b.dropWhile (· == '0')).span Char.isDigit
      match (compare x.length y.length).then (compareOctets x y) with
      | .eq => compareVersions fuel a b
      | o => o

/-- A name without the suffixes that start with a dot and a letter. -/
def withoutSuffixes (cs : List Char) : List Char :=
  let rec go : Nat → List Char → List Char
    | 0, cs => cs
    | fuel + 1, cs =>
      let tail := cs.reverse.takeWhile (· != '.')
      let isSuffix := match tail.reverse with
        | c :: rest => (c.isAlpha || c == '~') && rest.all fun c => c.isAlphanum || c == '~'
        | [] => false
      if isSuffix && tail.length + 1 < cs.length then
        go fuel (cs.take (cs.length - tail.length - 1))
      else cs
  go cs.length cs

/-- The order of names with versions. -/
def compareNames (a b : List Char) : Ordering :=
  let fuel := a.length + b.length + 2
  (compareVersions fuel (withoutSuffixes a) (withoutSuffixes b)).then (compareVersions fuel a b)

/-! ### Keys -/

/-- How a key is compared. -/
structure KeyOrder where
  letters : List Char := []
  deriving Repr

def KeyOrder.has (k : KeyOrder) (c : Char) : Bool := k.letters.contains c

/-- A part of lines that is compared. -/
structure SortKey where
  field : Nat
  char : Nat := 0
  skipsBlanks : Bool := false
  /-- The field at which the key ends, and a place in it; at its end for zero. -/
  last : Option (Nat × Nat) := none
  lastSkipsBlanks : Bool := false
  order : KeyOrder := {}

def isBlankChar (c : Char) : Bool := c == ' ' || c == '\t' || c == '\n'

/-- A line behind its first fields. -/
def afterFields (tab : Option Char) : Nat → List Char → List Char
  | 0, cs => cs
  | n + 1, cs =>
    match tab with
    | some t => afterFields tab n ((cs.dropWhile (· != t)).drop 1)
    | none =>
      afterFields tab n ((cs.dropWhile isBlankChar).dropWhile (!isBlankChar ·))

/-- How much of a line comes before the end of a field that ends a key. -/
def lengthOfFields (tab : Option Char) (last char : Nat) (skips : Bool) (cs : List Char) : Nat :=
  let rest : List Char := match tab with
    | some t =>
      if char = 0 then (afterFields tab last cs).dropWhile (· != t) else afterFields tab last cs
    | none => afterFields tab (if char = 0 then last + 1 else last) cs
  let rest := if char = 0 then rest
    else (if skips then rest.dropWhile isBlankChar else rest).drop char
  cs.length - rest.length

/-- The part of a line that a key stands for. -/
def SortKey.part (k : SortKey) (tab : Option Char) (line : List Char) : List Char :=
  let start := afterFields tab k.field line
  let start := (if k.skipsBlanks then start.dropWhile isBlankChar else start).drop k.char
  match k.last with
  | none => start
  | some (last, char) =>
    let stop := lengthOfFields tab last char k.lastSkipsBlanks line
    start.take (stop - (line.length - start.length))

/-- The order of parts of lines. -/
def KeyOrder.compare (k : KeyOrder) (a b : List Char) : Ordering :=
  let keeps (c : Char) : Bool :=
    (!k.has 'd' || c.isAlphanum || c == ' ' || c == '\t') &&
      (!k.has 'i' || Quoting.isPrintable c)
  let text (cs : List Char) : List Char :=
    let cs := if k.has 'd' || k.has 'i' then cs.filter keeps else cs
    if k.has 'f' then cs.map Char.toUpper else cs
  let o := if k.has 'n' then compareDecimals a b
    else if k.has 'g' then compareFloats a b
    else if k.has 'h' then compareScaled a b
    else if k.has 'M' then Ord.compare (monthRank a) (monthRank b)
    else if k.has 'V' then compareNames (text a) (text b)
    else compareOctets (text a) (text b)
  if k.has 'r' then o.swap else o

/-- A way to sort. -/
structure Sorting where
  tab : Option Char
  keys : List SortKey
  whole : KeyOrder
  /-- Whether lines that are equal by their keys are left as they are. -/
  stable : Bool
  unique : Bool

namespace Sorting

/-- The order of lines by their keys alone. -/
def compareKeys (s : Sorting) (a b : List Char) : Ordering :=
  s.keys.foldl (fun o k =>
    match o with
    | .eq => k.order.compare (k.part s.tab a) (k.part s.tab b)
    | o => o) .eq

/-- The order of lines. -/
def compareLines (s : Sorting) (a b : List Char) : Ordering :=
  match s.compareKeys a b with
  | .eq =>
    if s.stable || s.unique then .eq
    else
      let o := compareOctets a b
      if s.whole.has 'r' then o.swap else o
  | o => o

def sort (s : Sorting) (lines : List (List Char)) : List (List Char) :=
  lines.mergeSort fun a b => s.compareLines a b != .gt

/-- Lines without those that are equal to the one before them. -/
def withoutRepeats (s : Sorting) : List (List Char) → List (List Char)
  | a :: b :: rest =>
    if s.compareKeys a b == .eq then withoutRepeats s (a :: rest)
    else a :: withoutRepeats s (b :: rest)
  | lines => lines
  termination_by lines => lines.length

/-- The first line that should stand before the one before it, with its number. -/
def disorder? (s : Sorting) : Nat → List (List Char) → Option (Nat × List Char)
  | n, a :: b :: rest =>
    let o := s.compareLines a b
    if o == .gt || (s.unique && o == .eq) then some (n + 1, b) else disorder? s (n + 1) (b :: rest)
  | _, _ => none

/-- Put sorted lists of lines together. -/
def merge (s : Sorting) (a b : List (List Char)) : List (List Char) :=
  List.merge a b fun x y => s.compareLines x y != .gt

end Sorting

/-! ### Reading keys -/

def orderLetters : List Char := "bdfgiMhnRrV".toList

/-- Read the start or the end of a key: a field, a place in it, and letters. -/
def readPosition (cs : List Char) : Option (Nat × Option Nat × List Char × List Char) :=
  let (field, rest) := cs.span Char.isDigit
  if field.isEmpty then none
  else
    let n := Nat.ofDigitChars 10 field 0
    let (char, rest) : Option (Option Nat) × List Char := match rest with
      | '.' :: rest =>
        let (ds, rest) := rest.span Char.isDigit
        (if ds.isEmpty then none else some (some (Nat.ofDigitChars 10 ds 0)), rest)
      | rest => (some none, rest)
    let (letters, rest) := rest.span orderLetters.contains
    char.map fun char => (n, char, letters, rest)

def readKey (text : String) : Except String SortKey :=
  let shown := Quoting.text text
  match readPosition text.toList with
  | none => .error s!"invalid number at field start: invalid count at start of {shown}"
  | some (0, _, _, _) => .error s!"field number is zero: invalid field specification {shown}"
  | some (_, some 0, _, _) =>
    .error s!"character offset is zero: invalid field specification {shown}"
  | some (field, char, letters, rest) =>
    let k : SortKey := {
      field := field - 1
      char := char.getD 1 - 1
      skipsBlanks := letters.contains 'b'
      order := ⟨letters.filter (· != 'b')⟩ }
    match rest with
    | [] => .ok k
    | ',' :: rest =>
      match readPosition rest with
      | none => .error ("invalid number after ',': invalid count at start of " ++
          Quoting.text (String.ofList rest))
      | some (0, _, _, _) => .error s!"field number is zero: invalid field specification {shown}"
      | some (last, char, letters, []) =>
        .ok { k with
          last := some (last - 1, char.getD 0)
          lastSkipsBlanks := letters.contains 'b'
          order := ⟨k.order.letters ++ letters.filter (· != 'b')⟩ }
      | some _ => .error s!"stray character in field spec: invalid field specification {shown}"
    | _ => .error s!"stray character in field spec: invalid field specification {shown}"

/-- The character that separates fields; none if there is no such option. -/
def readTab (o : Options) : Except String (Option Char) :=
  match o.value? "t" with
  | none => .ok none
  | some text =>
    match text.toList with
    | [] => .error "empty tab"
    | [c] => .ok (some c)
    | ['\\', '0'] => .ok (some (Char.ofNat 0))
    | _ => .error s!"multi-character tab {Quoting.text text}"

/-- The way to sort that options ask for. -/
def sortingOf (o : Options) : Except String Sorting := do
  let whole : KeyOrder := ⟨orderLetters.filter fun c => o.has (String.singleton c)⟩
  let tab ← readTab o
  let keys ← (o.values "k").mapM readKey
  let filled := keys.map fun k =>
    if k.order.letters.isEmpty && !k.skipsBlanks && !k.lastSkipsBlanks then
      { k with
        skipsBlanks := whole.has 'b'
        lastSkipsBlanks := whole.has 'b'
        order := ⟨whole.letters.filter (· != 'b')⟩ }
    else k
  let all : SortKey := { field := 0, skipsBlanks := whole.has 'b', order := whole }
  let keys := if filled.isEmpty then [all] else filled
  let kinds := ['n', 'g', 'h', 'M', 'V']
  for k in keys do
    let given := kinds.filter k.order.has
    if 1 < given.length then
      .error s!"options '-{String.ofList given}' are incompatible"
  return ⟨tab, keys, whole, o.has "s", o.has "u"⟩

/-- Write a text to a file that is named, or to the standard output. The lead opens the complaint
about a file that cannot be written. -/
def emitTo (tool lead : String) (target : Option String) (text : List Char) : Act Nat := do
  match target with
  | none =>
    emit text
    return 0
  | some "-" =>
    emit text
    return 0
  | some path => do
    if path = "/dev/null" then return 0
    let here := (← Act.process).here
    match ← Act.change fun t => t.write here path (Octets.toBytes text) with
    | .ok () => return 0
    | .error e => fail tool s!"{lead}{ifNeeded path}: {e.words}"

def sort : Tool := fun args =>
  withOptions "sort"
    ("b|ignore-leading-blanks d|dictionary-order f|ignore-case g|general-numeric-sort " ++
      "i|ignore-nonprinting M|month-sort h|human-numeric-sort n|numeric-sort R|random-sort " ++
      "V|version-sort r|reverse c|check? C m|merge o|output: s|stable S|buffer-size: " ++
      "t|field-separator: k|key: u|unique z|zero-terminated T|temporary-directory: parallel: " ++
      "batch-size: debug sort: compress-program: files0-from:")
    args (fun o => do
      let wrong (text : String) : Act Nat := do
        discard (fail "sort" text)
        return 2
      let named := [("general-numeric", "g"), ("human-numeric", "h"), ("month", "M"),
        ("numeric", "n"), ("version", "V")]
      let o := match (o.value? "sort").bind fun n => List.lookup n named with
        | some letter => { o with given := o.given ++ [(letter, none)] }
        | none => o
      match sortingOf o with
      | .error text => wrong text
      | .ok s => do
        let terminator := if o.has "z" then Char.ofNat 0 else '\n'
        let mut lists : List (List (List Char)) := []
        let paths := if o.operands.isEmpty then ["-"] else o.operands
        for path in paths do
          match ← contentOf path with
          | .error .isDirectory => return ← wrong s!"read failed: {ifNeeded path}: Is a directory"
          | .error e => return ← wrong s!"cannot read: {ifNeeded path}: {e.words}"
          | .ok text => lists := lists ++ [(recordsOf terminator text).1]
        let lines := lists.flatten
        if o.has "c" || o.has "C" then
          match s.disorder? 1 lines with
          | none => return 0
          | some (n, line) =>
            if o.has "C" || ["quiet", "silent"].contains ((o.value? "c").getD "") then return 1
            let path := paths.headD "-"
            fail "sort" s!"{path}:{n}: disorder: {String.ofList line}"
        else
          let sorted := if o.has "m" then lists.foldl s.merge [] else s.sort lines
          let sorted := if s.unique then s.withoutRepeats sorted else sorted
          let text := sorted.flatMap (· ++ [terminator])
          let status ← emitTo "sort" "open failed: " (o.value? "o") text
          return if status = 0 then 0 else 2) 2

/-! ### Repeated lines -/

/-- What of a line is compared with the next one. -/
def comparedPart (fields chars : Nat) (width : Option Nat) (ignoreCase : Bool)
    (line : List Char) : List Char :=
  let rest := (afterFields none fields line).drop chars
  let rest := match width with
    | some w => rest.take w
    | none => rest
  if ignoreCase then rest.map Char.toUpper else rest

/-- Lines in groups of neighbours that are equal in what is compared. -/
def neighbours (part : List Char → List Char) (lines : List (List Char)) :
    List (List (List Char)) :=
  lines.foldr (fun line groups =>
    match groups with
    | (next :: same) :: rest =>
      if part line = part next then (line :: next :: same) :: rest
      else [line] :: (next :: same) :: rest
    | rest => [line] :: rest) []

def uniq : Tool := fun args =>
  let args := args.map fun a =>
    match a.toList with
    | '-' :: ds => if !ds.isEmpty && ds.all Char.isDigit then "-f" ++ String.ofList ds else a
    | _ => a
  withOptions "uniq"
    ("c|count d|repeated D u|unique i|ignore-case f|skip-fields: s|skip-chars: w|check-chars: " ++
      "z|zero-terminated all-repeated? group?")
    args fun o => do
      let number (key what : String) : Except String (Option Nat) :=
        match o.value? key with
        | none => .ok none
        | some text =>
          match natural? text with
          | some n => .ok (some n)
          | none => .error s!"{text}: invalid number of {what}"
      match number "f" "fields to skip", number "s" "bytes to skip", number "w" "bytes to compare",
          o.operands with
      | .error text, _, _, _ => fail "uniq" text
      | _, .error text, _, _ => fail "uniq" text
      | _, _, .error text, _ => fail "uniq" text
      | _, _, _, _ :: _ :: extra :: _ => misuse "uniq" s!"extra operand {Quoting.text extra}"
      | .ok fields, .ok chars, .ok width, operands => do
        let path := operands.headD "-"
        match ← contentOf path with
        | .error .isDirectory => fail "uniq" s!"error reading {always path}"
        | .error e => fail "uniq" s!"{ifNeeded path}: {e.words}"
        | .ok text =>
          let terminator := if o.has "z" then Char.ofNat 0 else '\n'
          let lines := (recordsOf terminator text).1
          let part := comparedPart (fields.getD 0) (chars.getD 0) width (o.has "i")
          let groups := neighbours part lines
          let repeats := o.has "D" || o.has "all-repeated"
          let shown := groups.filter fun g =>
            !((o.has "d" || repeats) && g.length < 2) && !(o.has "u" && 1 < g.length)
          let texts : List (List Char) := shown.map fun g =>
            if repeats then g.flatMap (· ++ [terminator])
            else
              let line := g.headD [] ++ [terminator]
              if o.has "c" then (right 7 (toString g.length) ++ " ").toList ++ line else line
          let separated := if o.has "group" then
              [[terminator]].intercalate (groups.map fun g => [g.flatMap (· ++ [terminator])])
            else texts
          emitTo "uniq" "" (operands[1]?) separated.flatten

/-! ### Lines of two files -/

/-- The lines of two sorted texts, each with the columns it belongs to: the first text, the second,
or both. -/
def compareTexts : Nat → List (List Char) → List (List Char) → List (Nat × List Char)
  | 0, _, _ => []
  | _ + 1, [], bs => bs.map (2, ·)
  | _ + 1, as, [] => as.map (1, ·)
  | fuel + 1, a :: as, b :: bs =>
    match compareOctets a b with
    | .lt => (1, a) :: compareTexts fuel as (b :: bs)
    | .gt => (2, b) :: compareTexts fuel (a :: as) bs
    | .eq => (3, a) :: compareTexts fuel as bs

/-- A check of the order of two texts while they are read side by side. What is out of order counts
only after a line without a partner, unless it is to count always. -/
structure OrderCheck where
  keys : Array (List Char) × Array (List Char)
  always : Bool
  unpaired : Bool := false
  /-- The number of the text and of the line, for the first of each text that is out of order. -/
  found : List (Nat × Nat) := []

namespace OrderCheck

def keysOf (c : OrderCheck) (file : Nat) : Array (List Char) :=
  if file = 1 then c.keys.1 else c.keys.2

/-- Check the line with an index against the one before it. -/
def check (c : OrderCheck) (file i : Nat) : OrderCheck :=
  match (c.keysOf file)[i - 1]?, (c.keysOf file)[i]? with
  | some before, some line =>
    if i ≠ 0 && (c.always || c.unpaired) && c.found.all (·.1 ≠ file) &&
        compareOctets before line = .gt then
      { c with found := c.found ++ [(file, i + 1)] }
    else c
  | _, _ => c

/-- Check the lines with indices from one to another. -/
def checkAll (c : OrderCheck) (file start stop : Nat) : OrderCheck :=
  (List.range (stop - start)).foldl (fun c n => c.check file (start + n)) c

/-- Read on in a text; at its end the last two lines are looked at again. -/
def readOn (c : OrderCheck) (file i : Nat) : OrderCheck :=
  if i < (c.keysOf file).size then c.check file i else c.check file ((c.keysOf file).size - 1)

/-- Read two texts line by line, as their comparison does. -/
def byLines (c : OrderCheck) : Nat → Nat → Nat → OrderCheck
  | 0, _, _ => c
  | fuel + 1, i, k =>
    match c.keys.1[i]?, c.keys.2[k]? with
    | none, none => c
    | x, y =>
      let order := match x, y with
        | some x, some y => compareOctets x y
        | some _, none => .lt
        | _, _ => .gt
      let c := if order = .eq then c else { c with unpaired := true }
      let c := if order = .gt then c else c.readOn 1 (i + 1)
      let c := if order = .lt then c else c.readOn 2 (k + 1)
      byLines c fuel (if order = .gt then i else i + 1) (if order = .lt then k else k + 1)

/-- Read two texts in groups of lines with one key, as their join does. -/
def byGroups (c : OrderCheck) : Nat → Nat → Nat → OrderCheck
  | 0, _, _ => c
  | fuel + 1, i, k =>
    match c.keys.1[i]?, c.keys.2[k]? with
    | some x, some y =>
      match compareOctets x y with
      | .lt => byGroups { c.check 1 (i + 1) with unpaired := true } fuel (i + 1) k
      | .gt => byGroups { c.check 2 (k + 1) with unpaired := true } fuel i (k + 1)
      | .eq =>
        let i' := i + ((c.keys.1.toList.drop i).takeWhile (· == y)).length
        let k' := k + ((c.keys.2.toList.drop k).takeWhile (· == x)).length
        byGroups ((c.checkAll 1 (i + 1) (i' + 1)).checkAll 2 (k + 1) (k' + 1)) fuel i' k'
    | _, _ => (c.checkAll 1 (i + 1) c.keys.1.size).checkAll 2 (k + 1) c.keys.2.size

end OrderCheck

def comm : Tool := fun args =>
  withOptions "comm"
    "1 2 3 check-order nocheck-order output-delimiter: total z|zero-terminated" args fun o => do
      match o.operands with
      | [] => misuse "comm" "missing operand"
      | [a] => misuse "comm" s!"missing operand after {Quoting.text a}"
      | _ :: _ :: extra :: _ => misuse "comm" s!"extra operand {Quoting.text extra}"
      | [a, b] => do
        match ← contentOf a, ← contentOf b with
        | .error e, _ => fail "comm" s!"{ifNeeded a}: {e.words}"
        | _, .error e => fail "comm" s!"{ifNeeded b}: {e.words}"
        | .ok x, .ok y =>
          let terminator := if o.has "z" then Char.ofNat 0 else '\n'
          let xs := (recordsOf terminator x).1
          let ys := (recordsOf terminator y).1
          let found := compareTexts (xs.length + ys.length + 1) xs ys
          let delimiter := ((o.value? "output-delimiter").getD "\t").toList
          let lead (column : Nat) : List Char :=
            ((List.range column).filter fun c => c ≠ 0 && !o.has (toString c)).flatMap
              fun _ => delimiter
          emit ((found.filter fun f => !o.has (toString f.1)).flatMap fun (c, line) =>
            lead c ++ line ++ [terminator])
          if o.has "total" then
            let n (c : Nat) : String := toString (found.filter (·.1 = c)).length
            emit (n 1 ++ "\t" ++ n 2 ++ "\t" ++ n 3 ++ "\ttotal\n").toList
          let check : OrderCheck := ⟨(xs.toArray, ys.toArray), o.has "check-order", false, []⟩
          let unsorted := (check.byLines (xs.length + ys.length + 1) 0 0).found
          if o.has "nocheck-order" || unsorted.isEmpty then return 0
          for (n, _) in if check.always then unsorted.take 1 else unsorted do
            warnAs "comm" s!"file {n} is not in sorted order"
          if check.always then return 1
          fail "comm" "input is not in sorted order"

/-! ### Joining -/

/-- How lines of two files are joined. -/
structure Joining where
  tab : Option Char
  fields : Nat × Nat
  ignoreCase : Bool
  empty : List Char
  /-- The fields that are shown, by the number of the file, or zero for the common one. -/
  format : Option (List (Nat × Nat))

namespace Joining

def split (j : Joining) (line : List Char) : List (List Char) :=
  match j.tab with
  | some t => Text.pieces (· == t) line
  | none => (Text.pieces isBlankChar line).filter (!·.isEmpty)

def key (j : Joining) (field : Nat) (fs : List (List Char)) : List Char :=
  let k := fs.getD (field - 1) []
  if j.ignoreCase then k.map Char.toUpper else k

/-- The line made of a pair, of which one side may be missing. -/
def joined (j : Joining) (a b : Option (List (List Char))) : List Char :=
  let separator := [j.tab.getD ' ']
  let common := match a, b with
    | some fs, _ => fs.getD (j.fields.1 - 1) []
    | none, some fs => fs.getD (j.fields.2 - 1) []
    | none, none => []
  let orEmpty (f : Option (List Char)) : List Char :=
    match f with
    | some t => if t.isEmpty then j.empty else t
    | none => j.empty
  let others (field : Nat) (fs : List (List Char)) : List (List Char) := fs.eraseIdx (field - 1)
  let shown : List (List Char) := match j.format with
    | some format => format.map fun (file, field) =>
      match file with
      | 0 => orEmpty (some common)
      | 1 => orEmpty (a.bind fun fs => fs[field - 1]?)
      | _ => orEmpty (b.bind fun fs => fs[field - 1]?)
    | none => common :: ((a.map (others j.fields.1)).getD [] ++ (b.map (others j.fields.2)).getD [])
  separator.intercalate shown

/-- Pairs of lines with equal keys, and lines without a partner. -/
def pairs (j : Joining) : Nat → List (List (List Char)) → List (List (List Char)) →
    List (Option (List (List Char)) × Option (List (List Char)))
  | 0, _, _ => []
  | _ + 1, [], bs => bs.map fun b => (none, some b)
  | _ + 1, as, [] => as.map fun a => (some a, none)
  | fuel + 1, a :: as, b :: bs =>
    let k := j.key j.fields.1 a
    match compareOctets k (j.key j.fields.2 b) with
    | .lt => (some a, none) :: pairs j fuel as (b :: bs)
    | .gt => (none, some b) :: pairs j fuel (a :: as) bs
    | .eq =>
      let own := as.takeWhile fun x => j.key j.fields.1 x = k
      let theirs := bs.takeWhile fun x => j.key j.fields.2 x = k
      ((a :: own).flatMap fun x => (b :: theirs).map fun y => (some x, some y)) ++
        pairs j fuel (as.drop own.length) (bs.drop theirs.length)

end Joining

/-- Read which fields are shown. -/
def readFormat? (text : String) : Option (List (Nat × Nat)) :=
  let words := (Text.pieces (fun c => c == ',' || c == ' ') text.toList).filter (!·.isEmpty)
  words.mapM fun w =>
    match w with
    | ['0'] => some (0, 0)
    | c :: '.' :: ds =>
      if (c = '1' || c = '2') && !ds.isEmpty && ds.all Char.isDigit then
        some (c.toNat - '0'.toNat, Nat.ofDigitChars 10 ds 0)
      else none
    | _ => none

def join : Tool := fun args =>
  withOptions "join"
    "a: e: i|ignore-case j: o: t: v: 1: 2: check-order nocheck-order header z|zero-terminated"
    args fun o => do
      match o.operands with
      | [] => misuse "join" "missing operand"
      | [a] => misuse "join" s!"missing operand after {Quoting.text a}"
      | _ :: _ :: extra :: _ => misuse "join" s!"extra operand {always extra}"
      | [a, b] => do
        match ← contentOf a, ← contentOf b with
        | .error e, _ => fail "join" s!"{ifNeeded a}: {e.words}"
        | _, .error e => fail "join" s!"{ifNeeded b}: {e.words}"
        | .ok x, .ok y =>
          if let some tab := (o.value? "t").filter fun t => 1 < t.length && t != "\\0" then
            return ← fail "join" s!"multi-character tab {Quoting.text tab}"
          let given (key : String) : String := ((o.value? key).or (o.value? "j")).getD ""
          let field (key : String) : Option Nat :=
            match (o.value? key).or (o.value? "j") with
            | some text => (natural? text).filter (0 < ·)
            | none => some 1
          match field "1", field "2", (o.value? "o").map readFormat? with
          | none, _, _ => fail "join" ("invalid field number: " ++ Quoting.text (given "1"))
          | _, none, _ => fail "join" ("invalid field number: " ++ Quoting.text (given "2"))
          | _, _, some none =>
            fail "join" ("invalid file number in field spec: " ++ Quoting.text (given "o"))
          | some f1, some f2, format => do
            let j : Joining := {
              tab := (o.value? "t").map fun t => t.toList.headD '\n'
              fields := (f1, f2)
              ignoreCase := o.has "i"
              empty := ((o.value? "e").getD "").toList
              format := format.join }
            let xs := (linesOf x).1.map j.split
            let ys := (linesOf y).1.map j.split
            let alone := o.values "v"
            let extra := o.values "a" ++ alone
            let (heads, xs, ys) := if o.has "header" then
                ([(xs.head?, ys.head?)], xs.drop 1, ys.drop 1) else ([], xs, ys)
            let found := (j.pairs (xs.length + ys.length + 1) xs ys).filter fun p =>
              match p with
              | (some _, some _) => alone.isEmpty
              | (some _, none) => extra.contains "1"
              | (none, _) => extra.contains "2"
            emit (joinLines ((heads ++ found).map fun (a, b) => j.joined a b))
            let keys (field : Nat) (ls : List (List (List Char))) : Array (List Char) :=
              (ls.map (j.key field)).toArray
            let check : OrderCheck := ⟨(keys f1 xs, keys f2 ys), o.has "check-order", false, []⟩
            let unsorted := (check.byGroups (xs.length + ys.length + 1) 0 0).found
            if o.has "nocheck-order" || unsorted.isEmpty then return 0
            for (n, i) in if check.always then unsorted.take 1 else unsorted do
              let path := if n = 1 then a else b
              let number := if o.has "header" then i + 1 else i
              let line := ((linesOf (if n = 1 then x else y)).1)[number - 1]?.getD []
              let shown := String.ofList line
              warnAs "join" s!"{path}:{number}: is not sorted: {shown}"
            if check.always then return 1
            fail "join" "input is not in sorted order"

end PatchTrial.Shell.Tools
