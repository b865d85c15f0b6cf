import PatchTrial.Text.CharSet

/-!
Regular expressions and their matches.

Of all matches in a text the leftmost counts, and of those the longest. Which part of the text each
group stands for is settled by a rule of precedence: a repetition goes on as long as it can, and an
earlier alternative comes before a later one, as far as the whole match can still be completed.

Ends of matches are computed for all starts at once, in the order of precedence, so that no way is
followed twice. Only an expression that refers back to a group needs its ways followed one by one.
-/
namespace PatchTrial

inductive Regex where
  | nothing
  | char (c : Char)
  | any
  | set (negated : Bool) (items : List SetItem)
  | lineStart
  | lineEnd
  | textStart
  | textEnd
  /-- Between a character of a word and one that is not, or its opposite. -/
  | wordEdge (negated : Bool)
  | wordStart
  | wordEnd
  | group (n : Nat) (r : Regex)
  /-- The text of a group once more. -/
  | same (n : Nat)
  | sequence (a b : Regex)
  | either (a b : Regex)
  | many (r : Regex) (least : Nat) (most : Option Nat)
  deriving Inhabited

namespace Regex

/-- How characters are compared, and where lines start. -/
structure Setting where
  ignoreCase : Bool := false
  /-- Whether lines also start and end at line breaks. -/
  byLine : Bool := false

/-- A text in which matches are looked for. -/
structure Subject where
  text : Array Char
  setting : Setting

def isWordChar (c : Char) : Bool := c.isAlphanum || c == '_'

def otherCase (c : Char) : Char := if c.isUpper then c.toLower else c.toUpper

namespace Subject

variable (s : Subject)

def equal (a b : Char) : Bool := a == b || (s.setting.ignoreCase && a.toLower == b.toLower)

def isIn (items : List SetItem) (c : Char) : Bool :=
  items.any fun i => i.has c || (s.setting.ignoreCase && i.has (otherCase c))

def atLineStart (i : Nat) : Bool :=
  i = 0 || (s.setting.byLine && s.text[i - 1]? = some '\n')

def atLineEnd (i : Nat) : Bool :=
  i = s.text.size || (s.setting.byLine && s.text[i]? = some '\n')

def wordBefore (i : Nat) : Bool := i ≠ 0 && (s.text[i - 1]?).any isWordChar

def wordAfter (i : Nat) : Bool := (s.text[i]?).any isWordChar

/-- Whether the text between two positions stands at another one. -/
def repeats (first last i : Nat) : Bool :=
  (List.range (last - first)).all fun k =>
    match s.text[first + k]?, s.text[i + k]? with
    | some a, some b => s.equal a b
    | _, _ => false

/-- The text between two positions. -/
def slice (first last : Nat) : List Char := (s.text.extract first last).toList

end Subject

/-! ### Ends of matches -/

/-- Positions that have been found, the latest first, and the set of them as bits. -/
structure Found where
  seen : Nat := 0
  out : List Nat := []

def Found.add (f : Found) (i : Nat) : Found :=
  if f.seen.testBit i then f else ⟨f.seen ||| 1 <<< i, i :: f.out⟩

def Found.addAll (f : Found) (is : List Nat) : Found := is.foldl Found.add f

def Found.toList (f : Found) : List Nat := f.out.reverse

/-- Positions without those that were there before. -/
def distinct (is : List Nat) : List Nat := (Found.addAll {} is).toList

/-- Where positions lead, one after another. -/
def eachEnd (f : Nat → List Nat) (starts : List Nat) : List Nat :=
  match starts with
  | [i] => f i
  | _ => distinct (starts.flatMap f)

/-- Positions that pass over one character. -/
def overChar (s : Subject) (ok : Char → Bool) (starts : List Nat) : List Nat :=
  starts.filterMap fun i => if (s.text[i]?).any ok then some (i + 1) else none

/-- What has been visited on the way through repetitions, as bits, and the ends found. -/
structure Visits where
  seen : Nat := 0
  found : Found := {}

/-- Repeat a step as often as it is possible, the ends of more repetitions first. No bound is given
as none; a place with what is left of the bound is visited once. -/
def visit (step : Nat → List Nat) (size : Nat) : Nat → Option Nat → Visits → Nat → Visits
  | 0, _, v, _ => v
  | fuel + 1, bound, v, i =>
    let mark := (bound.map (· + 1)).getD 0 * (size + 1) + i
    if v.seen.testBit mark then v
    else
      let v := { v with seen := v.seen ||| 1 <<< mark }
      let v := if bound = some 0 then v
        else (step i).foldl (fun v k =>
          if k = i then v else visit step size fuel (bound.map (· - 1)) v k) v
      { v with found := v.found.add i }

/-- The ends of repetitions of a step. -/
def repeated (step : List Nat → List Nat) (size least : Nat) (most : Option Nat)
    (starts : List Nat) : List Nat :=
  let required := Nat.repeat (fun found => distinct (step found)) least starts
  eachEnd (fun i =>
    (visit (fun k => step [k]) size (size + 2) (most.map (· - least)) {} i).found.toList) required

/-- The ends of matches that start at any of some positions, by precedence. -/
def ends (s : Subject) : Regex → List Nat → List Nat
  | .nothing, is => is
  | .char c, is => overChar s (s.equal c) is
  | .any, is => overChar s (fun _ => true) is
  | .set negated items, is => overChar s (fun c => s.isIn items c != negated) is
  | .lineStart, is => is.filter s.atLineStart
  | .lineEnd, is => is.filter s.atLineEnd
  | .textStart, is => is.filter (· = 0)
  | .textEnd, is => is.filter (· = s.text.size)
  | .wordEdge negated, is => is.filter fun i => (s.wordBefore i != s.wordAfter i) != negated
  | .wordStart, is => is.filter fun i => !s.wordBefore i && s.wordAfter i
  | .wordEnd, is => is.filter fun i => s.wordBefore i && !s.wordAfter i
  | .group _ r, is => ends s r is
  | .same _, is => is
  | .sequence a b, is => ends s b (ends s a is)
  | .either a b, is => eachEnd (fun i => distinct (ends s a [i] ++ ends s b [i])) is
  | .many r least most, is => repeated (ends s r) s.text.size least most is

/-! ### Groups -/

/-- The parts of a text that groups stand for, the latest first. -/
abbrev Groups := List (Nat × Nat × Nat)

/-- Share out the text between two positions among repetitions. -/
def assignMany (s : Subject) (r : Regex) (assign : Nat → Nat → Groups → Groups) :
    Nat → Nat → Option Nat → Nat → Nat → Groups → Groups
  | 0, _, _, _, _, g => g
  | fuel + 1, least, most, i, j, g =>
    if i = j && least = 0 then g
    else
      let most := most.map (· - 1)
      let next := (ends s r [i]).find? fun k =>
        (least ≠ 0 || k ≠ i) &&
          (repeated (ends s r) s.text.size (least - 1) most [k]).contains j
      match next with
      | none => g
      | some k => assignMany s r assign fuel (least - 1) most k j (assign i k g)

/-- The groups of an expression that matches the text between two positions. -/
def assign (s : Subject) : Regex → Nat → Nat → Groups → Groups
  | .group n r, i, j, g => (n, i, j) :: assign s r i j g
  | .sequence a b, i, j, g =>
    match (ends s a [i]).find? fun k => (ends s b [k]).contains j with
    | none => g
    | some k => assign s b k j (assign s a i k g)
  | .either a b, i, j, g =>
    if (ends s a [i]).contains j then assign s a i j g else assign s b i j g
  | .many r least most, i, j, g =>
    assignMany s r (assign s r) (least + (j - i) + 1) least most i j g
  | _, _, _, g => g

/-! ### References to groups -/

def refersBack : Regex → Bool
  | .same _ => true
  | .group _ r => refersBack r
  | .many r _ _ => refersBack r
  | .sequence a b => refersBack a || refersBack b
  | .either a b => refersBack a || refersBack b
  | _ => false

/-- How far a match has got. -/
structure Progress where
  position : Nat
  groups : Groups

/-- All ways to repeat a step, those of more repetitions first. -/
def waysOfMany (step : Progress → List Progress) : Nat → Nat → Option Nat → Progress →
    List Progress
  | 0, _, _, _ => []
  | fuel + 1, least, most, p =>
    let further := if most = some 0 then [] else
      (step p).flatMap fun q =>
        if q.position = p.position && least = 0 then []
        else waysOfMany step fuel (least - 1) (most.map (· - 1)) q
    if least = 0 then further ++ [p] else further

/-- All ways to go on with a match, by precedence. -/
def ways (s : Subject) : Regex → Progress → List Progress
  | .group n r, p => (ways s r p).map fun q =>
    { q with groups := (n, p.position, q.position) :: q.groups }
  | .same n, p =>
    match p.groups.lookup n with
    | none => []
    | some (i, j) =>
      if s.repeats i j p.position then [{ p with position := p.position + (j - i) }] else []
  | .sequence a b, p => (ways s a p).flatMap (ways s b)
  | .either a b, p => ways s a p ++ ways s b p
  | .many r least most, p =>
    waysOfMany (ways s r) (least + s.text.size + 2) least most p
  | r, p => (ends s r [p.position]).map fun i => { p with position := i }

/-! ### Matches -/

structure Match where
  start : Nat
  stop : Nat
  groups : Groups

/-- The longest out of ends; of equal ones the first. -/
def furthest (is : List Nat) : Option Nat :=
  is.foldl (fun best i => match best with
    | some b => if b < i then some i else some b
    | none => some i) none

/-- The longest match at a position. -/
def matchAt? (s : Subject) (r : Regex) (i : Nat) : Option Match :=
  if r.refersBack then
    let found := ways s r ⟨i, []⟩
    (furthest (found.map (·.position))).bind fun j =>
      (found.find? (·.position = j)).map fun p => ⟨i, j, p.groups⟩
  else
    (furthest (ends s r [i])).map fun j => ⟨i, j, assign s r i j []⟩

/-- The first match at or after a position, which is so far from the end of the text. -/
def findWithin (s : Subject) (r : Regex) : Nat → Nat → Option Match
  | 0, _ => none
  | fuel + 1, i =>
    match matchAt? s r i with
    | some m => some m
    | none => findWithin s r fuel (i + 1)

/-- The first match at or after a position. -/
def findFrom? (s : Subject) (r : Regex) (i : Nat) : Option Match :=
  findWithin s r (s.text.size + 1 - i) i

def Subject.ofList (setting : Setting) (cs : List Char) : Subject := ⟨cs.toArray, setting⟩

/-- Whether there is a match in a text. -/
def matchesIn (r : Regex) (setting : Setting) (cs : List Char) : Bool :=
  (findFrom? (.ofList setting cs) r 0).isSome

/-- Whether a text matches as a whole. -/
def matchesWhole (r : Regex) (cs : List Char) : Bool :=
  let s := Subject.ofList {} cs
  (ends s r [0]).contains cs.length

/-- All matches in a text that follow one another. An empty match right behind another one does not
count. -/
def allMatches (s : Subject) (r : Regex) : Nat → Nat → Option Nat → List Match
  | 0, _, _ => []
  | fuel + 1, i, last =>
    match findFrom? s r i with
    | none => []
    | some m =>
      if m.stop = m.start then
        let rest := if m.stop < s.text.size then allMatches s r fuel (m.stop + 1) none else []
        if last = some m.start then rest else m :: rest
      else m :: allMatches s r fuel m.stop (some m.stop)

def allIn (s : Subject) (r : Regex) : List Match := allMatches s r (s.text.size + 2) 0 none

/-- The text of a group; an unused one is empty. -/
def Match.group (m : Match) (s : Subject) (n : Nat) : List Char :=
  if n = 0 then s.slice m.start m.stop
  else
    match m.groups.lookup n with
    | some (i, j) => s.slice i j
    | none => []

/-- An expression that matches a text only. -/
def literal (cs : List Char) : Regex := cs.foldr (fun c r => .sequence (.char c) r) .nothing

/-- How many groups an expression has. -/
def groupCount : Regex → Nat
  | .group n r => max n r.groupCount
  | .many r _ _ => r.groupCount
  | .sequence a b => max a.groupCount b.groupCount
  | .either a b => max a.groupCount b.groupCount
  | _ => 0

end Regex

end PatchTrial
