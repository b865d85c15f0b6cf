/-!
The differences between two texts, line by line.

A shortest edit is searched from both ends at once: after so many steps it is known, for each
diagonal, how far the lines agree. Where the searches from the two ends meet, the texts are cut in
two, and both halves are treated in the same way. A run of changed lines is then moved down as far
as it goes, or up to where the other text is changed too.

Lines are given by numbers; equal lines have equal numbers.
-/
namespace PatchTrial.Difference

/-- The lines of two texts. -/
structure Sides where
  left : Array Nat
  right : Array Nat

/-- Which lines are changed. -/
structure Marks where
  left : Array Bool
  right : Array Bool

/-- A part of both texts. -/
structure Window where
  xStart : Nat
  xEnd : Nat
  yStart : Nat
  yEnd : Nat

namespace Sides

variable (s : Sides)

def same (x y : Int) : Bool :=
  0 ≤ x && 0 ≤ y && (s.left[x.toNat]?).isSome && s.left[x.toNat]? == s.right[y.toNat]?

/-! ### Meeting in the middle -/

/-- How far a search has come on each diagonal. -/
structure Front where
  reach : Array Int
  least : Int
  greatest : Int

def Front.get (f : Front) (base d : Int) : Int := f.reach[(d + base).toNat]?.getD 0

def Front.put (f : Front) (base d x : Int) : Front :=
  { f with reach := f.reach.set! (d + base).toNat x }

/-- Widen a front by one diagonal on each side, as far as there are any. -/
def Front.widen (f : Front) (base dmin dmax blocked : Int) : Front :=
  let f := if dmin < f.least then { f.put base (f.least - 2) blocked with least := f.least - 1 }
    else { f with least := f.least + 1 }
  if f.greatest < dmax then
    { f.put base (f.greatest + 2) blocked with greatest := f.greatest + 1 }
  else { f with greatest := f.greatest - 1 }

/-- Every second diagonal of a front, the highest first. -/
def Front.diagonals (f : Front) : List Int :=
  (List.range ((f.greatest - f.least) / 2 + 1).toNat).map fun (i : Nat) => f.greatest - 2 * i

def slideDown (w : Window) : Nat → Int → Int → Int
  | 0, x, _ => x
  | fuel + 1, x, y =>
    if x < w.xEnd && y < w.yEnd && s.same x y then slideDown w fuel (x + 1) (y + 1) else x

def slideUp (w : Window) : Nat → Int → Int → Int
  | 0, x, _ => x
  | fuel + 1, x, y =>
    if (w.xStart : Int) < x && (w.yStart : Int) < y && s.same (x - 1) (y - 1) then
      slideUp w fuel (x - 1) (y - 1)
    else x

/-- One more step from the start, on each diagonal. The answer is where the searches meet. -/
def stepDown (w : Window) (base : Int) (meets : Bool) (other : Front) :
    List Int → Front → Front × Option (Int × Int)
  | [], f => (f, none)
  | d :: ds, f =>
    let lo := f.get base (d - 1)
    let hi := f.get base (d + 1)
    let x0 := if lo < hi then hi else lo + 1
    let x := s.slideDown w (s.left.size + 1) x0 (x0 - d)
    let f := f.put base d x
    if meets && other.least ≤ d && d ≤ other.greatest && other.get base d ≤ x then
      (f, some (x, x - d))
    else stepDown w base meets other ds f

/-- One more step from the end, on each diagonal. -/
def stepUp (w : Window) (base : Int) (meets : Bool) (other : Front) :
    List Int → Front → Front × Option (Int × Int)
  | [], f => (f, none)
  | d :: ds, f =>
    let lo := f.get base (d - 1)
    let hi := f.get base (d + 1)
    let x0 := if lo < hi then lo else hi - 1
    let x := s.slideUp w (s.left.size + 1) x0 (x0 - d)
    let f := f.put base d x
    if meets && other.least ≤ d && d ≤ other.greatest && x ≤ other.get base d then
      (f, some (x, x - d))
    else stepUp w base meets other ds f

/-- Where the searches from both ends of a window meet. -/
def middleFrom (w : Window) (base dmin dmax : Int) (odd : Bool) :
    Nat → Front → Front → Int × Int
  | 0, _, _ => (w.xStart, w.yEnd)
  | fuel + 1, down, up =>
    let far : Int := s.left.size + s.right.size + 2
    let down := down.widen base dmin dmax (-1)
    match s.stepDown w base odd up down.diagonals down with
    | (_, some found) => found
    | (down, none) =>
      let up := up.widen base dmin dmax far
      match s.stepUp w base (!odd) down up.diagonals up with
      | (_, some found) => found
      | (up, none) => middleFrom w base dmin dmax odd fuel down up

def middle (w : Window) : Int × Int :=
  let dmin : Int := (w.xStart : Int) - w.yEnd
  let dmax : Int := (w.xEnd : Int) - w.yStart
  let dmid : Int := (w.xStart : Int) - w.yStart
  let emid : Int := (w.xEnd : Int) - w.yEnd
  let base := 1 - dmin
  let empty : Array Int := Array.replicate (dmax - dmin + 3).toNat 0
  let down : Front := Front.put ⟨empty, dmid, dmid⟩ base dmid w.xStart
  let up : Front := Front.put ⟨empty, emid, emid⟩ base emid w.xEnd
  s.middleFrom w base dmin dmax ((dmid - emid) % 2 != 0)
    (w.xEnd - w.xStart + (w.yEnd - w.yStart) + 2) down up

/-! ### Marks -/

def markRange (marks : Array Bool) (start stop : Nat) : Array Bool :=
  (List.range (stop - start)).foldl (fun m i => m.set! (start + i) true) marks

/-- How many lines are equal at the start of a window. -/
def equalStart (w : Window) : Nat :=
  let most := min (w.xEnd - w.xStart) (w.yEnd - w.yStart)
  ((List.range most).takeWhile fun (i : Nat) => s.same (w.xStart + i) (w.yStart + i)).length

/-- How many lines are equal at the end of a window. -/
def equalEnd (w : Window) : Nat :=
  let most := min (w.xEnd - w.xStart) (w.yEnd - w.yStart)
  ((List.range most).takeWhile fun (i : Nat) =>
    s.same ((w.xEnd : Int) - 1 - i) ((w.yEnd : Int) - 1 - i)).length

/-- Mark what is changed within a window. -/
def mark : Nat → Window → Marks → Marks
  | 0, _, m => m
  | fuel + 1, w, m =>
    let a := s.equalStart w
    let w := { w with xStart := w.xStart + a, yStart := w.yStart + a }
    let b := s.equalEnd w
    let w := { w with xEnd := w.xEnd - b, yEnd := w.yEnd - b }
    if w.xStart = w.xEnd then { m with right := markRange m.right w.yStart w.yEnd }
    else if w.yStart = w.yEnd then { m with left := markRange m.left w.xStart w.xEnd }
    else
      let (x, y) := s.middle w
      let m := mark fuel { w with xEnd := x.toNat, yEnd := y.toNat } m
      mark fuel { w with xStart := x.toNat, yStart := y.toNat } m

end Sides

/-! ### Moving runs of changes -/

/-- A run of changed lines that is being moved. -/
structure Run where
  changed : Array Bool
  /-- Its first line. -/
  start : Int
  /-- The line behind it. -/
  stop : Int
  /-- The place in the other text. -/
  place : Int

def at' (marks : Array Bool) (i : Int) : Bool := 0 ≤ i && marks[i.toNat]?.getD false

/-- The last place before one that is not changed. -/
def placeBefore (other : Array Bool) : Nat → Int → Int
  | 0, j => j - 1
  | fuel + 1, j => if at' other (j - 1) then placeBefore other fuel (j - 1) else j - 1

/-- The first place behind one that is not changed. -/
def placeBehind (other : Array Bool) : Nat → Int → Int
  | 0, j => j + 1
  | fuel + 1, j => if at' other (j + 1) then placeBehind other fuel (j + 1) else j + 1

/-- The first line from one on that is not changed, downwards. -/
def endOfRun (marks : Array Bool) : Nat → Int → Int
  | 0, i => i
  | fuel + 1, i => if at' marks i then endOfRun marks fuel (i + 1) else i

/-- The first line of the run that a line belongs to or follows. -/
def startOfRun (marks : Array Bool) : Nat → Int → Int
  | 0, i => i
  | fuel + 1, i => if at' marks (i - 1) then startOfRun marks fuel (i - 1) else i

namespace Run

variable (lines : Array Nat) (other : Array Bool)

def line? (i : Int) : Option Nat := if i < 0 then none else lines[i.toNat]?

/-- Move a run up by one line. -/
def up (r : Run) : Run :=
  let changed := (r.changed.set! (r.start - 1).toNat true).set! (r.stop - 1).toNat false
  { changed
    start := startOfRun changed lines.size (r.start - 1)
    stop := r.stop - 1
    place := placeBefore other (other.size + 1) r.place }

/-- Move a run up as long as the line before it is equal to its last one. -/
def upwards : Nat → Run → Run
  | 0, r => r
  | fuel + 1, r =>
    if 0 < r.start && line? lines (r.start - 1) == line? lines (r.stop - 1) then
      upwards fuel (r.up lines other)
    else r

/-- Move a run down as long as its first line is equal to the one behind it. The answer also tells
the last end at which it stood beside a change of the other text. -/
def downwards : Nat → Run → Int → Run × Int
  | 0, r, best => (r, best)
  | fuel + 1, r, best =>
    if r.stop ≠ lines.size && line? lines r.start == line? lines r.stop then
      let changed := (r.changed.set! r.start.toNat false).set! r.stop.toNat true
      let stop := endOfRun changed lines.size (r.stop + 1)
      let place := placeBehind other (other.size + 1) r.place
      let best := if place = r.place + 1 then best else stop
      downwards fuel ⟨changed, r.start + 1, stop, place⟩ best
    else (r, best)

/-- Move a run up and down until it grows no more. -/
def settle : Nat → Run → Run × Int
  | 0, r => (r, r.stop)
  | fuel + 1, r =>
    let length := r.stop - r.start
    let r := r.upwards lines other (lines.size + 1)
    let best : Int := if at' other (r.place - 1) then r.stop else lines.size
    let (r, best) := r.downwards lines other (lines.size + 1) best
    if r.stop - r.start = length then (r, best) else settle fuel r

/-- Move a run back to the last end that was good. -/
def back (best : Int) : Nat → Run → Run
  | 0, r => r
  | fuel + 1, r =>
    if best < r.stop then
      let changed := (r.changed.set! (r.start - 1).toNat true).set! (r.stop - 1).toNat false
      back best fuel ⟨changed, r.start - 1, r.stop - 1, placeBefore other (other.size + 1) r.place⟩
    else r

end Run

/-- Move the runs of one text from a line on. -/
def moveRuns (lines : Array Nat) (other : Array Bool) :
    Nat → Array Bool → Int → Int → Array Bool
  | 0, changed, _, _ => changed
  | fuel + 1, changed, i, j =>
    if (lines.size : Int) ≤ i then changed
    else if !at' changed i then
      moveRuns lines other fuel changed (i + 1) (endOfRun other (other.size + 1) j + 1)
    else
      let stop := endOfRun changed (lines.size + 1) i
      let place := endOfRun other (other.size + 1) j
      let (r, best) := Run.settle lines other (lines.size + 2) ⟨changed, i, stop, place⟩
      let r := Run.back other best (lines.size + 1) r
      moveRuns lines other fuel r.changed r.stop r.place

/-! ### Changes -/

/-- A change: so many lines from a line on are replaced by so many lines of the other text. -/
structure Change where
  left : Nat
  leftCount : Nat
  right : Nat
  rightCount : Nat
  deriving DecidableEq, Repr

/-- The changes that marks describe. -/
def changesFrom (m : Marks) : Nat → Nat → Nat → List Change
  | 0, _, _ => []
  | fuel + 1, x, y =>
    if m.left.size ≤ x && m.right.size ≤ y then []
    else
      let a := (endOfRun m.left (m.left.size + 1) x).toNat - x
      let b := (endOfRun m.right (m.right.size + 1) y).toNat - y
      let rest := changesFrom m fuel (x + a + 1) (y + b + 1)
      if a = 0 && b = 0 then rest else ⟨x, a, y, b⟩ :: rest

/-- Lines of one text that also stand in the other one, with their places. -/
def shared (own other : Array Nat) : Array Nat × Array Nat :=
  let kept := (own.toList.zipIdx).filter fun (n, _) => other.contains n
  ((kept.map (·.1)).toArray, (kept.map (·.2)).toArray)

/-- Marks of lines that stand in both texts, and of all others. -/
def spread (size : Nat) (places : Array Nat) (marks : Array Bool) : Array Bool :=
  (places.toList.zip marks.toList).foldl (fun all (i, m) => all.set! i m)
    (Array.replicate size true)

/-- The changes that make the second text out of the first one. Of equal lines at both ends, so many
are taken into account when runs are moved. -/
def changes (horizon : Nat) (left right : Array Nat) : List Change :=
  let whole : Sides := ⟨left, right⟩
  let start := whole.equalStart ⟨0, left.size, 0, right.size⟩
  let stop := whole.equalEnd ⟨start, left.size, start, right.size⟩
  let first := start - horizon
  let last := stop - horizon
  let xs := left.extract first (left.size - last)
  let ys := right.extract first (right.size - last)
  let (xShared, xPlaces) := shared xs ys
  let (yShared, yPlaces) := shared ys xs
  let s : Sides := ⟨xShared, yShared⟩
  let none' (a : Array Nat) : Array Bool := Array.replicate a.size false
  let m := s.mark (xShared.size + yShared.size + 1) ⟨0, xShared.size, 0, yShared.size⟩
    ⟨none' xShared, none' yShared⟩
  let xMarks := spread xs.size xPlaces m.left
  let yMarks := spread ys.size yPlaces m.right
  let fuel := xs.size + ys.size + 2
  let xMarks := moveRuns xs yMarks fuel xMarks 0 0
  let yMarks := moveRuns ys xMarks fuel yMarks 0 0
  (changesFrom ⟨xMarks, yMarks⟩ fuel 0 0).map fun c =>
    { c with left := c.left + first, right := c.right + first }

end PatchTrial.Difference
