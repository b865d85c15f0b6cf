import PatchTrial.Event
import PatchTrial.Regex.Reader
import PatchTrial.Text.WordChar

/-!
Which events the log shows.

A filter is a list of directives such as `target[span{field=value}]=level`, of which every part may
be left out. A directive without a span and without values is for events: of those that concern an
event the most precise one counts. Every other one is for what happens within a span, and opens the
log there as far as its level says.
-/
namespace PatchTrial

/-- How much is shown: nothing at 0, everything at 5. -/
abbrev Verbosity := Nat

/-- A field that a directive asks for, and what its value must match. -/
structure LogField where
  name : String
  value : Option Regex := none

structure LogDirective where
  target : Option String := none
  span : Option String := none
  fields : List LogField := []
  verbosity : Verbosity := 5

abbrev LogFilter := List LogDirective

/-- What events can be told by that happen within it: a part of the program at work. -/
structure LogSpan where
  name : String
  fields : List (String × String)

namespace LogFilter

/-- Show events of a level and of those that matter more. -/
def ofLevel (l : Level) : LogFilter := [{ verbosity := 5 - l.severity }]

/-! ### Reading -/

/-- The verbosity that a name or a number stands for. -/
def verbosity? (s : List Char) : Option Verbosity :=
  let names := ["off", "error", "warn", "info", "debug", "trace"]
  match names.findIdx? (· = String.ofList (Text.asciiLower s)) with
  | some n => some n
  | none =>
    let digits := match s with
      | '+' :: ds => ds
      | ds => ds
    let n := Nat.ofDigitChars 10 digits 0
    if !digits.isEmpty && digits.all Char.isDigit && n ≤ 5 then some n else none

/-- Read a field with its value. -/
def field? (s : List Char) : Option LogField :=
  match Text.pieces (· == '=') s with
  | [] => none
  | [name] => if s.isEmpty then none else some ⟨String.ofList name, none⟩
  | name :: value :: _ =>
    (Regex.ofNotation? .full value).map fun r => ⟨String.ofList name, some r⟩

/-- What is being read of a directive, and where it began. -/
inductive Reading where
  | start
  | target (start : Nat)
  | span (start : Nat)
  | field (start : Nat)
  | fieldsEnd
  | spanEnd
  | verbosity (start : Nat)

/-- A piece of a text. -/
def piece (text : List Char) (start stop : Nat) : List Char := (text.drop start).take (stop - start)

/-- Go on with the character at a position. The pieces are cut out of `text`. -/
def readChar (text : List Char) (i : Nat) (c : Char) (d : LogDirective) :
    Reading → Option (Reading × LogDirective)
  | .start =>
    if c = '[' then some (.span (i + 1), d)
    else if c = '-' || c = ':' || Text.isWordChar c then some (.target i, d)
    else none
  | .target start =>
    let named := { d with target := some (String.ofList (piece text start i)) }
    if c = '=' then some (.verbosity (i + 1), named)
    else if c = '[' then some (.span (i + 1), named)
    else some (.target start, d)
  | .span start =>
    let name := String.ofList (piece text start i)
    if c = ']' then some (.spanEnd, { d with span := some name })
    else if c = '\x7b' then
      some (.field (i + 1), { d with span := if name.isEmpty then none else some name })
    else some (.span start, d)
  | .field start =>
    if c = '\x7d' then
      (field? (piece text start i)).map fun f => (.fieldsEnd, { d with fields := d.fields ++ [f] })
    else some (.field start, d)
  | .fieldsEnd => if c = ']' then some (.spanEnd, d) else none
  | .spanEnd => if c = '=' then some (.verbosity (i + 1), d) else none
  | .verbosity start => some (.verbosity start, d)

/-- What a directive is at its end. -/
def finish? (text : List Char) (d : LogDirective) : Reading → Option LogDirective
  | .target start =>
    let rest := text.drop start
    match verbosity? rest with
    | some n => some { d with target := none, verbosity := n }
    | none => some { d with target := some (String.ofList rest) }
  | .verbosity start =>
    let rest := text.drop start
    if rest.isEmpty then some d else (verbosity? rest).map fun n => { d with verbosity := n }
  | .spanEnd => some d
  | _ => none

/-- Read a directive. Blanks around it are not read, but they count where it is cut into pieces. -/
def directive? (text : List Char) : Option LogDirective :=
  let rec go (i : Nat) (r : Reading) (d : LogDirective) : List Char → Option LogDirective
    | [] => finish? text d r
    | c :: cs =>
      match readChar text i c d r with
      | none => none
      | some (r, d) => go (i + 1) r d cs
  go 0 .start {} (Text.trim text)

/-- Read a filter. -/
def parse? (text : String) : Option LogFilter :=
  ((Text.pieces (· == ',') text.toList).filter (!·.isEmpty)).mapM directive?

end LogFilter

/-! ### Filtering -/

namespace LogDirective

/-- Whether a directive is for what comes from a part of the program. -/
def targets (d : LogDirective) (source : String) : Bool := d.target.all fun t => source.startsWith t

/-- Whether a directive looks at single events, not at the spans that they are within. -/
def isForEvents (d : LogDirective) : Bool := d.span.isNone && d.fields.all (·.value.isNone)

/-- Whether a directive looks at spans. -/
def isForSpans (d : LogDirective) : Bool := d.span.isSome || !d.fields.isEmpty

/-- Whether a directive for events is for this one. -/
def concerns (d : LogDirective) (e : Event) : Bool :=
  d.isForEvents && d.targets e.source &&
    d.fields.all fun f => f.name = "event" || e.details.any (·.1 = f.name)

/-- Whether a directive for spans is for this one. -/
def opens (d : LogDirective) (source : String) (s : LogSpan) : Bool :=
  let fits (f : LogField) : Bool :=
    match s.fields.lookup f.name, f.value with
    | none, _ => false
    | some _, none => true
    | some text, some r => r.matchesWhole text.toList
  d.isForSpans && d.targets source && d.span.all (· = s.name) && d.fields.all fits

/-- Of two directives for an event the later one counts, unless it is less precise. -/
def isLessPrecise (d other : LogDirective) : Bool :=
  let length (d : LogDirective) : Nat := d.target.elim 0 (·.utf8ByteSize + 1)
  if length d = length other then
    if d.fields.length = other.fields.length then
      d.fields.map (·.name) < other.fields.map (·.name)
    else d.fields.length < other.fields.length
  else length d < length other

end LogDirective

namespace LogFilter

/-- How much is shown of what an event is by itself. -/
def verbosityFor (f : LogFilter) (e : Event) : Verbosity :=
  let best := (f.filter (·.concerns e)).foldl (fun (best : Option LogDirective) d =>
    match best with
    | none => some d
    | some b => if d.isLessPrecise b then some b else some d) none
  best.elim 0 (·.verbosity)

/-- How much is shown within a span. A filter notices spans only where it lets something of their
level pass anywhere, or looks at their values. -/
def verbosityWithin (f : LogFilter) (source : String) (s : LogSpan) : Verbosity :=
  let noticed := f.any fun d =>
    5 ≤ d.verbosity + Level.info.severity || d.fields.any (·.value.isSome)
  if noticed then ((f.filter (·.opens source s)).map (·.verbosity)).foldl max 0 else 0

/-- Whether an event that happens within spans is shown. -/
def shows (f : LogFilter) (within : List LogSpan) (e : Event) : Bool :=
  let verbosity := (within.map (f.verbosityWithin e.source)).foldl max (f.verbosityFor e)
  5 ≤ verbosity + e.level.severity

end LogFilter

end PatchTrial
