import PatchTrial.Json.Reader
import PatchTrial.Shell.Words

/-!
Arithmetic expressions of the shell language.

An expression is evaluated while it is read, operators of one rank from left to right. Assignments
are collected and handed back with the value.
-/
namespace PatchTrial.Shell.Arith

/-- Why an expression has no value. -/
inductive Problem where
  | expecting (what : String)
  | divisionByZero
  | illegalNumber (text : String)
  deriving DecidableEq, Repr

/-- The message about the problem of an expression. -/
def Problem.message (expression : String) : Problem → String
  | .expecting what => s!"arithmetic expression: expecting {what}: \"{expression}\""
  | .divisionByZero => s!"arithmetic expression: division by zero: \"{expression}\""
  | .illegalNumber text => s!"Illegal number: {text}"

/-- Values of names, the latest assignment first. -/
abbrev Bindings := List (String × Int)

/-- An expression that is being evaluated: what is left of it, what was assigned, and whether the
part that is being read counts. -/
structure Reading where
  rest : List Char
  assigned : Bindings := []
  live : Bool := true

abbrev Step := Except Problem (Int × Reading)

def ofBool (b : Bool) : Int := if b then 1 else 0

def skip (cs : List Char) : List Char :=
  cs.dropWhile fun c => c == ' ' || c == '\t' || c == '\n'

def largest : Nat := 0x8000000000000000 - 1

/-- The number at the start of a text in decimal, octal or hexadecimal notation, with the rest. -/
def readNumber (cs : List Char) : Nat × List Char :=
  let digits (base : Nat) (ds : List Char) : Nat × List Char :=
    let (ds, rest) := ds.span fun c => (Json.hexDigit? c).any (· < base)
    (ds.foldl (fun n c => n * base + (Json.hexDigit? c).getD 0) 0, rest)
  let isHex (c : Char) : Bool := (Json.hexDigit? c).isSome
  match cs with
  | '0' :: 'x' :: d :: ds => if isHex d then digits 16 (d :: ds) else (0, 'x' :: d :: ds)
  | '0' :: 'X' :: d :: ds => if isHex d then digits 16 (d :: ds) else (0, 'X' :: d :: ds)
  | '0' :: ds => digits 8 ds
  | ds => digits 10 ds

/-- The number that a value holds; blanks may stand around it, and an empty value is zero. -/
def valueNumber (text : String) : Except Problem Int :=
  let (sign, cs) : Int × List Char := match skip text.toList with
    | '-' :: cs => (-1, cs)
    | '+' :: cs => (1, cs)
    | cs => (1, cs)
  let (n, rest) := readNumber cs
  if (skip rest).isEmpty && (n : Int) ≤ largest && (!cs.isEmpty || (skip text.toList).isEmpty) then
    .ok (sign * n)
  else .error (.illegalNumber text)

/-- The operators of each rank, the loosest first; a longer one stands before its own start. -/
def ranks : List (List String) := [["||"], ["&&"], ["|"], ["^"], ["&"], ["==", "!="],
  ["<=", ">=", "<", ">"], ["<<", ">>"], ["+", "-"], ["*", "/", "%"]]

/-- The value of an operation in 64 bits; none for a division by zero. -/
def combine? (op : String) (a b : Int) : Option Int :=
  match op with
  | "||" => some (ofBool (a ≠ 0 || b ≠ 0))
  | "&&" => some (ofBool (a ≠ 0 && b ≠ 0))
  | "|" => some (a.toInt64 ||| b.toInt64).toInt
  | "^" => some (a.toInt64 ^^^ b.toInt64).toInt
  | "&" => some (a.toInt64 &&& b.toInt64).toInt
  | "==" => some (ofBool (a = b))
  | "!=" => some (ofBool (a ≠ b))
  | "<=" => some (ofBool (a ≤ b))
  | ">=" => some (ofBool (a ≥ b))
  | "<" => some (ofBool (a < b))
  | ">" => some (ofBool (a > b))
  | "<<" => some (a.toInt64 <<< b.toInt64).toInt
  | ">>" => some (a.toInt64 >>> b.toInt64).toInt
  | "+" => some (a + b).toInt64.toInt
  | "-" => some (a - b).toInt64.toInt
  | "*" => some (a * b).toInt64.toInt
  | "/" => if b = 0 then none else some (a.tdiv b).toInt64.toInt
  | "%" => if b = 0 then none else some (a.tmod b)
  | _ => none

/-- The operator of a rank at the start of a text, unless it is the start of another one. -/
def operator? (ops : List String) (cs : List Char) : Option (String × List Char) := do
  let op ← ops.find? fun op => op.toList.isPrefixOf cs
  let rest := cs.drop op.length
  match op, rest with
  | "|", '|' :: _ => none
  | "&", '&' :: _ => none
  | "<", '<' :: _ => none
  | ">", '>' :: _ => none
  | _, '=' :: _ => if ["==", "!=", "<=", ">="].contains op then some (op, rest) else none
  | _, _ => some (op, rest)

/-- An operator that is part of an assignment. -/
def assignment? (cs : List Char) : Option (String × List Char) :=
  match cs with
  | '=' :: '=' :: _ => none
  | '=' :: rest => some ("", rest)
  | '<' :: '<' :: '=' :: rest => some ("<<", rest)
  | '>' :: '>' :: '=' :: rest => some (">>", rest)
  | c :: '=' :: rest =>
    if ['+', '-', '*', '/', '%', '&', '|', '^'].contains c then some (String.singleton c, rest)
    else none
  | _ => none

variable (lookup : String → Option String)

/-- The value of a name, zero if it has none. -/
def valueOf (r : Reading) (name : String) : Except Problem Int :=
  if !r.live then .ok 0
  else
    match r.assigned.lookup name with
    | some n => .ok n
    | none => valueNumber ((lookup name).getD "")

/-- The value of an operation that may be in a part that does not count. -/
def operate (r : Reading) (op : String) (a b : Int) : Except Problem Int :=
  if !r.live then .ok b
  else
    match combine? op a b with
    | some n => .ok n
    | none => .error .divisionByZero

/-- Whether the right side of an operator counts, by the value of the left one. -/
def needsRight (op : String) (left : Int) : Bool :=
  match op with
  | "||" => left == 0
  | "&&" => left != 0
  | _ => true

mutual
/-- An assignment stands at the start of an expression, of a part in parentheses or of what follows
a question mark; elsewhere a name stands for its value. -/
def readAssignment (fuel : Nat) (r : Reading) : Step :=
  match fuel with
  | 0 => .error (.expecting "EOF")
  | fuel + 1 =>
    let (name, rest) := (skip r.rest).span isNameChar
    let assigned := if name.head?.any isNameStart then assignment? (skip rest) else none
    match assigned with
    | none => readTernary fuel r
    | some (op, rest) => do
      let name := String.ofList name
      let (b, r) ← readAssignment fuel { r with rest := rest }
      let n ← if op = "" then pure b else operate r op (← valueOf lookup r name) b
      return (n, if r.live then { r with assigned := (name, n) :: r.assigned } else r)

def readTernary (fuel : Nat) (r : Reading) : Step :=
  match fuel with
  | 0 => .error (.expecting "EOF")
  | fuel + 1 => do
    let (cond, r) ← readRank fuel ranks r
    match skip r.rest with
    | '?' :: rest => do
      let (a, q) ← readAssignment fuel { r with rest := rest, live := r.live && cond ≠ 0 }
      match skip q.rest with
      | ':' :: rest => do
        let (b, q) ← readTernary fuel { q with rest := rest, live := r.live && cond = 0 }
        return (if cond = 0 then b else a, { q with live := r.live })
      | _ => .error (.expecting "':'")
    | _ => return (cond, r)

def readRank (fuel : Nat) (rs : List (List String)) (r : Reading) : Step :=
  match fuel with
  | 0 => .error (.expecting "EOF")
  | fuel + 1 =>
    match rs with
    | [] => readUnary fuel r
    | ops :: tighter => do
      let (a, r) ← readRank fuel tighter r
      readMore fuel ops tighter a r

/-- Go on with operators of one rank. -/
def readMore (fuel : Nat) (ops : List String) (tighter : List (List String)) (a : Int)
    (r : Reading) : Step :=
  match fuel with
  | 0 => .error (.expecting "EOF")
  | fuel + 1 =>
    match operator? ops (skip r.rest) with
    | none => .ok (a, r)
    | some (op, rest) => do
      let (b, q) ← readRank fuel tighter { r with rest := rest, live := r.live && needsRight op a }
      let q := { q with live := r.live }
      readMore fuel ops tighter (← operate q op a b) q

def readUnary (fuel : Nat) (r : Reading) : Step :=
  match fuel with
  | 0 => .error (.expecting "EOF")
  | fuel + 1 =>
    let after (rest : List Char) (f : Int → Int) : Step := do
      let (n, r) ← readUnary fuel { r with rest := rest }
      return (f n, r)
    match skip r.rest with
    | '-' :: rest => after rest fun n => (-n).toInt64.toInt
    | '+' :: rest => after rest id
    | '~' :: rest => after rest fun n => -n - 1
    | '!' :: rest => after rest fun n => ofBool (n = 0)
    | '(' :: rest => do
      let (n, r) ← readAssignment fuel { r with rest := rest }
      match skip r.rest with
      | ')' :: rest => return (n, { r with rest := rest })
      | _ => .error (.expecting "')'")
    | c :: cs =>
      if c.isDigit then
        let (n, rest) := readNumber (c :: cs)
        .ok (min n largest, { r with rest := rest })
      else if isNameStart c then
        let (name, rest) := (c :: cs).span isNameChar
        do return (← valueOf lookup r (String.ofList name), { r with rest := rest })
      else .error (.expecting "primary")
    | [] => .error (.expecting "primary")
end

/-- The value of an expression and what it assigned. -/
def evaluate (text : List Char) : Except Problem (Int × Bindings) := do
  let (n, r) ← readAssignment lookup (16 * text.length + 32) ⟨text, [], true⟩
  if (skip r.rest).isEmpty then return (n, r.assigned) else .error (.expecting "EOF")

end PatchTrial.Shell.Arith
