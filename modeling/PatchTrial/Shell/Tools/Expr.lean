import PatchTrial.Regex.Reader
import PatchTrial.Shell.Tools.Options

/-!
Expressions whose parts are arguments of their own.

A value is a text, which counts as a number where it looks like one. An operand that cannot change
the value is read, but not worked out.
-/
namespace PatchTrial.Shell.Tools

namespace Expr

inductive Value where
  | number (n : Int)
  | text (s : String)
  deriving DecidableEq, Repr

def Value.show' : Value → String
  | .number n => toString n
  | .text s => s

/-- The number that a value looks like. -/
def Value.number? : Value → Option Int
  | .number n => some n
  | .text s => if s.startsWith "+" then none else integer? s

/-- Whether a value counts as false. -/
def Value.isNull : Value → Bool
  | .number n => n = 0
  | .text s =>
    let digits := match s.toList with
      | '-' :: cs => cs
      | cs => cs
    s.isEmpty || (!digits.isEmpty && digits.all (· == '0'))

inductive Fault where
  | missing (after : String)
  | unexpected (arg : String)
  | unexpectedClose
  | closeAfter (arg : String)
  | closeInstead (arg : String)
  | notInteger
  | divisionByZero
  | pattern (fault : Regex.Fault)
  deriving DecidableEq, Repr

def Fault.message : Fault → String
  | .missing after => s!"syntax error: missing argument after {Quoting.text after}"
  | .unexpected arg => s!"syntax error: unexpected argument {Quoting.text arg}"
  | .unexpectedClose => "syntax error: unexpected ')'"
  | .closeAfter arg => s!"syntax error: expecting ')' after {Quoting.text arg}"
  | .closeInstead arg => s!"syntax error: expecting ')' instead of {Quoting.text arg}"
  | .notInteger => "non-integer argument"
  | .divisionByZero => "division by zero"
  | .pattern fault => fault.message

/-- What is left to read, and the argument before it. -/
structure Rest where
  args : List String
  last : String

abbrev Answer := Except Fault (Value × Rest)

def truth (b : Bool) : Value := .number (if b then 1 else 0)

/-- The start of a text that matches a pattern: what its first group stands for, or its length. -/
def matched (text pattern : String) : Except Fault Value := do
  match Regex.ofNotation .basic pattern.toList with
  | .error fault => .error (.pattern fault)
  | .ok r =>
    let s := Regex.Subject.ofList {} text.toList
    let m := Regex.matchAt? s r 0
    if r.groupCount ≠ 0 then
      return .text (String.ofList ((m.map (·.group s 1)).getD []))
    else return .number ((m.map (·.stop)).getD 0 : Nat)

def arith (op : String) (a b : Value) : Except Fault Value :=
  match a.number?, b.number? with
  | some x, some y =>
    match op with
    | "+" => .ok (.number (x + y))
    | "-" => .ok (.number (x - y))
    | "*" => .ok (.number (x * y))
    | "/" => if y = 0 then .error .divisionByZero else .ok (.number (Int.tdiv x y))
    | _ => if y = 0 then .error .divisionByZero else .ok (.number (Int.tmod x y))
  | _, _ => .error .notInteger

def compared (op : String) (a b : Value) : Value :=
  let order := match a.number?, b.number? with
    | some x, some y => compare x y
    | _, _ => compare a.show' b.show'
  truth (match op with
    | "<" => order == .lt
    | "<=" => order != .gt
    | ">" => order == .gt
    | ">=" => order != .lt
    | "!=" => order != .eq
    | _ => order == .eq)

/-- A part of a text by its place and its length, both of which count from one. -/
def part (text : String) (start length : Value) : Value :=
  match start.number?, length.number? with
  | some a, some n =>
    if a ≤ 0 || n ≤ 0 then .text ""
    else .text (String.ofList ((text.toList.drop (a.toNat - 1)).take n.toNat))
  | _, _ => .text ""

/-- Operators that bind equally, from the loosest on. -/
def levels : List (List String) :=
  [["|"], ["&"], ["<", "<=", "=", "==", "!=", ">=", ">"], ["+", "-"], ["*", "/", "%"], [":"]]

/-- Apply an operator whose operands have been worked out. -/
def apply (op : String) (a b : Value) : Except Fault Value :=
  match op with
  | ":" => matched a.show' b.show'
  | "|" => .ok (if !a.isNull then a else if b.isNull then .number 0 else b)
  | "&" => .ok (if a.isNull || b.isNull then .number 0 else a)
  | "+" => arith op a b
  | "-" => arith op a b
  | "*" => arith op a b
  | "/" => arith op a b
  | "%" => arith op a b
  | op => .ok (compared op a b)

mutual
/-- An expression of operators of these levels. What does not matter is not worked out. -/
def eval (fuel : Nat) (matters : Bool) (levels : List (List String)) (r : Rest) : Answer :=
  match fuel with
  | 0 => .error (.missing r.last)
  | fuel + 1 =>
    match levels with
    | [] => operand fuel matters r
    | ops :: tighter => do
      let (a, r) ← eval fuel matters tighter r
      more fuel matters ops tighter a r

/-- Further operators of one level. -/
def more (fuel : Nat) (matters : Bool) (ops : List String) (tighter : List (List String))
    (a : Value) (r : Rest) : Answer :=
  match fuel with
  | 0 => .error (.missing r.last)
  | fuel + 1 =>
    match r.args with
    | op :: args =>
      if ops.contains op then do
        let needed := matters && !((op = "|" && !a.isNull) || (op = "&" && a.isNull))
        let (b, r) ← eval fuel needed tighter ⟨args, op⟩
        let v ← if matters then apply op a b else pure a
        more fuel matters ops tighter v r
      else .ok (a, r)
    | [] => .ok (a, r)

/-- An operand: a text, an expression in parentheses, or a function. -/
def operand (fuel : Nat) (matters : Bool) (r : Rest) : Answer :=
  match fuel with
  | 0 => .error (.missing r.last)
  | fuel + 1 =>
    match r.args with
    | [] => .error (.missing r.last)
    | "+" :: args =>
      match args with
      | [] => .error (.missing "+")
      | s :: args => .ok (.text s, ⟨args, s⟩)
    | "length" :: args => do
      let (a, r) ← operand fuel matters ⟨args, "length"⟩
      return (.number (a.show'.length : Nat), r)
    | "match" :: args => do
      let (a, r) ← operand fuel matters ⟨args, "match"⟩
      let (b, r) ← operand fuel matters r
      return (← if matters then matched a.show' b.show' else pure a, r)
    | "index" :: args => do
      let (a, r) ← operand fuel matters ⟨args, "index"⟩
      let (b, r) ← operand fuel matters r
      let place := ((a.show'.toList.findIdx? b.show'.toList.contains).map (· + 1)).getD 0
      return (.number (place : Nat), r)
    | "substr" :: args => do
      let (a, r) ← operand fuel matters ⟨args, "substr"⟩
      let (b, r) ← operand fuel matters r
      let (c, r) ← operand fuel matters r
      return (part a.show' b c, r)
    | "(" :: args => do
      let (a, r) ← eval fuel matters levels ⟨args, "("⟩
      match r.args with
      | [] => .error (.closeAfter r.last)
      | ")" :: args => return (a, ⟨args, ")"⟩)
      | s :: _ => .error (.closeInstead s)
    | ")" :: _ => .error .unexpectedClose
    | s :: args => .ok (.text s, ⟨args, s⟩)
end

/-- The value of all arguments. -/
def value (args : List String) : Except Fault Value := do
  let (v, r) ← eval (16 * args.length + 16) true levels ⟨args, ""⟩
  match r.args with
  | [] => return v
  | s :: _ => throw (.unexpected s)

end Expr

def expr : Tool := fun args => do
  match args with
  | ["--help"] => do
    Act.print "Usage: expr EXPRESSION\n"
    return 0
  | ["--version"] => do
    Act.print "expr\n"
    return 0
  | _ =>
    let args := if args.head? = some "--" then args.drop 1 else args
    if args.isEmpty then
      discard (misuse "expr" "missing operand")
      return 2
    match Expr.value args with
    | .error fault => do
      warnAs "expr" fault.message
      return 2
    | .ok v => do
      Act.print (v.show' ++ "\n")
      return if v.isNull then 1 else 0

end PatchTrial.Shell.Tools
