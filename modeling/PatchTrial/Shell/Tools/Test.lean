import PatchTrial.Shell.Tools.Files

/-!
Conditions about texts, numbers and files.

Up to four arguments are told apart by their number. More are read as an expression, in which a
negation binds tightest and an alternative loosest.
-/
namespace PatchTrial.Shell.Tools.Test

/-- Where files are looked up. -/
structure Place where
  files : FileTree
  here : FileTree.Place

/-- What is wrong with a condition. -/
inductive Fault where
  | unexpected (arg : String)
  | badNumber (arg : String)
  | missing (arg : String)
  | unclosed
  deriving DecidableEq, Repr

def Fault.message : Fault → String
  | .unexpected arg => if arg.isEmpty then "unexpected operator" else s!"{arg}: unexpected operator"
  | .badNumber arg => s!"Illegal number: {arg}"
  | .missing arg => s!"{arg}: argument expected"
  | .unclosed => "closing paren expected"

abbrev Verdict := Except Fault Bool

def isUnary (op : String) : Bool :=
  ["-n", "-z", "-e", "-f", "-d", "-r", "-w", "-x", "-s", "-h", "-L", "-t", "-p", "-S", "-b", "-c",
    "-g", "-k", "-u", "-G", "-O"].contains op

def isBinary (op : String) : Bool :=
  ["=", "!=", "<", ">", "-eq", "-ne", "-gt", "-ge", "-lt", "-le", "-nt", "-ot", "-ef"].contains op

/-- A decimal number with blanks around it. -/
def number (s : String) : Except Fault Int :=
  let cs := Text.trim s.toList
  let (negative, ds) := match cs with
    | '-' :: ds => (true, ds)
    | '+' :: ds => (false, ds)
    | ds => (false, ds)
  if ds.isEmpty || !ds.all Char.isDigit then .error (.badNumber s)
  else
    let n : Int := (if negative then -1 else 1) * Nat.ofDigitChars 10 ds 0
    if -0x8000000000000000 ≤ n && n < 0x8000000000000000 then .ok n else .error (.badNumber s)

def unary (w : Place) (op arg : String) : Bool :=
  let entryBy (follows : Bool) : Option FileTree.Entry :=
    match w.files.lead follows w.here arg with
    | .ok p => w.files.entry? p
    | .error _ => none
  let device : Bool :=
    ["/dev/full", "/dev/null", "/dev/random", "/dev/urandom", "/dev/zero"].contains arg
  match op, entryBy !(op = "-h" || op = "-L") with
  | "-n", _ => !arg.isEmpty
  | "-z", _ => arg.isEmpty
  | "-e", e => e.isSome || device
  | "-c", some .device => true
  | "-c", _ => device
  | "-f", some (.file ..) => true
  | "-d", some .directory => true
  | "-h", some (.link _) => true
  | "-L", some (.link _) => true
  | "-r", e => e.isSome || device
  | "-w", e => e.isSome || device
  | "-x", some .directory => true
  | "-x", some (.file _ mode _) => FileTree.isRunnable mode
  | "-s", some .directory => true
  | "-s", some (.file content ..) => content.size != 0
  | "-G", e => e.isSome
  | "-O", e => e.isSome
  | _, _ => false

def binary (w : Place) (a op b : String) : Verdict :=
  let numbers (test : Int → Int → Bool) : Verdict := do
    let x ← number a
    let y ← number b
    return test x y
  match op with
  | "=" => .ok (a = b)
  | "!=" => .ok (a ≠ b)
  | "<" => .ok (a < b)
  | ">" => .ok (b < a)
  | "-eq" => numbers fun x y => x = y
  | "-ne" => numbers fun x y => x ≠ y
  | "-gt" => numbers fun x y => x > y
  | "-ge" => numbers fun x y => x ≥ y
  | "-lt" => numbers fun x y => x < y
  | "-le" => numbers fun x y => x ≤ y
  | "-ef" =>
    match w.files.follow w.here a, w.files.follow w.here b with
    | .ok p, .ok q => .ok ((w.files.entry? p).isSome && w.files.isSameFile p q)
    | _, _ => .ok false
  | _ => .ok false

/-- What an argument is taken for, going by the arguments behind it. -/
inductive Sign where
  | nothing
  | operand
  | unary (op : String)
  | binary (op : String)
  | negation
  | opening
  | closing
  | both
  | either
  deriving DecidableEq

/-- What the first argument of a list is taken for. The name of a test is a text if nothing follows
it, or if an operator for two texts and the second of them do. -/
def signOf : List String → Sign
  | [] => .nothing
  | s :: rest =>
    if isUnary s then
      match rest with
      | [] => .operand
      | [_] => .unary s
      | op :: _ => if isBinary op then .operand else .unary s
    else if isBinary s then .binary s
    else
      match s with
      | "!" => .negation
      | "(" => if rest.isEmpty then .operand else .opening
      | ")" => .closing
      | "-a" => .both
      | "-o" => .either
      | _ => .operand

/-- A condition that was read, with the arguments from the last one of it on. -/
abbrev Read := Except Fault (Bool × List String)

mutual
/-- Conditions joined by `-o`. -/
def alternative (fuel : Nat) (w : Place) (sign : Sign) (args : List String) : Read :=
  match fuel with
  | 0 => .error .unclosed
  | fuel + 1 => do
    let (x, args) ← conjunction fuel w sign args
    if signOf (args.drop 1) = .either then
      let rest := args.drop 2
      let (y, args) ← alternative fuel w (signOf rest) rest
      return (x || y, args)
    else return (x, args)

/-- Conditions joined by `-a`. -/
def conjunction (fuel : Nat) (w : Place) (sign : Sign) (args : List String) : Read :=
  match fuel with
  | 0 => .error .unclosed
  | fuel + 1 => do
    let (x, args) ← negation fuel w sign args
    if signOf (args.drop 1) = .both then
      let rest := args.drop 2
      let (y, args) ← conjunction fuel w (signOf rest) rest
      return (x && y, args)
    else return (x, args)

def negation (fuel : Nat) (w : Place) (sign : Sign) (args : List String) : Read :=
  match fuel with
  | 0 => .error .unclosed
  | fuel + 1 =>
    if sign = .negation then do
      let next := signOf (args.drop 1)
      let (x, args) ← negation fuel w next (if next = .nothing then args else args.drop 1)
      return (!x, args)
    else primary fuel w sign args

def primary (fuel : Nat) (w : Place) (sign : Sign) (args : List String) : Read :=
  match fuel with
  | 0 => .error .unclosed
  | fuel + 1 =>
    match sign with
    | .nothing => .ok (false, args)
    | .opening => do
      let inside := args.drop 1
      if signOf inside = .closing then return (false, inside)
      let (x, args) ← alternative fuel w (signOf inside) inside
      let behind := args.drop 1
      if signOf behind = .closing then return (x, behind) else throw .unclosed
    | .unary op =>
      match args.drop 1 with
      | [] => .error (.missing op)
      | arg :: rest => do
        if op = "-t" then discard (number arg)
        return (unary w op arg, arg :: rest)
    | _ =>
      match signOf (args.drop 1), args with
      | .binary op, a :: _ :: b :: rest => do return (← binary w a op b, b :: rest)
      | .binary op, _ => .error (.missing op)
      | _, args => .ok ((args.headD "") ≠ "", args)
end

/-- Read all arguments as one condition, and turn it around if so wanted. -/
def whole (w : Place) (negated : Bool) (sign : Sign) (args : List String) : Verdict := do
  match ← alternative (4 * args.length + 8) w sign args with
  | (_, arg :: _ :: _) => throw (.unexpected arg)
  | (x, _) => return negated != x

/-- Three arguments are told apart by an operator in the middle, a pair of parentheses around or a
negation in front, which makes no difference where there is one before it. -/
def holdsOfThree (w : Place) (negated : Bool) (a op b : String) : Verdict :=
  if isBinary op then whole w negated .operand [a, op, b]
  else if a = "(" && b = ")" then whole w negated (signOf [op]) [op]
  else if a = "!" then whole w true (signOf [op, b]) [op, b]
  else whole w negated (signOf [a, op, b]) [a, op, b]

/-- Whether a condition holds. -/
def holds (w : Place) (args : List String) : Verdict :=
  match args with
  | [] => .ok false
  | [a, op, b] => holdsOfThree w false a op b
  | [a, b, c, d] =>
    if a = "(" && d = ")" then whole w false (signOf [b, c]) [b, c]
    else if a = "!" then holdsOfThree w true b c d
    else whole w false (signOf args) args
  | args => whole w false (signOf args) args

end Test

/-- The tool under either of its names; a bracket must be closed. -/
def test (name : String) (args : List String) : Act Nat := do
  let closed : Option (List String) :=
    if name = "[" then
      match args.getLast? with
      | some "]" => some args.dropLast
      | _ => none
    else some args
  match closed with
  | none =>
    Act.complainAs name "missing ]"
    return 2
  | some args =>
    match Test.holds ⟨(← Act.world).files, (← Act.process).here⟩ args with
    | .ok b => return if b then 0 else 1
    | .error e =>
      Act.complainAs name e.message
      return 2

end PatchTrial.Shell.Tools
