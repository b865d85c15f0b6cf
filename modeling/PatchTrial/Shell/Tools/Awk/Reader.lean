import PatchTrial.Shell.Tools.Awk.Syntax
import PatchTrial.Shell.Tools.Awk.Token

/-!
Reading programs that work on records.

Operators bind, from the weakest to the strongest: choices, or, and, membership, matches,
comparisons, texts side by side, sums, products, signs, powers. An assignment takes all that stands
behind it, wherever it starts.
-/
namespace PatchTrial.Shell.Tools.Awk

/-- What is left of a program, and what is around the place that has been reached. -/
structure Reading where
  rest : List (Token × Nat)
  inFunction : Bool := false
  /-- Whether the records are at hand, so that the next one can be asked for. -/
  inRule : Bool := false
  loops : Nat := 0

abbrev Read := StateT Reading (Except Complaint)

def token : Read Token := return ((← get).rest.head?.map (·.1)).getD .finish

def lineNumber : Read Nat := return ((← get).rest.head?.map (·.2)).getD 0

def advance : Read Unit := modify fun r => { r with rest := r.rest.drop 1 }

def refuse {α : Type} (f : Fault) : Read α := do throw (f, ← lineNumber)

def unexpected {α : Type} : Read α := do
  match ← token with
  | .finish => refuse .missingBrace
  | t => refuse (.unexpected t.spelling)

/-- Whether a sign comes next. -/
def atSign (s : String) : Read Bool := do
  match ← token with
  | .sign t => return t = s
  | _ => return false

def atWord (s : String) : Read Bool := do
  match ← token with
  | .word t => return t = s
  | _ => return false

/-- Take a sign if it comes next. -/
def takeSign (s : String) : Read Bool := do
  let found ← atSign s
  if found then advance
  return found

def takeWord (s : String) : Read Bool := do
  let found ← atWord s
  if found then advance
  return found

def expectSign (s : String) : Read Unit := do
  if !(← takeSign s) then
    if s = ")" then refuse (.missing s (← token).spelling) else unexpected

/-- Take the first of some signs that comes next. -/
def takeOneOf : List String → Read (Option String)
  | [] => return none
  | s :: ss => do if ← takeSign s then return some s else takeOneOf ss

def skipNewlines : Read Unit := modify fun r => { r with
  rest := r.rest.dropWhile fun t => match t.1 with
    | .newline => true
    | _ => false }

/-- Take separators of statements. -/
def skipSeparators : Read Unit := modify fun r => { r with
  rest := r.rest.dropWhile fun t => match t.1 with
    | .newline => true
    | .sign s => s = ";"
    | _ => false }

def takeName : Read String := do
  match ← token with
  | .name s => advance; return s
  | .function s => advance; return s
  | _ => unexpected

/-! ### Expressions -/

/-- What must not be taken for an operator. -/
structure Mode where
  noGreater : Bool := false
  noIn : Bool := false

def operatorOf (s : String) : Operator :=
  match s with
  | "+" => .add
  | "-" => .subtract
  | "*" => .multiply
  | "/" => .divide
  | "%" => .remainder
  | _ => .power

def assignments : List String := ["=", "+=", "-=", "*=", "/=", "%=", "^="]

def comparisons : List (String × Comparison) :=
  [("<", .less), ("<=", .lessEqual), ("==", .equal), ("!=", .notEqual), (">", .greater),
    (">=", .greaterEqual)]

def isVariable : Expr → Bool
  | .variable _ | .field _ | .element .. => true
  | _ => false

/-- Whether a token can start a text that stands beside another one. -/
def startsOperand (m : Mode) : Token → Bool
  | .number .. | .text _ | .regex .. | .name _ | .function _ => true
  | .word s => (builtins.lookup s).isSome && !(m.noIn && s = "in")
  | .sign s => ["(", "$", "!", "++", "--"].contains s
  | _ => false

/-- Read operands with operators between them that bind to the left. -/
def leftToRight (ops : List String) (operand : Read Expr) (make : String → Expr → Expr → Expr) :
    Nat → Expr → Read Expr
  | 0, a => return a
  | fuel + 1, a => do
    match ← takeOneOf ops with
    | none => return a
    | some op => do
      if op = "&&" || op = "||" then skipNewlines
      leftToRight ops operand make fuel (make op a (← operand))

mutual
def readExpr (fuel : Nat) (m : Mode) : Read Expr :=
  match fuel with
  | 0 => unexpected
  | fuel + 1 => do
    let a ← readOr fuel m
    if ← takeSign "?" then
      skipNewlines
      let yes ← readExpr fuel m
      skipNewlines
      expectSign ":"
      skipNewlines
      return .choose a yes (← readExpr fuel m)
    else return a

def readOr (fuel : Nat) (m : Mode) : Read Expr :=
  match fuel with
  | 0 => unexpected
  | fuel + 1 => do
    let conjunction : Read Expr := do
      leftToRight ["&&"] (readMember fuel m) (fun _ => .both) fuel (← readMember fuel m)
    leftToRight ["||"] conjunction (fun _ => .either) fuel (← conjunction)

/-- An expression that may be asked for as a key, with what it is matched with before that. -/
def readMember (fuel : Nat) (m : Mode) : Read Expr :=
  match fuel with
  | 0 => unexpected
  | fuel + 1 => do
    let a ← leftToRight ["~", "!~"] (readComparison fuel m) (fun op => .isMatch (op = "!~")) fuel
      (← readComparison fuel m)
    if !m.noIn && (← atWord "in") then
      advance
      return .isIn [a] (← takeName)
    else return a

def readComparison (fuel : Nat) (m : Mode) : Read Expr :=
  match fuel with
  | 0 => unexpected
  | fuel + 1 => do
    let ops := (comparisons.map (·.1)).filter fun op => !(m.noGreater && op = ">")
    leftToRight ops (readJoined fuel m)
      (fun op => .compare ((comparisons.lookup op).getD .equal)) fuel (← readJoined fuel m)

def readJoined (fuel : Nat) (m : Mode) : Read Expr :=
  match fuel with
  | 0 => unexpected
  | fuel + 1 => do
    readBeside fuel m (← readSum fuel m)

/-- Join texts that stand side by side. -/
def readBeside (fuel : Nat) (m : Mode) (a : Expr) : Read Expr :=
  match fuel with
  | 0 => return a
  | fuel + 1 => do
    if startsOperand m (← token) && !(← atWord "in") then
      readBeside fuel m (.binary .join a (← readSum fuel m))
    else return a

def readSum (fuel : Nat) (m : Mode) : Read Expr :=
  match fuel with
  | 0 => unexpected
  | fuel + 1 => do
    let product : Read Expr := do
      leftToRight ["*", "/", "%"] (readSigned fuel m) (fun op => .binary (operatorOf op)) fuel
        (← readSigned fuel m)
    leftToRight ["+", "-"] product (fun op => .binary (operatorOf op)) fuel (← product)

def readSigned (fuel : Nat) (m : Mode) : Read Expr :=
  match fuel with
  | 0 => unexpected
  | fuel + 1 => do
    match ← takeOneOf ["!", "-", "+"] with
    | some "!" => return .not (← readSigned fuel m)
    | some "-" => return .negate (← readSigned fuel m)
    | some _ => return .plus (← readSigned fuel m)
    | none =>
      let a ← readCommandLine fuel m (← readPlace fuel m)
      if ← takeSign "^" then return .binary .power a (← readSigned fuel m) else return a

/-- Lines that are read from the output of a command. -/
def readCommandLine (fuel : Nat) (m : Mode) (a : Expr) : Read Expr :=
  match fuel with
  | 0 => return a
  | fuel + 1 => do
    match (← get).rest with
    | (.sign "|", _) :: (.word "getline", _) :: _ =>
      advance
      advance
      readCommandLine fuel m (.getlineCommand (← readTarget? fuel m) a)
    | _ => return a

/-- An operand, with a count or an assignment to it. -/
def readPlace (fuel : Nat) (m : Mode) : Read Expr :=
  match fuel with
  | 0 => unexpected
  | fuel + 1 => do
    match ← takeOneOf ["++", "--"] with
    | some op =>
      let a ← readOperand fuel m
      if isVariable a then return .count (op = "++") true a else unexpected
    | none =>
      let a ← readOperand fuel m
      if !isVariable a then return a
      match ← takeOneOf ["++", "--"] with
      | some op => return .count (op = "++") false a
      | none =>
        match ← takeOneOf assignments with
        | none => return a
        | some "=" => skipNewlines; return .assign none a (← readExpr fuel m)
        | some op =>
          return .assign (some (operatorOf (op.take 1).toString)) a (← readExpr fuel m)

/-- The variable behind a request for a line, if there is one. -/
def readTarget? (fuel : Nat) (m : Mode) : Read (Option Expr) :=
  match fuel with
  | 0 => return none
  | fuel + 1 => do
    match ← token with
    | .name _ => return some (← readOperand fuel m)
    | .sign "$" => return some (← readOperand fuel m)
    | _ => return none

/-- Expressions with commas between them, up to a closing sign. -/
def readArguments (fuel : Nat) (close : String) : Read (List Expr) :=
  match fuel with
  | 0 => unexpected
  | fuel + 1 => do
    skipNewlines
    if ← takeSign close then return []
    let a ← readExpr fuel {}
    skipNewlines
    if ← takeSign "," then return a :: (← readArguments fuel close)
    expectSign close
    return [a]

/-- An operand by itself. -/
def readOperand (fuel : Nat) (m : Mode) : Read Expr :=
  match fuel with
  | 0 => unexpected
  | fuel + 1 => do
    match ← token with
    | .number x _ => advance; return .number x
    | .text s => advance; return .text s
    | .regex r _ => advance; return .regex r
    | .name s =>
      advance
      if ← takeSign "[" then return .element s (← readArguments fuel "]") else return .variable s
    | .function s =>
      advance
      advance
      return .call s (← readArguments fuel ")")
    | .sign "$" =>
      advance
      match ← takeOneOf ["++", "--", "-", "+"] with
      | some "-" => return .field (.negate (← readOperand fuel m))
      | some "+" => return .field (← readOperand fuel m)
      | some op => return .field (.count (op = "++") true (← readOperand fuel m))
      | none => return .field (← readOperand fuel m)
    | .sign "(" =>
      advance
      let parts ← readArguments fuel ")"
      match parts with
      | [a] => return .group a
      | parts =>
        if parts.isEmpty || !(← takeWord "in") then unexpected
        return .isIn parts (← takeName)
    | .word "getline" =>
      advance
      let target ← readTarget? fuel m
      if ← takeSign "<" then return .getlineFile target (← readOperand fuel m)
      else return .getline target
    | .word s =>
      match builtins.lookup s with
      | none => unexpected
      | some (least, most) =>
        let line ← lineNumber
        advance
        if ← takeSign "(" then
          let args ← readArguments fuel ")"
          if args.length < least || most < args.length then throw (.wrongArguments s, line)
          return .builtin s args
        else if s = "length" then return .builtin s []
        else unexpected
    | _ => unexpected
end

/-! ### Statements -/

/-- Expressions with commas between them. -/
def readList (fuel : Nat) (m : Mode) : Nat → Read (List Expr)
  | 0 => unexpected
  | n + 1 => do
    let a ← readExpr fuel m
    if ← takeSign "," then
      skipNewlines
      return a :: (← readList fuel m n)
    else return [a]

/-- Whether a statement may end here. -/
def atEnd : Read Bool := do
  match ← token with
  | .newline | .finish => return true
  | .sign s => return [";", "\x7d"].contains s
  | _ => return false

def takeEnd : Read Unit := do
  if !(← atEnd) then unexpected
  match ← token with
  | .newline => advance
  | .sign ";" => advance
  | _ => return

/-- What is printed, and where to. -/
def readOutput (fuel : Nat) : Read (List Expr × Option Target) := do
  let targetNext : Read Bool := do
    match ← token with
    | .sign s => return [">", ">>", "|"].contains s
    | _ => return false
  let start ← get
  let isOver : Read Bool := do
    if ← atEnd then return true else targetNext
  let listed : Option (List Expr) ← do
    if ← takeSign "(" then
      let parts ← readArguments fuel ")"
      if ← isOver then pure (some parts)
      else
        set start
        pure none
    else pure none
  let args : List Expr ← do
    match listed with
    | some parts => pure parts
    | none => if ← isOver then pure [] else readList fuel { noGreater := true } fuel
  match ← takeOneOf [">>", ">", "|"] with
  | none => return (args, none)
  | some "|" => return (args, some (.command (← readJoined fuel { noGreater := true })))
  | some op => return (args, some (.file (op = ">>") (← readJoined fuel { noGreater := true })))

/-- A statement that is no compound. -/
def readSimple (fuel : Nat) : Read Statement := do
  let optional : Read (Option Expr) := do
    if ← atEnd then return none else return some (← readExpr fuel {})
  match ← token with
  | .word "print" =>
    advance
    let (args, target) ← readOutput fuel
    return .print args target
  | .word "printf" =>
    advance
    let (args, target) ← readOutput fuel
    if args.isEmpty then refuse (.noArguments "printf")
    return .printf args target
  | .word "next" =>
    if !(← get).inRule then refuse (.improper "next")
    advance
    return .next
  | .word "nextfile" =>
    if !(← get).inRule then refuse (.improper "nextfile")
    advance
    return .nextFile
  | .word "break" =>
    if (← get).loops = 0 then refuse (.outsideLoop "break")
    advance
    return .break
  | .word "continue" =>
    if (← get).loops = 0 then refuse (.outsideLoop "continue")
    advance
    return .continue
  | .word "exit" => advance; return .exit (← optional)
  | .word "return" =>
    if !(← get).inFunction then refuse .returnOutside
    advance
    return .return (← optional)
  | .word "delete" =>
    advance
    let name ← takeName
    if ← takeSign "[" then return .delete name (some (← readArguments fuel "]"))
    else return .delete name none
  | _ => return .expr (← readExpr fuel {})

mutual
def readStatement (fuel : Nat) : Read Statement :=
  match fuel with
  | 0 => unexpected
  | fuel + 1 => do
    let condition : Read Expr := do
      expectSign "("
      let c ← readExpr fuel {}
      expectSign ")"
      return c
    let body : Read Statement := do
      skipNewlines
      modify fun r => { r with loops := r.loops + 1 }
      let s ← readStatement fuel
      modify fun r => { r with loops := r.loops - 1 }
      return s
    match ← token with
    | .sign "\x7b" => readBlock fuel
    | .sign ";" => advance; return .nothing
    | .word "if" =>
      advance
      let c ← condition
      skipNewlines
      let yes ← readStatement fuel
      let here ← get
      skipSeparators
      if ← takeWord "else" then
        skipNewlines
        return .cond c yes (some (← readStatement fuel))
      else
        set here
        return .cond c yes none
    | .word "while" =>
      advance
      let c ← condition
      if ← takeSign ";" then return .while c .nothing else return .while c (← body)
    | .word "do" =>
      advance
      let s ← body
      skipSeparators
      if !(← takeWord "while") then unexpected
      let c ← condition
      takeEnd
      return .doWhile s c
    | .word "for" =>
      advance
      expectSign "("
      match (← get).rest with
      | (.name x, _) :: (.word "in", _) :: (.name table, _) :: (.sign ")", _) :: rest =>
        modify fun r => { r with rest := rest }
        return .forIn x table (← body)
      | _ =>
        let start ← if ← atSign ";" then pure .nothing else readSimple fuel
        expectSign ";"
        skipNewlines
        let c ← if ← atSign ";" then pure none else do pure (some (← readExpr fuel {}))
        expectSign ";"
        skipNewlines
        let step ← if ← atSign ")" then pure .nothing else readSimple fuel
        expectSign ")"
        if ← takeSign ";" then return .for start c step .nothing
        else return .for start c step (← body)
    | _ =>
      let s ← readSimple fuel
      takeEnd
      return s

def readBlock (fuel : Nat) : Read Statement :=
  match fuel with
  | 0 => unexpected
  | fuel + 1 => do
    expectSign "\x7b"
    return .block (← readStatements fuel)

/-- Statements up to a closing brace. -/
def readStatements (fuel : Nat) : Read (List Statement) :=
  match fuel with
  | 0 => unexpected
  | fuel + 1 => do
    skipSeparators
    if ← takeSign "\x7d" then return []
    match ← token with
    | .finish => refuse .missingBrace
    | _ =>
      let s ← readStatement fuel
      return s :: (← readStatements fuel)
end

/-! ### Programs -/

/-- Names with commas between them, up to a closing parenthesis. -/
def readParameters : Nat → Read (List String)
  | 0 => unexpected
  | fuel + 1 => do
    skipNewlines
    if ← takeSign ")" then return []
    let name ← takeName
    skipNewlines
    if ← takeSign "," then return name :: (← readParameters fuel)
    expectSign ")"
    return [name]

def readFunction (fuel : Nat) : Read Function := do
  let name ← takeName
  expectSign "("
  let parameters ← readParameters fuel
  skipNewlines
  modify fun r => { r with inFunction := true, inRule := true }
  let body ← readBlock fuel
  modify fun r => { r with inFunction := false, inRule := false }
  return ⟨name, parameters, body⟩

def readRule (fuel : Nat) : Read Rule := do
  let action (inRule : Bool) : Read Statement := do
    modify fun r => { r with inRule := inRule }
    if !(← atSign "\x7b") then unexpected
    readBlock fuel
  match ← token with
  | .word "BEGIN" => advance; return ⟨.begin, ← action false⟩
  | .word "END" => advance; return ⟨.end, ← action false⟩
  | .sign "\x7b" => return ⟨.always, ← action true⟩
  | _ =>
    let first ← readExpr fuel {}
    let pattern ← if ← takeSign "," then do
        skipNewlines
        pure (Pattern.range first (← readExpr fuel {}))
      else pure (Pattern.when first)
    if ← atSign "\x7b" then return ⟨pattern, ← action true⟩
    else
      takeEnd
      return ⟨pattern, .print [] none⟩

def readItems (fuel : Nat) : Nat → Program → Read Program
  | 0, p => return p
  | n + 1, p => do
    skipSeparators
    match ← token with
    | .finish => return p
    | .word "function" =>
      advance
      let f ← readFunction fuel
      readItems fuel n { p with functions := p.functions ++ [f] }
    | _ =>
      let r ← readRule fuel
      readItems fuel n { p with rules := p.rules ++ [r] }

/-- The functions that are called in a program. -/
def calledNames (ts : List (Token × Nat)) : List String :=
  ts.filterMap fun t => match t.1 with
    | .function s => some s
    | _ => none

/-- Read a program. -/
def readProgram (text : String) : Except Complaint Program := do
  let cs := text.toList ++ ['\n']
  let ts ← tokens (cs.length + 2) 1 .newline cs
  let fuel := 4 * ts.length + 64
  let (p, r) ← (readItems fuel (ts.length + 1) ⟨[], []⟩).run { rest := ts }
  let known := p.functions.map (·.name)
  match (calledNames ts).find? (!known.contains ·) with
  | some name => throw (.undefined name, (r.rest.head?.map (·.2)).getD 1)
  | none => return p

end PatchTrial.Shell.Tools.Awk
