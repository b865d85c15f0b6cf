import PatchTrial.Regex.Basic

/-!
Programs that work on records.

A program has rules and functions. A rule says what is done for the records that its pattern picks
out, or before the first and after the last one.
-/
namespace PatchTrial.Shell.Tools.Awk

inductive Operator where
  | add
  | subtract
  | multiply
  | divide
  | remainder
  | power
  | join
  deriving DecidableEq, Repr

inductive Comparison where
  | less
  | lessEqual
  | equal
  | notEqual
  | greater
  | greaterEqual
  deriving DecidableEq, Repr

inductive Expr where
  | number (x : Float)
  | text (s : String)
  /-- An expression that is looked for, in the record if nothing else is said. -/
  | regex (r : Regex)
  | variable (name : String)
  | field (e : Expr)
  | element (name : String) (index : List Expr)
  /-- Parentheses keep a comparison from being taken for a target of output. -/
  | group (e : Expr)
  | assign (op : Option Operator) (target value : Expr)
  | choose (condition yes no : Expr)
  | both (a b : Expr)
  | either (a b : Expr)
  | not (e : Expr)
  | isIn (index : List Expr) (name : String)
  | isMatch (negated : Bool) (subject pattern : Expr)
  | compare (c : Comparison) (a b : Expr)
  | binary (op : Operator) (a b : Expr)
  | negate (e : Expr)
  | plus (e : Expr)
  /-- Count a variable up or down; the value is the one before or after that. -/
  | count (up before : Bool) (target : Expr)
  | call (name : String) (args : List Expr)
  | builtin (name : String) (args : List Expr)
  | getline (target : Option Expr)
  | getlineFile (target : Option Expr) (path : Expr)
  | getlineCommand (target : Option Expr) (command : Expr)
  deriving Inhabited

/-- Where output goes if not to the standard output. -/
inductive Target where
  | file (append : Bool) (path : Expr)
  | command (e : Expr)

inductive Statement where
  | nothing
  | expr (e : Expr)
  | print (args : List Expr) (target : Option Target)
  | printf (args : List Expr) (target : Option Target)
  | cond (condition : Expr) (yes : Statement) (no : Option Statement)
  | while (condition : Expr) (body : Statement)
  | doWhile (body : Statement) (condition : Expr)
  | for (start : Statement) (condition : Option Expr) (step body : Statement)
  | forIn (name table : String) (body : Statement)
  | block (statements : List Statement)
  | next
  | nextFile
  | exit (status : Option Expr)
  | return (value : Option Expr)
  | break
  | continue
  | delete (name : String) (index : Option (List Expr))
  deriving Inhabited

inductive Pattern where
  | begin
  | end
  | always
  | when (e : Expr)
  | range (first last : Expr)

structure Rule where
  pattern : Pattern
  body : Statement

structure Function where
  name : String
  parameters : List String
  body : Statement

structure Program where
  rules : List Rule
  functions : List Function

end PatchTrial.Shell.Tools.Awk
