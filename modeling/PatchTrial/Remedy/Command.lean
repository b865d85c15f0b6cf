import PatchTrial.Plan
import PatchTrial.Text.Basic

/-!
Changing command lines, word by word, and the commands of a plan.

A command line is taken as its words between blanks; quotes mean nothing here. A command in which
nothing matches is returned as it was, spacing included; one that is changed has its words joined
by single spaces.
-/
namespace PatchTrial.Command

def tokens (cmd : String) : List String := (Text.words cmd.toList).map String.ofList

def joined (ts : List String) : String := String.ofList (Text.unwords (ts.map String.toList))

def hasToken (cmd token : String) : Bool := (tokens cmd).contains token

/-- Whether some word starts with `start`. -/
def hasTokenStart (cmd start : String) : Bool :=
  (tokens cmd).any fun t => start.toList.isPrefixOf t.toList

/-- The flag itself, or the flag with `=` and a value. -/
def isFlag (flag token : String) : Bool :=
  token = flag || (flag.toList ++ ['=']).isPrefixOf token.toList

/-- Whether `a` and `b` follow each other. -/
def hasPair (a b : String) : List String → Bool
  | x :: y :: rest => (x = a && y = b) || hasPair a b (y :: rest)
  | _ => false

/-- Every `a b` replaced, from left to right. -/
def replacePairIn (a b new : String) : List String → List String
  | x :: y :: rest =>
    if x = a ∧ y = b then new :: replacePairIn a b new rest
    else x :: replacePairIn a b new (y :: rest)
  | ts => ts

/-- Without the flag, the word after it where it stands alone, and the flag with a value. -/
def dropFlagValues (flag : String) : List String → List String
  | [] => []
  | [t] => if isFlag flag t then [] else [t]
  | t :: v :: rest =>
    if t = flag then dropFlagValues flag rest
    else if isFlag flag t then dropFlagValues flag (v :: rest)
    else t :: dropFlagValues flag (v :: rest)

/-- `args` put in after the first `a b`, if there is one. -/
def insertAfterPairIn? (a b args : String) : List String → Option (List String)
  | x :: y :: rest =>
    if x = a ∧ y = b then some (x :: y :: args :: rest)
    else (insertAfterPairIn? a b args (y :: rest)).map (x :: ·)
  | _ => none

/-- Replace every word `a` by `to`. -/
def replaceToken (cmd a new : String) : String :=
  if hasToken cmd a then joined ((tokens cmd).map fun t => if t = a then new else t) else cmd

/-- Replace every two words `a b` by `to`. -/
def replacePair (cmd a b new : String) : String :=
  if hasPair a b (tokens cmd) then joined (replacePairIn a b new (tokens cmd)) else cmd

/-- Drop the flag, alone or with a value behind `=`. -/
def removeFlag (cmd flag : String) : String :=
  if (tokens cmd).any (isFlag flag) then joined ((tokens cmd).filter (!isFlag flag ·)) else cmd

/-- Drop the flag together with its value. -/
def removeFlagWithValue (cmd flag : String) : String :=
  if (tokens cmd).any (isFlag flag) then joined (dropFlagValues flag (tokens cmd)) else cmd

/-- Put `args` after the first two words `a b`. -/
def insertAfterPair? (cmd a b args : String) : Option String :=
  (insertAfterPairIn? a b args (tokens cmd)).map joined

/-- A command without the blanks behind it. -/
def trimmedEnd (cmd : String) : String := String.ofList (Text.trimEnd cmd.toList)

/-- Whether a command runs a script of the package file, which takes arguments behind `--`. -/
def runsPackageScript (cmd : String) : Bool :=
  match tokens cmd with
  | "npm" :: verb :: _ => ["test", "run", "run-script", "t"].contains verb
  | _ => false

def appendArgs (cmd args : String) : String := trimmedEnd cmd ++ " " ++ args

/-- Append arguments for the program that a command runs in the end. -/
def appendPassthrough (cmd args : String) : String :=
  if !hasToken cmd "--" && runsPackageScript cmd then appendArgs cmd ("-- " ++ args)
  else appendArgs cmd args

/-- Run `before` first, in the same shell. -/
def runBefore (before cmd : String) : String := before ++ " && " ++ trimmed cmd

end PatchTrial.Command

namespace PatchTrial.Plan

/-- Change the command of a step, if it has one. -/
def edit (p : Plan) (s : Step) (f : String → String) : Plan :=
  match p.command s with
  | none => p
  | some c => p.setCommand s (some (f c))

/-- Change the commands of all steps. -/
def editAll (p : Plan) (f : String → String) : Plan :=
  (p.runnable Step.all).foldl (fun p s => p.edit s f) p

/-- Set a variable for those of the steps that have a command. -/
def setEnvWhereRunnable (p : Plan) (steps : List Step) (key value : String) : Plan :=
  (p.runnable steps).foldl (fun p s => p.setEnv s key value) p

/-- Whether a text occurs in a command. -/
def mentions (cmd part : String) : Bool := Text.occursIn part.toList cmd.toList

end PatchTrial.Plan
