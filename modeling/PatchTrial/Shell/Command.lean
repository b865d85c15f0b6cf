/-!
Commands of the shell language.

Words keep their quoting, because only what was not quoted is split into fields and matched
against file names. Commands stand in words where their output is to be put.
-/
namespace PatchTrial.Shell

/-- What is done with the value of a parameter. -/
inductive ParamUse where
  | plain
  | length
  /-- Use the argument if the parameter is unset or, where `orEmpty` holds, empty. -/
  | orElse (orEmpty : Bool)
  /-- The same, and set the parameter. -/
  | assign (orEmpty : Bool)
  /-- The same, but fail with the argument as message. -/
  | require (orEmpty : Bool)
  /-- Use the argument if the parameter is set and, where `orEmpty` holds, not empty. -/
  | ifSet (orEmpty : Bool)
  | cutEnd (longest : Bool)
  | cutStart (longest : Bool)
  /-- None of these, which is noticed only when the value is asked for. -/
  | invalid
  deriving DecidableEq, Repr, Inhabited

/-- Whether the argument is a pattern. Quotes around the parameter are not around that. -/
def ParamUse.takesPattern : ParamUse → Bool
  | .cutEnd _ => true
  | .cutStart _ => true
  | _ => false

inductive RedirectKind where
  | input
  /-- An existing file may be kept from being written by a flag, unless it is forced. -/
  | output (forced : Bool)
  | append
  | readWrite
  /-- A copy of another descriptor, or none for a dash. -/
  | copy (forInput : Bool)
  | hereText
  deriving DecidableEq, Repr, Inhabited

mutual
/-- A part of a word. -/
inductive Part where
  | text (s : List Char) (quoted : Bool)
  | param (name : String) (use : ParamUse) (arg : List Part) (quoted : Bool)
  /-- The output of commands. -/
  | output (commands : Command) (quoted : Bool)
  /-- The value of an arithmetic expression. -/
  | sum (expr : List Part) (quoted : Bool)

/-- What a descriptor is to stand for while a command runs. -/
inductive Redirect where
  | mk (descriptor : Nat) (kind : RedirectKind) (target : List Part)

/-- A command. The number of the line on which it starts is kept where messages can name it. -/
inductive Command where
  | nothing
  | simple (line : Nat) (assigns : List (String × List Part)) (words : List (List Part))
      (redirects : List Redirect)
  | pipeline (negated : Bool) (parts : List Command)
  | both (first second : Command)
  | either (first second : Command)
  | sequence (first second : Command)
  | background (c : Command)
  | subshell (c : Command)
  | ifThen (cond yes no : Command)
  | loop (whileTrue : Bool) (cond body : Command)
  | forEach (line : Nat) (name : String) (items : Option (List (List Part))) (body : Command)
  | select (line : Nat) (subject : List Part) (cases : List (List (List Part) × Command))
  | define (name : String) (body : Command)
  | redirected (line : Nat) (c : Command) (redirects : List Redirect)
end

instance : Inhabited Command := ⟨.nothing⟩

abbrev Word := List Part

namespace Redirect

def descriptor : Redirect → Nat
  | mk d _ _ => d

def kind : Redirect → RedirectKind
  | mk _ k _ => k

def target : Redirect → Word
  | mk _ _ t => t

end Redirect

end PatchTrial.Shell
