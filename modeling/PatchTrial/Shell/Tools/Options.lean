import PatchTrial.Shell.Tools.Basic
import PatchTrial.Shell.Tools.Quoting

/-!
Options of the tools.

Options may stand anywhere before a double dash. They have a letter, a name or both; a name may be
shortened as long as it stays clear which one is meant. The options that a tool has are written in
one text: their spellings, separated by bars, and behind them a colon if they need a value, or a
question mark if they can have one.
-/
namespace PatchTrial.Shell.Tools

/-- Whether an option has a value. -/
inductive Arity where
  | none
  | required
  | optional
  deriving DecidableEq, Repr

/-- An option that a tool has. It goes by the first of its spellings. -/
structure OptionForm where
  spellings : List String
  arity : Arity
  deriving Repr

def OptionForm.key (f : OptionForm) : String := f.spellings.headD ""

/-- Read the options that a tool has. -/
def optionForms (text : String) : List OptionForm :=
  (text.splitOn " ").filterMap fun word =>
    let (body, arity) : List Char × Arity := match word.toList.reverse with
      | ':' :: cs => (cs.reverse, .required)
      | '?' :: cs => (cs.reverse, .optional)
      | cs => (cs.reverse, .none)
    if body.isEmpty then none else some ⟨(String.ofList body).splitOn "|", arity⟩

/-- Options with their values, in the order in which they were given, and operands. -/
structure Options where
  given : List (String × Option String) := []
  operands : List String := []

namespace Options

def has (o : Options) (key : String) : Bool := o.given.any (·.1 = key)

/-- The values that were given for an option. -/
def values (o : Options) (key : String) : List String :=
  o.given.filterMap fun (k, v) => if k = key then some (v.getD "") else none

/-- The last value that was given for an option. -/
def value? (o : Options) (key : String) : Option String := (o.values key).getLast?

/-- The option out of a list that was given last. -/
def last? (o : Options) (keys : List String) : Option String :=
  (o.given.reverse.find? (keys.contains ·.1)).map (·.1)

def add (o : Options) (f : OptionForm) (value : Option String) : Options :=
  { o with given := o.given ++ [(f.key, value)] }

/-- Why options could not be read. -/
inductive Fault where
  | unknownLetter (c : Char)
  | unknownName (text : String)
  | letterWantsValue (c : Char)
  | nameWantsValue (name : String)
  | nameTakesNoValue (name : String)
  | ambiguous (text : String) (names : List String)
  deriving DecidableEq, Repr

def Fault.message : Fault → String
  | .unknownLetter c => s!"invalid option -- '{c}'"
  | .unknownName text => s!"unrecognized option '--{text}'"
  | .letterWantsValue c => s!"option requires an argument -- '{c}'"
  | .nameWantsValue name => s!"option '--{name}' requires an argument"
  | .nameTakesNoValue name => s!"option '--{name}' doesn't allow an argument"
  | .ambiguous text names =>
    s!"option '--{text}' is ambiguous; possibilities:" ++
      String.join (names.map fun n => s!" '--{n}'")

/-- What a name leads to: the option, and its full name. -/
def named (forms : List OptionForm) (name text : String) : Except Fault (OptionForm × String) :=
  let all := forms.flatMap fun f => (f.spellings.filter fun s => 1 < s.length).map fun s => (f, s)
  match all.find? (·.2 = name) with
  | some found => .ok found
  | none =>
    match all.filter (·.2.startsWith name) with
    | [] => .error (.unknownName text)
    | first :: others =>
      if others.all fun x => x.1.key = first.1.key then .ok first
      else .error (.ambiguous text ((first :: others).map (·.2)))

def lettered? (forms : List OptionForm) (c : Char) : Option OptionForm :=
  forms.find? fun f => f.spellings.contains (String.singleton c)

/-- Read the letters of one argument. The answer tells which option still wants its value. -/
def readLetters (forms : List OptionForm) (o : Options) :
    List Char → Except Fault (Options × Option (Char × OptionForm))
  | [] => .ok (o, none)
  | c :: cs =>
    match lettered? forms c with
    | none => .error (.unknownLetter c)
    | some f =>
      match f.arity with
      | .none => readLetters forms (o.add f none) cs
      | .optional => .ok (o.add f (if cs.isEmpty then none else some (String.ofList cs)), none)
      | .required =>
        if cs.isEmpty then .ok (o, some (c, f)) else .ok (o.add f (some (String.ofList cs)), none)

/-- Read arguments. Where options must come first, the first operand ends them. -/
def read (forms : List OptionForm) (first : Bool) : Options → List String → Except Fault Options
  | o, [] => .ok o
  | o, "--" :: rest => .ok { o with operands := o.operands ++ rest }
  | o, arg :: rest =>
    match arg.toList with
    | '-' :: '-' :: long => do
      let name := long.takeWhile (· != '=')
      let attached := match long.drop name.length with
        | _ :: value => some (String.ofList value)
        | [] => none
      let (f, name) ← named forms (String.ofList name) (String.ofList long)
      match f.arity, attached with
      | .none, some _ => .error (.nameTakesNoValue name)
      | .none, none => read forms first (o.add f none) rest
      | .optional, _ => read forms first (o.add f attached) rest
      | .required, some _ => read forms first (o.add f attached) rest
      | .required, none =>
        match rest with
        | value :: others => read forms first (o.add f (some value)) others
        | [] => .error (.nameWantsValue name)
    | '-' :: c :: cs => do
      match ← readLetters forms o (c :: cs) with
      | (o, none) => read forms first o rest
      | (o, some (c, f)) =>
        match rest with
        | value :: others => read forms first (o.add f (some value)) others
        | [] => .error (.letterWantsValue c)
    | _ =>
      if first then .ok { o with operands := o.operands ++ arg :: rest }
      else read forms first { o with operands := o.operands ++ [arg] } rest

end Options

/-- Run a tool with its options; `failure` is the status of one that is used wrongly. -/
def withOptions (tool forms : String) (args : List String) (run : Options → Act Nat)
    (failure : Nat := 1) (first : Bool := false) : Act Nat := do
  match Options.read (optionForms (forms ++ " help version")) first {} args with
  | .error fault => do
    discard (misuse tool fault.message)
    return failure
  | .ok o =>
    match o.last? ["help", "version"] with
    | some "help" =>
      Act.print s!"Usage: {tool} [OPTION]...\n"
      return 0
    | some _ =>
      Act.print (tool ++ "\n")
      return 0
    | none => run o

end PatchTrial.Shell.Tools
