import PatchTrial.Shell.Builtin.Scripts
import PatchTrial.Shell.Redirect

/-!
Running commands.

A command that fails ends a shell that is to end on errors, unless its failure is looked at. What
is nested in a command is run by the interpreter of the next depth, so that all of this is
recursion on the depth.
-/
namespace PatchTrial.Shell

/-- Note the status of a command, which may be the end of the shell. -/
def settle (tested : Bool) (status : Nat) : Act Nat := do
  Act.setStatus status
  if status ≠ 0 && !tested && (← Act.process).has 'e' then throw (.exit status)
  return status

/-- Run a command in which a fault is no more than a failure. -/
def guarded (run : Act Nat) : Act Nat := do
  try run catch
    | .fault => return faultStatus
    | e => throw e

/-! ### Assignments and traces -/

/-- Give variables the values that stand in front of a command. The answer is the assignments as a
trace shows them. -/
def assignAll (r : Interpreter) (exported : Bool) (assigns : List (String × Word)) :
    Act (List String) := do
  let mut shown : List String := []
  for (name, word) in assigns do
    let value ← assignedText r word
    Act.assign name value
    if exported then
      Act.modifyProcess fun p =>
        match p.bindings.lookup name with
        | some v => p.withVariable name { v with exported := true }
        | none => p
    shown := s!"{name}={value}" :: shown
  return shown.reverse

/-- What stands in front of each line of a trace. -/
def traceLead (r : Interpreter) : Act String := do
  let lead := (← Act.valueOf "PS4").getD ""
  let isPlain : Bool := lead.all fun c => c != '$' && c != '\x60' && c != '\\'
  if isPlain then return lead
  match readText (readNested (← Act.process).aliases lead.length) 0 lead.toList with
  | .ok (word, _) => textOf r word
  | .error _ => return lead

/-- Show the words of a command, if they are to be shown, where messages went before it. -/
def trace (r : Interpreter) (channels : List (Nat × Channel)) (words : List String) :
    Act Unit := do
  let p ← Act.process
  if p.has 'x' && !words.isEmpty then
    let lead ← traceLead r
    Act.modifyProcess fun p => { p with channels := channels }
    Act.warn (lead ++ " ".intercalate words)
    Act.modifyProcess fun q => { q with channels := p.channels }

/-- Run something with the values that stand in front of it, and put back what they were. -/
def withAssigned (assigns : List (String × Word)) (run : Act Nat) : Act Nat := do
  let old := (← Act.process).bindings
  let restore : Act Unit := assigns.forM fun (n, _) => Act.restoreVariable n (old.lookup n)
  try
    let status ← run
    restore
    return status
  catch e =>
    restore
    throw e

/-! ### Functions and commands -/

/-- How many functions may call one another. -/
def maxCalls : Nat := 1000

/-- Call a function. -/
def callFunction (r : Interpreter) (tested : Bool) (body : Command) (args : List String) :
    Act Nat := do
  let before ← Act.process
  if maxCalls ≤ before.calls then
    fatal s!"Maximum function recursion depth ({maxCalls}) reached"
  Act.modifyProcess fun p =>
    { p with
      args := args
      loops := 0
      locals := some []
      localFlags := none
      calls := before.calls + 1
      nextOption := 1
      lettersRead := 0 }
  let restore : Act Unit := do
    for (name, old) in (← Act.process).locals.getD [] do
      Act.restoreVariable name old
    Act.modifyProcess fun p => { p with
      args := before.args
      loops := before.loops
      flags := p.localFlags.getD p.flags
      locals := before.locals
      localFlags := before.localFlags
      calls := before.calls
      nextOption := before.nextOption
      lettersRead := before.lettersRead }
  try
    let status ← r.run tested body
    restore
    return status
  catch
    | .returned n => restore; return n
    | e => restore; throw e

/-- Run a command that has a name and is not special. The answer is how it ended. -/
def runNamed (r : Interpreter) (tested : Bool) (name : String) (args : List String) :
    Act Finish := do
  match (← Act.process).functions.lookup name with
  | some body => return .exited (← callFunction r tested body args)
  | none =>
    match Builtin.regular? r name args with
    | some run => return .exited (← guarded (Builtin.runFor name run))
    | none => launch r (← newPid) name args

/-- What is asked of the command that runs other commands. -/
inductive CommandOrder where
  | run (args : List String)
  | describe (verbose : Bool) (name : String)
  | fault (letter : Char)

/-- What is to be done with operands, which are described if that is asked for; of several only the
first one is. -/
def CommandOrder.ofOperands (verbose : Option Bool) (operands : List String) : CommandOrder :=
  match verbose, operands with
  | some verbose, name :: _ => .describe verbose name
  | some _, [] => .run []
  | none, operands => .run operands

/-- Read the options of the command that runs other commands. -/
def CommandOrder.ofArguments (verbose : Option Bool) : List String → CommandOrder
  | [] => .run []
  | "--" :: rest => .ofOperands verbose rest
  | arg :: rest =>
    match arg.toList with
    | '-' :: c :: cs =>
      let letters := c :: cs
      match letters.find? fun c => c != 'p' && c != 'v' && c != 'V' with
      | some c => .fault c
      | none =>
        let verbose := if letters.contains 'V' then some true
          else if letters.contains 'v' then verbose.or (some false) else verbose
        ofArguments verbose rest
    | _ => .ofOperands verbose (arg :: rest)

/-- Run a command by its fields, which stand behind assignments and redirections. -/
def runFields (r : Interpreter) (tested : Bool) (assigns : List (String × Word))
    (fields : List String) (redirects : List Redirect) : Act Nat := do
  let channels := (← Act.process).channels
  let plain (run : Act Nat) : Act Nat := keepingChannels do
    match ← applyRedirects r redirects with
    | some text => do
      Act.complain text
      return faultStatus
    | none => withAssigned assigns do
      let shown ← assignAll r true assigns
      trace r channels (shown ++ fields)
      run
  match fields with
  | [] => return 0
  | "command" :: args =>
    match CommandOrder.ofArguments none args with
    | .describe verbose name =>
      plain (Builtin.runFor "command" (Builtin.describeAll verbose [name]))
    | .fault letter => plain (guarded (fatalAs "command" s!"Illegal option -{letter}"))
    | .run [] => plain (return 0)
    | .run (name :: args) => plain do
      match Builtin.special? r tested name args with
      | some run => guarded (Builtin.runFor name run)
      | none =>
        let functions := (← Act.process).functions
        Act.modifyProcess fun p =>
          { p with functions := p.functions.filter (·.1 != name) }
        let f ← runNamed r tested name args
        Act.modifyProcess fun p => { p with functions := functions }
        conclude f
  | name :: args =>
    match Builtin.special? r tested name args with
    | some run => do
      let act : Act Nat := do
        if let some text ← applyRedirects r redirects then fatal text
        let shown ← assignAll r false assigns
        trace r channels (shown ++ fields)
        Builtin.runFor name run
      if name = "exec" then act else keepingChannels act
    | none => plain do conclude (← runNamed r tested name args)

/-- Run a simple command. -/
def runSimple (r : Interpreter) (tested : Bool) (line : Nat)
    (assigns : List (String × Word)) (words : List Word) (redirects : List Redirect) :
    Act Nat := do
  Act.modifyProcess fun p => { p with line := line, outputStatus := none }
  match ← fieldsOfCommand r words with
  | [] => do
    let channels := (← Act.process).channels
    let status ← keepingChannels do
      match ← applyRedirects r redirects with
      | some text =>
        Act.complain text
        return faultStatus
      | none => do
        let shown ← assignAll r false assigns
        trace r channels shown
        return (← Act.process).outputStatus.getD 0
    settle tested status
  | fields => do settle tested (← runFields r tested assigns fields redirects)

/-! ### Loops -/

/-- How many rounds a loop is followed before it counts as endless. -/
def maxRounds : Nat := 100000

/-- What a round of a loop leaves to do. -/
inductive Round where
  | next (status : Nat)
  | finished (status : Nat)

/-- Run the body of a loop once. -/
def oneRound (run : Act Nat) : Act Round := do
  try return .next (← run)
  catch
    | .leave n => if n ≤ 1 then return .finished 0 else throw (.leave (n - 1))
    | .again n => if n ≤ 1 then return .next 0 else throw (.again (n - 1))
    | e => throw e

/-- Count a loop as being run. -/
def inLoop (run : Act Nat) : Act Nat := do
  let loops := (← Act.process).loops
  Act.modifyProcess fun p => { p with loops := loops + 1 }
  let restore : Act Unit := Act.modifyProcess fun p => { p with loops := loops }
  try
    let status ← run
    restore
    return status
  catch e =>
    restore
    throw e

def runLoop (r : Interpreter) (tested : Bool) (whileTrue : Bool) (cond body : Command) :
    Act Nat := do
  let mut status := 0
  for _ in [0:maxRounds] do
    let c ← oneRound (r.run true cond)
    match c with
    | .finished _ => return status
    | .next s =>
      if (s == 0) != whileTrue then return status
      match ← oneRound (r.run tested body) with
      | .finished s => return s
      | .next s => status := s
  throw .spinning

def runForEach (r : Interpreter) (tested : Bool) (name : String) (items : List String)
    (body : Command) : Act Nat := do
  let mut status := 0
  for x in items do
    Act.assign name x
    match ← oneRound (r.run tested body) with
    | .finished s => return s
    | .next s => status := s
  return status

/-! ### Compound commands -/

/-- Run something and collect what it writes, even if it never comes to an end. -/
def collectingAll (run : Act Nat) : Act (ByteArray × Bool) := do
  let (w, n) := (← Act.world).addSlot
  Act.setWorld w
  let before ← Act.process
  let endless ← try
      discard <| inSubshell do
        setChannel 1 (some (.slot n))
        run
      pure false
    catch
      | .spinning => pure true
      | e => throw e
  Act.modifyProcess fun _ => before
  if !endless then Act.setWorld ((← Act.world).drain n)
  return ((← Act.world).slot n, endless)

/-- Run commands that pass their output on, each one after the one before it. One that goes on for
ever is ended by the one behind it, unless that reads all there is. -/
def runPipeline (r : Interpreter) (tested : Bool) : List Command → Act Nat
  | [] => return 0
  | [last] => inSubshell (withExitTrap r (r.run tested last))
  | c :: rest => do
    let (bytes, endless) ← collectingAll (withExitTrap r (r.run tested c))
    let (w, n) := (← Act.world).addStream (Octets.ofBytes bytes)
    Act.setWorld w
    let status ← keepingChannels do
      setChannel 0 (some (.stream n false))
      runPipeline r tested rest
    if endless && ((← Act.world).streams[n]?.getD []).isEmpty then throw .spinning
    return status

/-- Whether one of the patterns of a case matches. -/
def matchesAny (r : Interpreter) (subject : List Char) : List Word → Act Bool
  | [] => return false
  | w :: ws => do
    if matchesPattern (← patternOf r w) subject then return true
    else matchesAny r subject ws

/-- The commands of the first case that matches. -/
def chosenCase (r : Interpreter) (subject : List Char) :
    List (List Word × Command) → Act (Option Command)
  | [] => return none
  | (patterns, body) :: cases => do
    if ← matchesAny r subject patterns then return some body
    else chosenCase r subject cases

/-- Run commands one after another. -/
def runSequence (r : Interpreter) (tested : Bool) : Command → Act Nat
  | .sequence a b => do
    discard (r.run tested a)
    runSequence r tested b
  | c => r.run tested c

/-- Run one command with an interpreter for what is nested in it, unless commands are only to be
read. -/
def runCommand (r : Interpreter) (tested : Bool) (c : Command) : Act Nat := do
  if (← Act.process).has 'n' then return (← Act.process).status
  match c with
  | .nothing => return (← Act.process).status
  | .simple line assigns words redirects => runSimple r tested line assigns words redirects
  | .pipeline negated parts => do
    let status ← match parts with
      | [only] => r.run true only
      | parts => runPipeline r tested parts
    if negated then
      let status := if status = 0 then 1 else 0
      Act.setStatus status
      return status
    else settle tested status
  | .both a b => do
    let s ← r.run true a
    if s = 0 then r.run tested b else return s
  | .either a b => do
    let s ← r.run true a
    if s = 0 then return s else r.run tested b
  | .sequence a b => runSequence r tested (.sequence a b)
  | .background c => do
    let channels := (← Act.process).channels
    startJob do
      setChannel 0 (some .nowhere)
      withExitTrap r (r.run false c)
    Act.modifyProcess fun p => { p with channels := channels }
    Act.setStatus 0
    return 0
  | .subshell c => do
    settle tested (← inSubshell (withExitTrap r (r.run tested c)))
  | .ifThen cond yes no => do
    let s ← r.run true cond
    match if s = 0 then yes else no with
    | .nothing =>
      Act.setStatus 0
      return 0
    | branch => r.run tested branch
  | .loop whileTrue cond body => do
    let s ← inLoop (runLoop r tested whileTrue cond body)
    Act.setStatus s
    return s
  | .forEach line name items body => do
    Act.atLine line
    let items ← match items with
      | some ws => fieldsOf r ws
      | none => pure (← Act.process).args
    let s ← inLoop (runForEach r tested name items body)
    Act.setStatus s
    return s
  | .select line subject cases => do
    Act.atLine line
    let text ← textOf r subject
    match ← chosenCase r text.toList cases with
    | none =>
      Act.setStatus 0
      return 0
    | some .nothing =>
      Act.setStatus 0
      return 0
    | some body => r.run tested body
  | .define name body => do
    Act.modifyProcess fun p =>
      { p with functions := (name, body) :: p.functions.filter (·.1 != name) }
    Act.setStatus 0
    return 0
  | .redirected line c rs => do
    Act.atLine line
    let status ← keepingChannels do
      match ← applyRedirects r rs with
      | some text =>
        Act.complain text
        Act.setStatus faultStatus
        return faultStatus
      | none => r.run tested c
    return status

/-- The interpreter that follows commands to a depth. -/
def interpreter : Nat → Interpreter
  | 0 => .exhausted
  | depth + 1 => ⟨runCommand (interpreter depth), expandWord (interpreter depth)⟩

/-- The depth to which commands are followed. -/
def maxDepth : Nat := 8000

end PatchTrial.Shell
