import PatchTrial.Shell.Words

/-!
Parsing scripts.

A script is parsed one line of commands at a time, as it is run that way: a mistake on a later line
does not keep the lines before it from running.
-/
namespace PatchTrial.Shell

variable (inner : CommandReader) (total : Nat) (aliases : List (String × String))

/-! ### Aliases -/

/-- Put the text of an alias in the place of a word that is one, and of the word that the text is.
A text that ends with a blank does the same for the word behind it. -/
def unaliased (aliases : List (String × String)) (cs : List Char) : List Char :=
  let (word, rest) := (skipBlank cs).span fun c => !isMeta c
  let name := String.ofList word
  match h : aliases.find? (·.1 = name) with
  | none => cs
  | some (_, value) =>
    let others := aliases.filter (·.1 ≠ name)
    have : others.length < aliases.length := by
      have found := List.find?_some h
      have inside := List.mem_of_find?_eq_some h
      exact List.length_filter_lt_length_iff_exists.mpr ⟨_, inside, by simpa using found⟩
    let text := value.toList
    let more := text.getLast? = some ' ' || text.getLast? = some '\t'
    unaliased others (text ++ if more then unaliased others rest else rest)
  termination_by aliases.length
  decreasing_by all_goals assumption

/-! ### Redirections -/

/-- The value of a word that is written without any special parts. -/
def literal? : Word → Option String
  | [] => some ""
  | .text s _ :: ps => (literal? ps).map fun t => String.ofList s ++ t
  | _ => none

def isQuotedPart : Part → Bool
  | .text _ q => q
  | _ => false

/-- The lines of a here-text up to its delimiter, and what follows it. -/
def hereLines (delimiter : List Char) (dropTabs : Bool) : Nat → List Char →
    List Char × List Char
  | 0, cs => (cs, [])
  | _ + 1, [] => ([], [])
  | fuel + 1, cs =>
    let (line, rest) := cs.span (· != '\n')
    let line := if dropTabs then line.dropWhile (· == '\t') else line
    if line = delimiter then ([], rest.drop 1)
    else if rest.isEmpty then (line, [])
    else
      let (body, after) := hereLines delimiter dropTabs fuel (rest.drop 1)
      (line ++ '\n' :: body, after)

/-- Take a here-text out of the lines after the current one. Each of its lines leaves a mark, so
that the lines after it keep their numbers. -/
def takeHere (dropTabs : Bool) (cs : List Char) : Except Mistake (Parsed Word) := do
  if (skipBlank cs).isEmpty then unexpected total []
  let (word, rest) ← readWord inner total (skipBlank cs)
  match literal? word with
  | none => .error ⟨.unexpected "redirection", lineOf total rest⟩
  | some delimiter =>
    let (line, below) := rest.span (· != '\n')
    let (marks, lines) := (below.drop 1).span (· == '\x00')
    let (body, after) := hereLines delimiter.toList dropTabs (below.length + 1) lines
    let taken := List.replicate (lines.count '\n' - after.count '\n') '\x00'
    let rest := line ++ (if below.isEmpty then [] else '\n' :: marks ++ taken ++ after)
    if word.any isQuotedPart then return ([.text body true], rest)
    else
      let linesAfter := lineCount lines - lineCount body
      return ((← readText inner (total - linesAfter) body).1, rest)

/-- Read a redirection, if one is next. -/
def readRedirect? (cs : List Char) : Except Mistake (Option (Redirect × List Char)) :=
  let (digit, rest) := match cs with
    | d :: rest => if d.isDigit then (some d, rest) else (none, cs)
    | [] => (none, [])
  let descriptor (default : Nat) : Nat :=
    digit.elim default fun d => Nat.ofDigitChars 10 [d] 0
  let target (fd : Nat) (kind : RedirectKind) (rest : List Char) :
      Except Mistake (Option (Redirect × List Char)) := do
    let rest := skipBlank rest
    match rest with
    | [] => unexpected total rest
    | c :: _ =>
      if isMeta c then unexpected total rest
      else
        let (w, rest) ← readWord inner total rest
        return some (⟨fd, kind, w⟩, rest)
  let here (dropTabs : Bool) (rest : List Char) :
      Except Mistake (Option (Redirect × List Char)) := do
    let (body, rest) ← takeHere inner total dropTabs rest
    return some (⟨descriptor 0, .hereText, body⟩, rest)
  match rest with
  | '<' :: '<' :: '-' :: rest => here true rest
  | '<' :: '<' :: rest => here false rest
  | '<' :: '&' :: rest => target (descriptor 0) (.copy true) rest
  | '<' :: '>' :: rest => target (descriptor 0) .readWrite rest
  | '<' :: rest => target (descriptor 0) .input rest
  | '>' :: '>' :: rest => target (descriptor 1) .append rest
  | '>' :: '&' :: rest => target (descriptor 1) (.copy false) rest
  | '>' :: '|' :: rest => target (descriptor 1) (.output true) rest
  | '>' :: rest => target (descriptor 1) (.output false) rest
  | _ => .ok none

def readRedirects : Nat → List Char → Except Mistake (Parsed (List Redirect))
  | 0, cs => .ok ([], cs)
  | fuel + 1, cs => do
    match ← readRedirect? inner total (skipBlank cs) with
    | none => return ([], cs)
    | some (r, rest) => do
      let (rs, rest) ← readRedirects fuel rest
      return (r :: rs, rest)

/-! ### Commands -/

/-- The name and the rest of an assignment. -/
def assignment? (cs : List Char) : Option (String × List Char) :=
  match cs with
  | [] => none
  | c :: _ =>
    if isNameStart c then
      match cs.span isNameChar with
      | (name, '=' :: rest) => some (String.ofList name, rest)
      | _ => none
    else none

/-- What a simple command consists of. -/
structure SimpleParts where
  assigns : List (String × Word) := []
  words : List Word := []
  redirects : List Redirect := []

/-- Read assignments, words and redirections up to an operator. -/
def readSimple : Nat → SimpleParts → List Char → Except Mistake (Parsed SimpleParts)
  | 0, p, cs => .ok (p, cs)
  | fuel + 1, p, cs => do
    let started := !p.assigns.isEmpty || !p.redirects.isEmpty
    let cs := skipBlank (if p.words.isEmpty && started then unaliased aliases cs else cs)
    match ← readRedirect? inner total cs with
    | some (r, rest) => readSimple fuel { p with redirects := p.redirects ++ [r] } rest
    | none =>
      match cs with
      | [] => return (p, [])
      | c :: _ =>
        if isMeta c then return (p, cs)
        else
          match if p.words.isEmpty then assignment? cs else none with
          | some (name, rest) => do
            let (w, rest) ← readWord inner total rest
            readSimple fuel { p with assigns := p.assigns ++ [(name, w)] } rest
          | none => do
            let (w, rest) ← readWord inner total cs
            readSimple fuel { p with words := p.words ++ [w] } rest

/-- Words up to the end of a line or a semicolon. -/
def readItems : Nat → List Char → Except Mistake (Parsed (List Word))
  | 0, cs => .ok ([], cs)
  | fuel + 1, cs => do
    let cs := skipBlank cs
    match cs with
    | [] => return ([], [])
    | c :: _ =>
      if isMeta c then return ([], cs)
      else do
        let (w, rest) ← readWord inner total cs
        let (ws, rest) ← readItems fuel rest
        return (w :: ws, rest)

/-- The patterns of a case, up to the closing parenthesis. -/
def readPatterns : Nat → List Char → Except Mistake (Parsed (List Word))
  | 0, cs => unexpected total cs
  | fuel + 1, cs => do
    let cs := skipBlank cs
    let (w, rest) ← if (dropRedirection? cs).isSome then pure ([], cs) else readWord inner total cs
    let rest := if rest.length = cs.length then dropOperator cs else rest
    match skipBlank rest with
    | ')' :: rest => return ([w], rest)
    | '|' :: '|' :: _ => expectingAfterWord total ")" rest
    | '|' :: rest => do
      let (ws, rest) ← readPatterns fuel rest
      return (w :: ws, rest)
    | rest => expectingAfterWord total ")" rest

/-- The word that a case is about. -/
def readSubject (cs : List Char) : Except Mistake (Parsed Word) := do
  let (w, rest) ← readWord inner total cs
  if rest.length = cs.length then
    .error ⟨.expecting (plainTokenName cs) "word", lineOf total (afterToken cs)⟩
  else return (w, rest)

/-- The name of a function whose definition is next. -/
def definition? (cs : List Char) : Option (String × List Char) :=
  match cs with
  | [] => none
  | c :: _ =>
    if isNameStart c then
      let (name, rest) := cs.span isNameChar
      match skipBlank rest with
      | '(' :: rest =>
        match skipBlank rest with
        | ')' :: rest => some (String.ofList name, rest)
        | _ => none
      | _ => none
    else none

/-- Put redirections around a command, if there are any. -/
def redirect (line : Nat) (c : Command) (rs : List Redirect) : Command :=
  if rs.isEmpty then c else .redirected line c rs

/-- Where a list of commands ends. -/
inductive Extent where
  /-- With its line. -/
  | line
  /-- At a sign or a word that ends a compound command; it holds at least one command. -/
  | compound
  /-- In the same way, but there need be no command. -/
  | case
  deriving DecidableEq, Repr

/-- Whether no command can start with a text. -/
def endsList (cs : List Char) : Bool :=
  match cs with
  | [] => true
  | ')' :: _ => true
  | '\n' :: _ => true
  | ';' :: ';' :: _ => true
  | _ =>
    match reserved? cs with
    | some (w, _) => ["then", "else", "elif", "fi", "do", "done", "esac", "\x7d"].contains w
    | none => false

mutual
/-- Commands up to something that cannot start one. -/
def readList (fuel : Nat) (extent : Extent) (cs : List Char) : Except Mistake (Parsed Command) :=
  match fuel with
  | 0 => unexpected total cs
  | fuel + 1 => do
    let cs := if extent = .line then skipBlank cs else skipAll cs
    if endsList cs then
      if extent = .compound && !cs.isEmpty then unexpected total cs else return (.nothing, cs)
    let (first, rest) ← readChain fuel cs
    let next (c : Command) (rest : List Char) : Except Mistake (Parsed Command) := do
      let (others, rest) ← readList fuel (if extent = .line then .line else .case) rest
      match others with
      | .nothing => return (c, rest)
      | others => return (.sequence c others, rest)
    match skipBlank rest with
    | ';' :: ';' :: rest => return (first, ';' :: ';' :: rest)
    | ';' :: rest => next first rest
    | '&' :: rest => next (.background first) rest
    | '\n' :: rest => if extent = .line then return (first, '\n' :: rest) else next first rest
    | rest => return (first, rest)

/-- Pipelines joined by `&&` and `||`. -/
def readChain (fuel : Nat) (cs : List Char) : Except Mistake (Parsed Command) :=
  match fuel with
  | 0 => unexpected total cs
  | fuel + 1 => do
    let (first, rest) ← readPipeline fuel cs
    readChained fuel first rest

def readChained (fuel : Nat) (first : Command) (cs : List Char) : Except Mistake (Parsed Command) :=
  match fuel with
  | 0 => unexpected total cs
  | fuel + 1 =>
    match skipBlank cs with
    | '&' :: '&' :: rest => do
      let (second, rest) ← readPipeline fuel (skipAll rest)
      readChained fuel (.both first second) rest
    | '|' :: '|' :: rest => do
      let (second, rest) ← readPipeline fuel (skipAll rest)
      readChained fuel (.either first second) rest
    | _ => .ok (first, cs)

def readPipeline (fuel : Nat) (cs : List Char) : Except Mistake (Parsed Command) :=
  match fuel with
  | 0 => unexpected total cs
  | fuel + 1 =>
    let cs := skipBlank cs
    match reserved? cs with
    | some ("!", rest) => do
      let (parts, rest) ← readPiped fuel (skipBlank rest)
      return (.pipeline true parts, rest)
    | _ => do
      let (parts, rest) ← readPiped fuel cs
      match parts with
      | [c] => return (c, rest)
      | parts => return (.pipeline false parts, rest)

/-- Commands between bars. -/
def readPiped (fuel : Nat) (cs : List Char) : Except Mistake (Parsed (List Command)) :=
  match fuel with
  | 0 => unexpected total cs
  | fuel + 1 => do
    let (c, rest) ← readCommand fuel cs
    match skipBlank rest with
    | '|' :: '|' :: _ => return ([c], rest)
    | '|' :: rest => do
      let (others, rest) ← readPiped fuel (skipAll rest)
      return (c :: others, rest)
    | _ => return ([c], rest)

def readCommand (fuel : Nat) (cs : List Char) : Except Mistake (Parsed Command) :=
  match fuel with
  | 0 => unexpected total cs
  | fuel + 1 =>
    let cs := skipBlank cs
    let line := lineOf total cs
    let cs := if (reserved? cs).isSome then cs else skipBlank (unaliased aliases cs)
    let wrapped (p : Command × List Char) : Except Mistake (Parsed Command) := do
      let (rs, rest) ← readRedirects inner total (p.2.length + 1) p.2
      return (redirect line p.1 rs, rest)
    match cs with
    | '(' :: rest => do
      let (c, rest) ← readList fuel .compound rest
      match skipAll rest with
      | ')' :: rest => wrapped (.subshell c, rest)
      | rest => expecting total ")" rest
    | _ =>
      match reserved? cs with
      | some ("\x7b", rest) => do
        let (c, rest) ← readList fuel .compound rest
        wrapped (c, ← expectWord total "\x7d" rest)
      | some ("if", rest) => do wrapped (← readIf fuel rest)
      | some ("while", rest) => do
        let (cond, rest) ← readList fuel .compound rest
        let (body, rest) ← readBody fuel rest
        wrapped (.loop true cond body, rest)
      | some ("until", rest) => do
        let (cond, rest) ← readList fuel .compound rest
        let (body, rest) ← readBody fuel rest
        wrapped (.loop false cond body, rest)
      | some ("for", rest) => do
        let rest := skipBlank rest
        let (name, rest) := rest.span isNameChar
        let isWhole := rest.head?.all isMeta || "\\\n".toList.isPrefixOf rest
        if !(name.head?.any isNameStart && isWhole) then
          .error ⟨.badForVariable, lineOf total rest⟩
        else
          let rest := skipAll rest
          match reserved? rest with
          | some ("in", rest) => do
            let (items, rest) ← readItems inner total (rest.length + 1) rest
            match rest with
            | ';' :: rest => do
              let (body, rest) ← readBody fuel rest
              wrapped (.forEach line (String.ofList name) (some items) body, rest)
            | '\n' :: rest => do
              let (body, rest) ← readBody fuel rest
              wrapped (.forEach line (String.ofList name) (some items) body, rest)
            | rest => unexpected total rest
          | _ => do
            let rest := match rest with
              | ';' :: rest => rest
              | rest => rest
            let (body, rest) ← readBody fuel rest
            wrapped (.forEach line (String.ofList name) none body, rest)
      | some ("case", rest) => do
        let (subject, rest) ← readSubject inner total (skipBlank rest)
        let rest ← expectWord total "in" rest
        let (cases, rest) ← readCases fuel rest
        wrapped (.select line subject cases, rest)
      | some _ => unexpected total cs
      | none =>
        match definition? cs with
        | some (name, rest) => do
          if specialNames.contains name then .error ⟨.badFunctionName, lineOf total rest⟩
          let (body, rest) ← readCommand fuel (skipAll rest)
          return (.define name body, rest)
        | none => do
          let (p, rest) ← readSimple inner total aliases (cs.length + 1) {} cs
          if p.assigns.isEmpty && p.words.isEmpty && p.redirects.isEmpty then unexpected total cs
          else
            let alone := p.words.length = 1 && p.assigns.isEmpty && p.redirects.isEmpty
            match rest with
            | '(' :: inner =>
              if alone then
                match skipBlank inner with
                | ')' :: _ => .error ⟨.badFunctionName, lineOf total rest⟩
                | inner => expectingAfterWord total ")" inner
              else return (.simple line p.assigns p.words p.redirects, rest)
            | _ => return (.simple line p.assigns p.words p.redirects, rest)

/-- The rest of an `if` after that word or after `elif`. -/
def readIf (fuel : Nat) (cs : List Char) : Except Mistake (Parsed Command) :=
  match fuel with
  | 0 => unexpected total cs
  | fuel + 1 => do
    let (cond, rest) ← readList fuel .compound cs
    let rest ← expectWord total "then" rest
    let (yes, rest) ← readList fuel .compound rest
    let rest := skipAll rest
    match reserved? rest with
    | some ("elif", rest) => do
      let (no, rest) ← readIf fuel rest
      return (.ifThen cond yes no, rest)
    | some ("else", rest) => do
      let (no, rest) ← readList fuel .compound rest
      return (.ifThen cond yes no, ← expectWord total "fi" rest)
    | _ => return (.ifThen cond yes .nothing, ← expectWord total "fi" rest)

/-- The body of a loop. -/
def readBody (fuel : Nat) (cs : List Char) : Except Mistake (Parsed Command) :=
  match fuel with
  | 0 => unexpected total cs
  | fuel + 1 => do
    let rest ← expectWord total "do" cs
    let (body, rest) ← readList fuel .compound rest
    return (body, ← expectWord total "done" rest)

/-- The cases after `in`. -/
def readCases (fuel : Nat) (cs : List Char) :
    Except Mistake (Parsed (List (List Word × Command))) :=
  match fuel with
  | 0 => unexpected total cs
  | fuel + 1 =>
    let cs := skipAll cs
    match reserved? cs with
    | some ("esac", rest) => .ok ([], rest)
    | _ => do
      let cs := match cs with
        | '(' :: rest => rest
        | rest => rest
      let (patterns, rest) ← readPatterns inner total (cs.length + 1) cs
      let (body, rest) ← readList fuel .case rest
      match skipAll rest with
      | ';' :: ';' :: rest => do
        let (others, rest) ← readCases fuel rest
        return ((patterns, body) :: others, rest)
      | rest =>
        match reserved? rest with
        | some ("esac", rest) => return ([(patterns, body)], rest)
        | _ => expecting total ";;" rest
end

/-- Reads commands in which substitutions are nested up to a depth. -/
def readNested : Nat → CommandReader
  | 0 => unexpected
  | depth + 1 => fun total cs =>
    readList (readNested depth) total aliases (8 * cs.length + 16) .case cs

/-- Read the commands on the next line that has any; none at the end of the script. -/
def readLine (cs : List Char) : Except Mistake (Parsed (Option Command)) := do
  match skipAll cs with
  | [] => return (none, [])
  | cs =>
    let nested := readNested aliases cs.length
    let (c, rest) ← readList nested total aliases (8 * cs.length + 16) .line cs
    match rest with
    | [] => return (some c, [])
    | '\n' :: rest => return (some c, rest)
    | rest => unexpected total rest

end PatchTrial.Shell
