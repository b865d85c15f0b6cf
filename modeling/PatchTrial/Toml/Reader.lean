import PatchTrial.Toml.Scalar

/-!
Reading TOML texts.

A text is read line by line: a header opens a table, a key with a value is set in the table that
is open. Values may span lines inside arrays and long strings only.
-/
namespace PatchTrial.Toml

def isBareKeyChar (c : Char) : Bool := c.isAlphanum || c == '-' || c == '_'

/-- How deep arrays and inline tables may be nested, and how many parts a key may have. -/
def maxDepth : Nat := 79

/-- Read one part of a key. -/
def keyPart? (cs : List Char) : Option (String × List Char) :=
  match cs with
  | '"' :: _ => shortString? cs
  | '\'' :: _ => shortString? cs
  | _ =>
    match cs.span isBareKeyChar with
    | ([], _) => none
    | (part, rest) => some (String.ofList part, rest)

/-- Read the parts of a key, with blanks around each. -/
def keyParts? : Nat → List Char → Option (List String × List Char)
  | 0, _ => none
  | fuel + 1, cs => do
    let (part, rest) ← keyPart? (skipBlanks cs)
    match skipBlanks rest with
    | '.' :: rest => do
      let (parts, rest) ← keyParts? fuel rest
      return (part :: parts, rest)
    | rest => return ([part], rest)

def readKey? (cs : List Char) : Option (List String × List Char) := do
  let (parts, rest) ← keyParts? (cs.length + 1) cs
  if parts.length ≤ maxDepth then some (parts, rest) else none

/-- The rest of a line after a comment, if there is one. -/
def skipComment : List Char → List Char
  | '#' :: rest => rest.dropWhile isPlain
  | cs => cs

/-- Skip blanks, comments and line breaks. -/
def skipLines : Nat → List Char → List Char
  | 0, cs => cs
  | fuel + 1, cs =>
    let rest := skipComment (skipBlanks cs)
    match lineBreak? rest with
    | some rest => skipLines fuel rest
    | none => rest

def skipFiller (cs : List Char) : List Char := skipLines cs.length cs

mutual
/-- Read a value; `depth` arrays and inline tables may still be opened. -/
def readValue? (fuel depth : Nat) (cs : List Char) : Option (Toml × List Char) :=
  match fuel with
  | 0 => none
  | fuel + 1 =>
    match cs with
    | '[' :: rest =>
      if depth = 0 then none
      else (readItems? fuel (depth - 1) (skipFiller rest)).map fun (vs, r) => (.array vs, r)
    | '{' :: rest =>
      if depth = 0 then none
      else
        match skipBlanks rest with
        | '}' :: rest => some (.table .inlined [], rest)
        | rest => (readPairs? fuel (depth - 1) [] rest).map fun (fs, r) => (.table .inlined fs, r)
    | _ => readScalar? cs

/-- Read items up to the closing bracket. -/
def readItems? (fuel depth : Nat) (cs : List Char) : Option (List Toml × List Char) :=
  match fuel with
  | 0 => none
  | fuel + 1 =>
    match cs with
    | ']' :: rest => some ([], rest)
    | _ =>
      match readValue? fuel depth cs with
      | none => none
      | some (v, rest) =>
        match skipFiller rest with
        | ']' :: rest => some ([v], rest)
        | ',' :: rest =>
          (readItems? fuel depth (skipFiller rest)).map fun (vs, r) => (v :: vs, r)
        | _ => none

/-- Read the pairs of an inline table up to the closing brace. -/
def readPairs? (fuel depth : Nat) (fs : Fields) (cs : List Char) :
    Option (Fields × List Char) :=
  match fuel with
  | 0 => none
  | fuel + 1 =>
    match readKey? cs with
    | some (parts, '=' :: rest) =>
      match readValue? fuel depth (skipBlanks rest) with
      | none => none
      | some (v, rest) =>
        match set? parts v .inlined fs with
        | none => none
        | some fs =>
          match skipBlanks rest with
          | '}' :: rest => some (fs, rest)
          | ',' :: rest => readPairs? fuel depth fs rest
          | _ => none
    | _ => none
end

/-- The rest after the end of a line, where a comment may stand. -/
def lineEnd? (cs : List Char) : Option (List Char) :=
  match skipComment (skipBlanks cs) with
  | [] => some []
  | rest => lineBreak? rest

/-- A text that is being read: its fields so far, and the path of the open table. -/
structure Draft where
  fields : Fields
  path : List String

namespace Draft

/-- Open a table by `change` at a path. -/
def openAt? (d : Draft) (path : List String) (change : String → Origin → Fields → Option Fields) :
    Option Draft := do
  let key ← path.getLast?
  return ⟨← alter? false (change key) path.dropLast .header d.fields, path⟩

/-- Set a value in the open table. -/
def add? (d : Draft) (parts : List String) (v : Toml) : Option Draft := do
  return { d with fields := ← alter? false (set? parts v) d.path .header d.fields }

end Draft

/-- Read the line at the start of `cs`, which is neither empty nor a comment. -/
def readLine? (d : Draft) (cs : List Char) : Option (Draft × List Char) :=
  match cs with
  | '[' :: '[' :: rest =>
    match readKey? rest with
    | some (path, ']' :: ']' :: rest) => do
      return (← d.openAt? path openNext?, ← lineEnd? rest)
    | _ => none
  | '[' :: rest =>
    match readKey? rest with
    | some (path, ']' :: rest) => do
      return (← d.openAt? path openTable?, ← lineEnd? rest)
    | _ => none
  | _ =>
    match readKey? cs with
    | some (parts, '=' :: rest) => do
      let (v, rest) ← readValue? (2 * rest.length + 2) maxDepth (skipBlanks rest)
      return (← d.add? parts v, ← lineEnd? rest)
    | _ => none

def readLines? : Nat → Draft → List Char → Option Fields
  | 0, _, _ => none
  | fuel + 1, d, cs =>
    match skipFiller cs with
    | [] => some d.fields
    | cs =>
      match readLine? d cs with
      | none => none
      | some (d, rest) => readLines? fuel d rest

/-- Read a text, which may start with a byte order mark. Each line takes at least a character, so
the length of the text is fuel enough. -/
def read? (text : String) : Option Toml :=
  let cs := match text.toList with
    | '\uFEFF' :: cs => cs
    | cs => cs
  (readLines? (cs.length + 1) ⟨[], []⟩ cs).map (.table .header)

end PatchTrial.Toml
