import PatchTrial.Shell.Tools.Files
import PatchTrial.Shell.Tools.System

/-!
Tools that give files to users and groups.

All files belong to the superuser, and nothing tells to whom they were given.
-/
namespace PatchTrial.Shell.Tools

open Quoting (always)

/-- Whether a user or a group is known by a name or a number. -/
def isKnown (names : List String) (name : String) : Bool :=
  name.isEmpty || names.contains name || (natural? name).isSome

/-- What is wrong with a user and a group, written with a colon between them. -/
def ownerFault? (owner : String) : Option String :=
  let (user, group) := owner.toList.span fun c => c != ':' && c != '.'
  let user := String.ofList user
  let group := String.ofList (group.drop 1)
  if !isKnown (users.map (·.name)) user then some s!"invalid user: {Quoting.text owner}"
  else if !isKnown (users.map (·.group)) group then some s!"invalid group: {Quoting.text owner}"
  else none

def giveAway (tool : String) (fault? : String → Option String) : Tool := fun args =>
  withOptions tool
    "R|recursive f|silent|quiet v|verbose c|changes h|no-dereference reference: from: H L P"
    args fun o => do
      match o.value? "reference", o.operands with
      | none, [] => misuse tool "missing operand"
      | none, [owner] => misuse tool s!"missing operand after {Quoting.text owner}"
      | model, operands => do
        let fault := if model.isSome then none else fault? (operands.headD "")
        match fault with
        | some text => fail tool text
        | none =>
          forOperands (if model.isSome then operands else operands.drop 1) fun path => do
            match ← placeOf path with
            | .ok _ => return 0
            | .error e =>
              if o.has "f" then return 1
              else fail tool s!"cannot access {always path}: {e.words}"

def chown : Tool := giveAway "chown" ownerFault?

def chgrp : Tool := giveAway "chgrp" fun group =>
  if isKnown (users.map (·.group)) group then none
  else some s!"invalid group: {Quoting.text group}"

end PatchTrial.Shell.Tools
