import PatchTrial.Json.Basic

/-!
TOML values, and how a table grows while a text is read.

A table remembers how it came to be, because that decides whether it may be added to: a table with
a header of its own is never opened a second time, and an inline table is closed for good.
-/
namespace PatchTrial

/-- How a table came to be. -/
inductive Toml.Origin where
  /-- By a header of its own. -/
  | header
  /-- As a table on the way to that of a header. -/
  | implied
  /-- By a dotted key. -/
  | dotted
  /-- Between braces. -/
  | inlined
  deriving DecidableEq, Repr

inductive Toml where
  | string (s : String)
  | integer (n : Int)
  | float (x : Float)
  | boolean (b : Bool)
  | datetime (text : String)
  | array (items : List Toml)
  | table (origin : Toml.Origin) (fields : List (String × Toml))
  /-- Tables that were each given by a header in double brackets. -/
  | tables (items : List (List (String × Toml)))
  deriving Inhabited

namespace Toml

abbrev Fields := List (String × Toml)

/-- Put a value in the place of the one at `key`. -/
def replace (key : String) (v : Toml) (fs : Fields) : Fields :=
  fs.map fun f => if f.1 = key then (key, v) else f

/-- Change the table at the end of a path. Tables that are missing on the way are made. A table
that was given by a header is not entered by a dotted key, and of an array of tables the last one
is entered. -/
def alter? (byDottedKey : Bool) (change : Origin → Fields → Option Fields) :
    List String → Origin → Fields → Option Fields
  | [], origin, fs => change origin fs
  | key :: path, _, fs =>
    match fs.lookup key with
    | none => do
      let origin := if byDottedKey then Origin.dotted else Origin.implied
      return fs ++ [(key, .table origin (← alter? byDottedKey change path origin []))]
    | some (.table origin inner) =>
      if origin = .inlined || (byDottedKey && origin = .header) then none
      else do
        return replace key (.table origin (← alter? byDottedKey change path origin inner)) fs
    | some (.tables items) =>
      match items.getLast? with
      | none => none
      | some last => do
        let last ← alter? byDottedKey change path .header last
        return replace key (.tables (items.dropLast ++ [last])) fs
    | some _ => none

/-- Set a new key. A table that was made by a dotted key takes further keys only by dotted keys,
and no other table takes one that way. -/
def setNew? (dotted : Bool) (key : String) (v : Toml) (origin : Origin) (fs : Fields) :
    Option Fields :=
  if dotted != decide (origin = .dotted) || (fs.lookup key).isSome then none
  else some (fs ++ [(key, v)])

/-- Set a value by the parts of its key. -/
def set? (parts : List String) (v : Toml) (origin : Origin) (fs : Fields) : Option Fields :=
  match parts.getLast? with
  | none => none
  | some key =>
    alter? true (setNew? (decide (1 < parts.length)) key v) parts.dropLast origin fs

/-- Open the table of a header. -/
def openTable? (key : String) (_ : Origin) (fs : Fields) : Option Fields :=
  match fs.lookup key with
  | none => some (fs ++ [(key, .table .header [])])
  | some (.table .implied inner) => some (replace key (.table .header inner) fs)
  | some _ => none

/-- Open one more table of an array of tables. -/
def openNext? (key : String) (_ : Origin) (fs : Fields) : Option Fields :=
  match fs.lookup key with
  | none => some (fs ++ [(key, .tables [[]])])
  | some (.tables items) => some (replace key (.tables (items ++ [[]])) fs)
  | some _ => none

mutual
/-- The value as a JSON value. A date or time becomes an object, as no setting is one. -/
def toJson : Toml → Json
  | .string s => .string s
  | .integer n => Json.int n
  | .float x => Json.double x
  | .boolean b => .bool b
  | .datetime text => .object [("datetime", .string text)]
  | .array items => .array (itemsToJson items)
  | .table _ fs => .object (fieldsToJson fs)
  | .tables items => .array (tablesToJson items)

def itemsToJson : List Toml → List Json
  | [] => []
  | v :: vs => v.toJson :: itemsToJson vs

def fieldsToJson : List (String × Toml) → List (String × Json)
  | [] => []
  | (k, v) :: fs => (k, v.toJson) :: fieldsToJson fs

def tablesToJson : List (List (String × Toml)) → List Json
  | [] => []
  | fs :: rest => .object (fieldsToJson fs) :: tablesToJson rest
end

end Toml

end PatchTrial
