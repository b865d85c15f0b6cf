import PatchTrial.Sorted

/-!
JSON values.

Numbers keep the kind they were written with, because whole numbers and fractions decode into
different fields. An object holds its fields as they were written, repeated keys included;
`Json.canonical` sorts them and keeps the last value of each key.
-/
namespace PatchTrial

/-- A JSON number: a natural number below 2 ^ 64, a negative one from -2 ^ 63 on, or a
floating-point number of either width. Only written numbers have single width. -/
inductive Json.Number where
  | natural (n : UInt64)
  | negative (n : Int64)
  | double (x : Float)
  | single (x : Float32)
  deriving BEq, DecidableEq

inductive Json where
  /-- A part of a text that follows the grammar but stands for no value: a number out of range, half
  a surrogate pair, or what is nested too deeply. It may be passed over, but not used. -/
  | unusable
  | null
  | bool (b : Bool)
  | number (n : Json.Number)
  | string (s : String)
  | array (items : List Json)
  | object (fields : List (String × Json))
  deriving BEq, Inhabited

namespace Json

def nat (n : Nat) : Json := .number (.natural (UInt64.ofNat n))

/-- A whole number in the range of 64-bit words. -/
def int (n : Int) : Json :=
  if n < 0 then .number (.negative (Int64.ofInt n)) else nat n.toNat

def double (x : Float) : Json := .number (.double x)

def single (x : Float32) : Json := .number (.single x)

def strings (ss : List String) : Json := .array (ss.map .string)

/-- A value that may be absent. -/
def orNull {α : Type} (f : α → Json) : Option α → Json
  | none => .null
  | some x => f x

/-- The value of a field, the last one if it is repeated. -/
def field? (name : String) : Json → Option Json
  | .object fields => fields.reverse.lookup name
  | _ => none

mutual
/-- Whether a value can be used with all its parts. -/
def isUsable : Json → Bool
  | .unusable => false
  | .array items => areUsable items
  | .object fields => haveUsable fields
  | _ => true

def areUsable : List Json → Bool
  | [] => true
  | j :: js => isUsable j && areUsable js

def haveUsable : List (String × Json) → Bool
  | [] => true
  | (_, j) :: rest => isUsable j && haveUsable rest
end

mutual
/-- Fields sorted by key at every level, the last value of a repeated key kept. -/
def canonical : Json → Json
  | .array items => .array (canonicalItems items)
  | .object fields => .object (canonicalFields [] fields)
  | j => j

def canonicalItems : List Json → List Json
  | [] => []
  | j :: js => canonical j :: canonicalItems js

def canonicalFields (done : List (String × Json)) : List (String × Json) → List (String × Json)
  | [] => done
  | (k, j) :: rest => canonicalFields (putSorted k (canonical j) done) rest
end

end Json

end PatchTrial
