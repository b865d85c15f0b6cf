/-!
Sets of characters, written as ranges and as classes that go by a name.

The classes know ASCII only.
-/
namespace PatchTrial

/-- The names of the classes. -/
def charClasses : List String :=
  ["alpha", "digit", "alnum", "upper", "lower", "space", "blank", "punct", "xdigit", "print",
    "graph", "cntrl"]

/-- Whether a character is in a class. -/
def inCharClass (name : String) (c : Char) : Bool :=
  match name with
  | "alpha" => c.isAlpha
  | "digit" => c.isDigit
  | "alnum" => c.isAlphanum
  | "upper" => c.isUpper
  | "lower" => c.isLower
  | "space" => c == ' ' || (9 ≤ c.toNat && c.toNat ≤ 13)
  | "blank" => c == ' ' || c == '\t'
  | "punct" => 33 ≤ c.toNat && c.toNat ≤ 126 && !c.isAlphanum
  | "xdigit" => c.isDigit || ('a' ≤ c && c ≤ 'f') || ('A' ≤ c && c ≤ 'F')
  | "print" => 32 ≤ c.toNat && c.toNat ≤ 126
  | "graph" => 33 ≤ c.toNat && c.toNat ≤ 126
  | "cntrl" => c.toNat < 32 || c.toNat = 127
  | _ => false

/-- One member of a set. -/
inductive SetItem where
  | range (first last : Char)
  | named (name : String)
  deriving DecidableEq, Repr

def SetItem.has (i : SetItem) (c : Char) : Bool :=
  match i with
  | .range a b => a ≤ c && c ≤ b
  | .named name => inCharClass name c

end PatchTrial
