/-
  Downlevel — JSON values.

  A number is an integer that fits 64 bits, signed or unsigned, or a
  floating-point number; the two never mix.  An object lists its entries by
  ascending key, as a `Table` does, so that a value has one text.  An `Object`
  is such a table; `Value.ofObject` makes it a value, `Value.field?` looks a
  key up.
-/
import Downlevel.Table

namespace Downlevel.Json

/-- A JSON number. -/
inductive Number where
  | int (n : Int)
  | float (x : Float)
  deriving DecidableEq

/-- A JSON value without parts. -/
inductive Scalar where
  | null
  | bool (b : Bool)
  | num (n : Number)
  | str (s : String)

/-- A JSON value. -/
inductive Value where
  | null
  | bool (b : Bool)
  | num (n : Number)
  | str (s : String)
  | arr (items : List Value)
  | obj (entries : List (String × Value))

/-- A JSON object on its own. -/
abbrev Object : Type := Table Value

namespace Value

/-- A value without parts as a value. -/
def ofScalar : Scalar → Value
  | .null => .null
  | .bool b => .bool b
  | .num n => .num n
  | .str s => .str s

/-- An object as a value. -/
def ofObject (o : Object) : Value := .obj o.entries

/-- The value at a key, if this is an object that has it. -/
def field? (key : String) : Value → Option Value
  | .obj entries => Entries.find? key entries
  | _ => none

mutual

/-- Whether two values are the same. -/
def same : Value → Value → Bool
  | .null, .null => true
  | .bool a, .bool b => a = b
  | .num a, .num b => a = b
  | .str a, .str b => a = b
  | .arr a, .arr b => sameItems a b
  | .obj a, .obj b => sameEntries a b
  | _, _ => false

/-- Whether two arrays have the same items. -/
def sameItems : List Value → List Value → Bool
  | [], [] => true
  | a :: as, b :: bs => same a b && sameItems as bs
  | _, _ => false

/-- Whether two objects have the same entries. -/
def sameEntries : List (String × Value) → List (String × Value) → Bool
  | [], [] => true
  | (k, a) :: as, (l, b) :: bs => k = l && same a b && sameEntries as bs
  | _, _ => false

end

end Value

end Downlevel.Json
