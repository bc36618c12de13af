/-!
# JSON values

A value as the reader builds it. A number keeps the kind it was read as: a natural number that
fits 64 bits, a negative integer that fits 64 signed bits, or a binary64 value for everything
else (a fraction, an exponent, or an integer beyond those ranges). An object keeps its members
sorted by key, each key once: a key written twice keeps the value written last.
-/

namespace OpcodeTable.Json

/-- A number, in the kind it was read as. -/
inductive Number where
  /-- A non-negative integer below `2 ^ 64`. -/
  | nat (n : Nat)
  /-- A negative integer of at least `-2 ^ 63`. -/
  | neg (n : Int)
  /-- A binary64 value. -/
  | float (x : Float)
deriving Inhabited

/-- A JSON value. -/
inductive Value where
  | null
  | bool (b : Bool)
  | number (n : Number)
  | string (s : String)
  | array (items : List Value)
  /-- Members sorted by key, keys distinct. -/
  | object (members : List (String × Value))
deriving Inhabited

/-- Members sorted by key, keys distinct. -/
abbrev Members := List (String × Value)

namespace Members

/-- Puts a member in its place by key, replacing the value of a member with the same key. -/
def insert (key : String) (v : Value) : Members → Members
  | [] => [(key, v)]
  | (k, w) :: rest =>
    if key < k then (key, v) :: (k, w) :: rest
    else if key = k then (key, v) :: rest
    else (k, w) :: insert key v rest

/-- Members built from pairs in the order they were written: a later key wins. -/
def ofPairs (pairs : List (String × Value)) : Members :=
  pairs.foldl (fun ms (k, v) => insert k v ms) []

/-- The value of a key. -/
def get? (ms : Members) (key : String) : Option Value :=
  (ms.find? (·.1 == key)).map (·.2)

end Members

/-- The value of a key, if `v` is an object that has it. -/
def Value.get? (v : Value) (key : String) : Option Value :=
  match v with
  | .object ms => Members.get? ms key
  | _ => none

end OpcodeTable.Json
