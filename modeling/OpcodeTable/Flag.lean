/-!
# Flags and what an instruction does to them

The processor has four flags, zero, subtract, half-carry and carry, written `Z`, `N`, `H`, `C`.
The dataset gives, per flag, a symbol for what an instruction does to it: `-` leaves it, `0`
clears it, `1` sets it, and the flag's own letter means it depends on the result.
-/

namespace OpcodeTable

/-- One of the four flags. -/
inductive Flag where
  | z
  | n
  | h
  | c
deriving Repr, DecidableEq, Inhabited

namespace Flag

/-- The four flags in the order the dataset and the output list them. -/
def all : List Flag := [z, n, h, c]

/-- The letter that names the flag. -/
def letter : Flag → Char
  | z => 'Z'
  | n => 'N'
  | h => 'H'
  | c => 'C'

/-- The letter of the flag, as text. -/
def name (f : Flag) : String := String.singleton f.letter

/-- The flag a letter names. -/
def ofLetter? : Char → Option Flag
  | 'Z' => some z
  | 'N' => some n
  | 'H' => some h
  | 'C' => some c
  | _ => none

theorem ofLetter?_letter (f : Flag) : ofLetter? f.letter = some f := by
  cases f <;> rfl

end Flag

/-- What an instruction does to one flag. -/
inductive FlagEffect where
  /-- The flag keeps its value. -/
  | unaffected
  /-- The flag is cleared. -/
  | cleared
  /-- The flag is set. -/
  | set
  /-- The flag takes a value computed from the result. -/
  | dataDependent
deriving Repr, DecidableEq, Inhabited

namespace FlagEffect

/-- The name of the effect in generated source. -/
def name : FlagEffect → String
  | unaffected => "Unaffected"
  | cleared => "Cleared"
  | set => "Set"
  | dataDependent => "DataDependent"

/-- The effect a name stands for. -/
def ofName? : String → Option FlagEffect
  | "Unaffected" => some unaffected
  | "Cleared" => some cleared
  | "Set" => some set
  | "DataDependent" => some dataDependent
  | _ => none

theorem ofName?_name (e : FlagEffect) : ofName? e.name = some e := by
  cases e <;> rfl

end FlagEffect

/-- What an instruction does to each of the four flags. -/
structure FlagEffects where
  z : FlagEffect
  n : FlagEffect
  h : FlagEffect
  c : FlagEffect
deriving Repr, DecidableEq, Inhabited

/-- The effect on one flag. -/
def FlagEffects.get (e : FlagEffects) : Flag → FlagEffect
  | .z => e.z
  | .n => e.n
  | .h => e.h
  | .c => e.c

/-- The effect a dataset symbol gives to flag `f`, if the symbol is one of the four spellings:
`-`, `0`, `1` or the flag's own letter alone. -/
def Flag.effectOf? (f : Flag) (symbol : String) : Option FlagEffect :=
  if symbol = "-" then some .unaffected
  else if symbol = "0" then some .cleared
  else if symbol = "1" then some .set
  else if symbol = f.name then some .dataDependent
  else none

example : Flag.c.effectOf? "C" = some .dataDependent ∧ Flag.z.effectOf? "C" = none := by decide

end OpcodeTable
