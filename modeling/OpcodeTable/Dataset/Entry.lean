import OpcodeTable.Json.Decode
import OpcodeTable.Flag
/-!
# Dataset entries

An entry describes one opcode as the dataset writes it: the mnemonic, the length in bytes, one
or two cycle counts (taken and not taken), the operands, whether the opcode carries an immediate
value, and a symbol per flag. Each part decodes as a record (`Json.Shape`); the names `RawEntry`,
`RawOperand` and `RawFlags` are how messages call these records.
-/

namespace OpcodeTable

open Json

/-- An operand of an entry. -/
structure EntryOperand where
  name : String
  immediate : Bool
  /-- The number of bytes of an immediate operand. -/
  bytes : Option UInt8
  /-- Whether a register operand is incremented after use. -/
  increment : Option Bool
  /-- Whether a register operand is decremented after use. -/
  decrement : Option Bool
deriving Repr, DecidableEq

/-- The symbols an entry gives the flags, in the order zero, subtract, half-carry, carry. -/
structure FlagSymbols where
  z : String
  n : String
  h : String
  c : String
deriving Repr, DecidableEq

/-- One opcode as the dataset describes it. -/
structure Entry where
  mnemonic : String
  bytes : UInt8
  cycles : List UInt8
  operands : List EntryOperand
  immediate : Bool
  flags : FlagSymbols
deriving Repr, DecidableEq

namespace EntryOperand

/-- The record shape of an operand. -/
def shape : Shape :=
  { name := "RawOperand"
    fields := [("name", Decode.failure? Decode.string),
               ("immediate", Decode.failure? Decode.bool),
               ("bytes", Decode.failure? (Decode.option Decode.byte)),
               ("increment", Decode.failure? (Decode.option Decode.bool)),
               ("decrement", Decode.failure? (Decode.option Decode.bool))] }

/-- Decodes an operand. -/
def decode : Value → Except DecodeError EntryOperand :=
  shape.decode do
    let name ← shape.required "name" Decode.string
    let immediate ← shape.required "immediate" Decode.bool
    let bytes ← Shape.optional "bytes" Decode.byte
    let increment ← Shape.optional "increment" Decode.bool
    let decrement ← Shape.optional "decrement" Decode.bool
    return { name, immediate, bytes, increment, decrement }

end EntryOperand

namespace FlagSymbols

/-- The record shape of the flag symbols. -/
def shape : Shape :=
  { name := "RawFlags"
    fields := [("Z", Decode.failure? Decode.string), ("N", Decode.failure? Decode.string),
               ("H", Decode.failure? Decode.string), ("C", Decode.failure? Decode.string)] }

/-- Decodes the flag symbols. -/
def decode : Value → Except DecodeError FlagSymbols :=
  shape.decode do
    let z ← shape.required "Z" Decode.string
    let n ← shape.required "N" Decode.string
    let h ← shape.required "H" Decode.string
    let c ← shape.required "C" Decode.string
    return { z, n, h, c }

/-- The symbol of one flag. -/
def get (s : FlagSymbols) : Flag → String
  | .z => s.z
  | .n => s.n
  | .h => s.h
  | .c => s.c

end FlagSymbols

namespace Entry

/-- The record shape of an entry. -/
def shape : Shape :=
  { name := "RawEntry"
    fields := [("mnemonic", Decode.failure? Decode.string),
               ("bytes", Decode.failure? Decode.byte),
               ("cycles", Decode.failure? (Decode.list Decode.byte)),
               ("operands", Decode.failure? (Decode.list EntryOperand.decode)),
               ("immediate", Decode.failure? Decode.bool),
               ("flags", Decode.failure? FlagSymbols.decode)] }

/-- Decodes an entry. -/
def decode : Value → Except DecodeError Entry :=
  shape.decode do
    let mnemonic ← shape.required "mnemonic" Decode.string
    let bytes ← shape.required "bytes" Decode.byte
    let cycles ← shape.required "cycles" (Decode.list Decode.byte)
    let operands ← shape.required "operands" (Decode.list EntryOperand.decode)
    let immediate ← shape.required "immediate" Decode.bool
    let flags ← shape.required "flags" FlagSymbols.decode
    return { mnemonic, bytes, cycles, operands, immediate, flags }

end Entry

end OpcodeTable
