import OpcodeTable.Flag
/-!
# Descriptors

A descriptor is an opcode ready to be written as source: its code, a mnemonic that is an
identifier, its length, one or two cycle counts, its operands each with the identifier it is
written as, whether it carries an immediate value, and what it does to each flag.
-/

namespace OpcodeTable

/-- An operand of a descriptor. -/
structure Operand where
  /-- The name the dataset gives the operand. -/
  name : String
  /-- The identifier the name is written as. -/
  ident : String
  immediate : Bool
  bytes : Option UInt8
  increment : Option Bool
  decrement : Option Bool
deriving Repr, DecidableEq

/-- Whether an operand has any of the optional attributes. -/
def Operand.hasAttributes (o : Operand) : Bool :=
  o.bytes.isSome || o.increment.isSome || o.decrement.isSome

/-- An opcode ready to be written as source. -/
structure Descriptor where
  code : String
  mnemonic : String
  byteLength : UInt8
  cycleCounts : List UInt8
  operands : List Operand
  isImmediate : Bool
  flagEffects : FlagEffects
deriving Repr, DecidableEq

end OpcodeTable
