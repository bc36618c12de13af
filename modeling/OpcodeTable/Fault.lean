import OpcodeTable.Json.Error
import OpcodeTable.Flag
import OpcodeTable.FileError
/-!
# Faults

Every way loading, checking or rendering a table can fail, one constructor per cause. A
malformed dataset (`Malformation`) names the place in the dataset (`context`) and the reason;
the other faults are a flag symbol that means nothing, a table name that is no identifier, and
a dataset file that cannot be read.
-/

namespace OpcodeTable

/-- What is wrong with a dataset. -/
inductive Malformation where
  /-- The text is not a dataset document. -/
  | unreadable (e : Json.ReadError)
  /-- The bytes of a dataset are not UTF-8 text. -/
  | notText
  /-- The document has no opcode table. -/
  | missingTable
  /-- The entry of an opcode does not decode. -/
  | badEntry (code : String) (e : Json.DecodeError)
  /-- The mnemonic of an opcode is no identifier. -/
  | badMnemonic (code mnemonic : String)
  /-- An opcode is said to take no bytes. -/
  | zeroLength (code : String)
  /-- An opcode has no cycle count, or more than two. -/
  | cycleCount (code : String) (found : Nat)
  /-- An operand name cannot be written as an identifier. -/
  | badOperandName (code : String) (index : Nat) (name : String)
  /-- An operand name is written as an identifier that already stands for another name. -/
  | nameClash (code : String) (index : Nat) (name ident seen : String)

namespace Malformation

/-- The place in the dataset of an operand's name. -/
def operandPlace (code : String) (index : Nat) : String :=
  code ++ ".operands[" ++ toString index ++ "].name"

/-- The place in the dataset that is wrong. -/
def context : Malformation → String
  | unreadable _ | notText | missingTable => "dataset"
  | badEntry code _ => "cbprefixed." ++ code
  | badMnemonic code _ => code ++ ".mnemonic"
  | zeroLength code => code ++ ".bytes"
  | cycleCount code _ => code ++ ".cycles"
  | badOperandName code i _ | nameClash code i .. => operandPlace code i

/-- Why it is wrong. -/
def reason : Malformation → String
  | unreadable e => e.message
  | notText => FileError.notText.message
  | missingTable => "missing `cbprefixed` table"
  | badEntry _ e => e.message
  | badMnemonic _ mnemonic => Text.quote mnemonic ++ " is not a valid identifier"
  | zeroLength _ => "instruction length must be at least one byte"
  | cycleCount _ n => "expected 1 to 2 cycle counts, found " ++ toString n
  | badOperandName _ _ name => Text.quote name ++ " cannot be emitted as an identifier"
  | nameClash _ _ name ident seen =>
    Text.quote name ++ " is emitted as `" ++ ident ++ "`, which already stands for " ++
      Text.quote seen

end Malformation

/-- Why a table could not be loaded, checked or rendered. -/
inductive Fault where
  /-- The dataset is malformed. -/
  | malformed (m : Malformation)
  /-- A flag symbol is none of the spellings of a flag effect. -/
  | badFlagSymbol (code : String) (flag : Flag) (symbol : String)
  /-- The name asked for the table is no identifier. -/
  | badTableName (name : String)
  /-- The dataset file cannot be read. -/
  | unreadableFile (path : String) (cause : FileError)

namespace Fault

/-- The option a table name is given as. -/
def tableNameOption : String := "table_name"

/-- Why a table name cannot be used. -/
def tableNameReason (name : String) : String :=
  Text.quote name ++ " is not a valid identifier"

/-- The text of a fault. -/
def message : Fault → String
  | malformed m => "malformed dataset (" ++ m.context ++ "): " ++ m.reason
  | badFlagSymbol code flag symbol =>
    "unrecognized flag symbol " ++ Text.quote symbol ++ " for flag " ++ flag.name ++
      " in opcode " ++ code
  | badTableName name => "invalid option `" ++ tableNameOption ++ "`: " ++ tableNameReason name
  | unreadableFile path _ => "failed to read dataset from " ++ path

/-- The underlying failure a fault comes from, when it has one of its own. -/
def source? : Fault → Option FileError
  | unreadableFile _ cause => some cause
  | _ => none

end Fault

end OpcodeTable
