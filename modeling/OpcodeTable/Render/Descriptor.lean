import OpcodeTable.Render.Writer
import OpcodeTable.Descriptor.Basic
/-!
# A descriptor as source

A descriptor is written as a comment with its code, followed by a struct literal:

```
// 0x00
Opcode {
    mnemonic: Mnemonic::RLC,
    bytes: 2,
    cycles: &[8],
    operands: &[
        Operand::new(OperandName::B, true),
    ],
    immediate: true,
    flags: FlagBehaviors {
        z: FlagBehavior::DataDependent,
        n: FlagBehavior::Cleared,
        h: FlagBehavior::Cleared,
        c: FlagBehavior::DataDependent,
    },
},
```

An operand with attributes is written as a struct update that lists the attributes it has, in
the order `bytes`, `increment`, `decrement`. Nothing is checked here: any strings and numbers
are written as they are.
-/

namespace OpcodeTable.Render

/-- Numbers separated by commas. -/
def joinNumbers (ns : List UInt8) : String :=
  ", ".intercalate (ns.map fun n => toString n.toNat)

/-- The constructor call of an operand without its attributes. -/
def operandBase (o : Operand) : String :=
  "Operand::new(OperandName::" ++ o.ident ++ ", " ++ toString o.immediate ++ ")"

/-- The attribute lines of an operand, in the order bytes, increment, decrement. -/
def attributeLines (o : Operand) : List Step :=
  (o.bytes.toList.map fun b => Step.line ("bytes: Some(" ++ toString b.toNat ++ "),")) ++
  (o.increment.toList.map fun b => Step.line ("increment: Some(" ++ toString b ++ "),")) ++
  (o.decrement.toList.map fun b => Step.line ("decrement: Some(" ++ toString b ++ "),"))

/-- The steps that write an operand. -/
def operandSteps (o : Operand) : List Step :=
  if o.hasAttributes then
    [.opening "Operand \x7b"] ++ attributeLines o ++
      [.line (".." ++ operandBase o), .closing "\x7d,"]
  else [.line (operandBase o ++ ",")]

/-- The steps that write the flag effects. -/
def flagSteps (e : FlagEffects) : List Step :=
  [.opening "flags: FlagBehaviors \x7b"] ++
  ([("z", e.z), ("n", e.n), ("h", e.h), ("c", e.c)].map fun (field, effect) =>
    Step.line (field ++ ": FlagBehavior::" ++ effect.name ++ ",")) ++
  [.closing "\x7d,"]

/-- The steps that write the operand list. -/
def operandListSteps (os : List Operand) : List Step :=
  match os with
  | [] => [.line "operands: &[],"]
  | _ => [.opening "operands: &["] ++ os.flatMap operandSteps ++ [.closing "],"]

/-- The steps that write a descriptor. -/
def Descriptor.steps (d : Descriptor) : List Step :=
  [.line ("// " ++ d.code),
   .opening "Opcode \x7b",
   .line ("mnemonic: Mnemonic::" ++ d.mnemonic ++ ","),
   .line ("bytes: " ++ toString d.byteLength.toNat ++ ","),
   .line ("cycles: &[" ++ joinNumbers d.cycleCounts ++ "],")] ++
  operandListSteps d.operands ++
  [.line ("immediate: " ++ toString d.isImmediate ++ ",")] ++
  flagSteps d.flagEffects ++
  [.closing "\x7d,"]

/-- A descriptor as source, at the top level. -/
def Descriptor.render (d : Descriptor) : String :=
  Writer.text 0 (Descriptor.steps d)

end OpcodeTable.Render
