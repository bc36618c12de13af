import OpcodeTable.Descriptor.Basic
import OpcodeTable.Dataset.Entry
import OpcodeTable.Ident
import OpcodeTable.Fault
/-!
# From entries to descriptors

`Descriptor.ofEntry code e` checks an entry and turns it into a descriptor. The checks run in
this order, and the first that fails is the fault:

1. the mnemonic is an identifier;
2. the length is not zero;
3. there are one or two cycle counts;
4. each operand name, in order, gives an identifier (`Ident.ofOperandName`);
5. each flag symbol, in the order `Z`, `N`, `H`, `C`, spells a flag effect.
-/

namespace OpcodeTable

/-- The effect a symbol gives to a flag, or the fault of a symbol that spells none. -/
def Flag.effect (code : String) (f : Flag) (symbol : String) : Except Fault FlagEffect :=
  match f.effectOf? symbol with
  | some e => .ok e
  | none => .error (.badFlagSymbol code f symbol)

/-- The effects of the four symbols, checked in the order `Z`, `N`, `H`, `C`. -/
def FlagSymbols.effects (code : String) (s : FlagSymbols) : Except Fault FlagEffects := do
  let z ← Flag.z.effect code s.z
  let n ← Flag.n.effect code s.n
  let h ← Flag.h.effect code s.h
  let c ← Flag.c.effect code s.c
  return { z, n, h, c }

/-- The descriptor of operand `index` of the opcode `code`. -/
def Operand.ofEntry (code : String) (index : Nat) (o : EntryOperand) : Except Fault Operand :=
  let ident := Ident.ofOperandName o.name
  if Ident.isValid ident then
    .ok { name := o.name, ident, immediate := o.immediate, bytes := o.bytes,
          increment := o.increment, decrement := o.decrement }
  else .error (.malformed (.badOperandName code index o.name))

/-- The descriptors of a list of operands, the first at `index`. -/
def Operand.ofEntries (code : String) : Nat → List EntryOperand → Except Fault (List Operand)
  | _, [] => .ok []
  | index, o :: os => do
    let d ← Operand.ofEntry code index o
    let ds ← Operand.ofEntries code (index + 1) os
    return d :: ds

/-- The most cycle counts an opcode may have: taken and not taken. -/
def maxCycleCounts : Nat := 2

/-- Checks the entry of the opcode `code` and turns it into a descriptor. -/
def Descriptor.ofEntry (code : String) (e : Entry) : Except Fault Descriptor := do
  if !Ident.isValid e.mnemonic then throw (.malformed (.badMnemonic code e.mnemonic))
  if e.bytes = 0 then throw (.malformed (.zeroLength code))
  if e.cycles.isEmpty || e.cycles.length > maxCycleCounts then
    throw (.malformed (.cycleCount code e.cycles.length))
  let operands ← Operand.ofEntries code 0 e.operands
  let flagEffects ← e.flags.effects code
  return { code, mnemonic := e.mnemonic, byteLength := e.bytes, cycleCounts := e.cycles,
           operands, isImmediate := e.immediate, flagEffects }

end OpcodeTable
