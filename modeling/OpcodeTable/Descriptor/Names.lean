import OpcodeTable.Descriptor.Basic
import OpcodeTable.Fault
/-!
# The operand name table

Generated source names each operand by its identifier, and the name enum maps each identifier
back to the dataset's name. That is only possible when every identifier stands for one name.
`Descriptor.nameTable` walks the operands of all descriptors in order and records each
identifier with the name it first stood for; an operand whose identifier already stands for a
different name is the fault.
-/

namespace OpcodeTable

/-- Identifiers with the names they stand for, in order of first appearance. -/
abbrev NameTable := List (String × String)

/-- Every operand of the descriptors, in order, with its descriptor's code and its index. -/
def Descriptor.operandSites (ds : List Descriptor) : List (String × Nat × Operand) :=
  ds.flatMap fun d => (d.operands.zipIdx).map fun (o, i) => (d.code, i, o)

/-- Records the identifier of an operand, or the fault of a clash. -/
def NameTable.add (t : NameTable) (site : String × Nat × Operand) : Except Fault NameTable :=
  let (code, i, o) := site
  match t.lookup o.ident with
  | some seen =>
    if seen = o.name then .ok t else .error (.malformed (.nameClash code i o.name o.ident seen))
  | none => .ok (t ++ [(o.ident, o.name)])

/-- The identifiers of all operands with the names they stand for, in order of first appearance. -/
def Descriptor.nameTable (ds : List Descriptor) : Except Fault NameTable :=
  (Descriptor.operandSites ds).foldlM NameTable.add []

end OpcodeTable
