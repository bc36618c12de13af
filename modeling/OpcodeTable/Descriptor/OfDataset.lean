import OpcodeTable.Descriptor.OfEntry
import OpcodeTable.Descriptor.Names
import OpcodeTable.Dataset.Basic
/-!
# From a dataset to descriptors

`Descriptor.ofDataset` checks every entry in order, and only when all pass checks that every
operand identifier stands for one name: a faulty entry anywhere is reported before a clash.
-/

namespace OpcodeTable

/-- The descriptors of all entries, in order. -/
def Descriptor.ofEntries (entries : List (String × Entry)) : Except Fault (List Descriptor) :=
  entries.mapM fun (code, e) => Descriptor.ofEntry code e

/-- The descriptors of a dataset, in order, once every entry passes and the operand names
agree. -/
def Descriptor.ofDataset (d : Dataset) : Except Fault (List Descriptor) := do
  let ds ← Descriptor.ofEntries d.entries
  let _ ← Descriptor.nameTable ds
  return ds

end OpcodeTable
