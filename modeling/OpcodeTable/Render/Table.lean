import OpcodeTable.Render.Descriptor
import OpcodeTable.Render.Types
import OpcodeTable.Descriptor.OfDataset
/-!
# A table as source

`Render.table` writes descriptors one after another, separated by empty lines. Options may ask
for the type definitions in front, and for the literals to be wrapped in a named constant, one
level deeper:

```
pub const NAME: &[Opcode] = &[
    // 0x00
    Opcode {
    ...
];
```

The name is checked first: one that is no identifier is a fault even when the types would
fail too. `Render.generate` turns a dataset into descriptors first, so a faulty dataset is
reported before a bad name.
-/

namespace OpcodeTable.Render

/-- What a table is written with. -/
structure Options where
  /-- The name of the constant to wrap the literals in, if any. -/
  tableName : Option String
  /-- Whether to write the type definitions first. -/
  withTypes : Bool
deriving Repr, DecidableEq

/-- The steps that write the descriptors, separated by empty lines. -/
def blockSteps : List Descriptor → List Step
  | [] => []
  | d :: ds => Descriptor.steps d ++ ds.flatMap fun d => .blank :: Descriptor.steps d

/-- The opening line of the named constant. -/
def constantHead (name : String) : String :=
  "pub const " ++ name ++ ": &[Opcode] = &[\n"

/-- The closing line of the named constant. -/
def constantTail : String := "];\n"

/-- The descriptors as source. -/
def table (ds : List Descriptor) (o : Options) : Except Fault String := do
  if let some name := o.tableName then
    if !Ident.isValid name then throw (.badTableName name)
  let front ← if o.withTypes then (· ++ "\n") <$> types ds else pure ""
  match o.tableName with
  | some name => return front ++ constantHead name ++ Writer.text 1 (blockSteps ds) ++ constantTail
  | none => return front ++ Writer.text 0 (blockSteps ds)

/-- A dataset as source: its descriptors first, then the table. -/
def generate (d : Dataset) (o : Options) : Except Fault String := do
  let ds ← Descriptor.ofDataset d
  table ds o

end OpcodeTable.Render
