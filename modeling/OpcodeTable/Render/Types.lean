import OpcodeTable.Render.Writer
import OpcodeTable.Descriptor.Names
import OpcodeTable.Text.Quoted
/-!
# The types the literals refer to

`Render.types` writes the definitions generated literals need: a fixed prelude (flag effects,
operands, opcodes), then the enum of mnemonics and the enum of operand names. Each enum lists
its identifiers in order of first appearance and maps each back to the name it stands for, as a
quoted string. The operand enum needs every identifier to stand for one name, so writing it can
fail with the clash of `Descriptor.nameTable`.
-/

namespace OpcodeTable.Render

/-- The fixed prelude, line by line. -/
def preludeLines : List String :=
  ["#[derive(Debug, Clone, Copy, PartialEq, Eq)]",
   "pub enum FlagBehavior \x7b",
   "    Unaffected,",
   "    Cleared,",
   "    Set,",
   "    DataDependent,",
   "\x7d",
   "",
   "#[derive(Debug, Clone, Copy, PartialEq, Eq)]",
   "pub struct FlagBehaviors \x7b",
   "    pub z: FlagBehavior,",
   "    pub n: FlagBehavior,",
   "    pub h: FlagBehavior,",
   "    pub c: FlagBehavior,",
   "\x7d",
   "",
   "#[derive(Debug, Clone, Copy, PartialEq, Eq)]",
   "pub struct Operand \x7b",
   "    pub name: OperandName,",
   "    pub immediate: bool,",
   "    pub bytes: Option<u8>,",
   "    pub increment: Option<bool>,",
   "    pub decrement: Option<bool>,",
   "\x7d",
   "",
   "impl Operand \x7b",
   "    pub const fn new(name: OperandName, immediate: bool) -> Self \x7b",
   "        Self \x7b",
   "            name,",
   "            immediate,",
   "            bytes: None,",
   "            increment: None,",
   "            decrement: None,",
   "        \x7d",
   "    \x7d",
   "\x7d",
   "",
   "#[derive(Debug, Clone, Copy, PartialEq, Eq)]",
   "pub struct Opcode \x7b",
   "    pub mnemonic: Mnemonic,",
   "    pub bytes: u8,",
   "    pub cycles: &'static [u8],",
   "    pub operands: &'static [Operand],",
   "    pub immediate: bool,",
   "    pub flags: FlagBehaviors,",
   "\x7d"]

/-- The fixed prelude. -/
def prelude : String :=
  String.join (preludeLines.map (· ++ "\n"))

/-- The steps that write an enum of identifiers, each mapped back to the name it stands for. -/
def nameEnumSteps (name : String) (variants : List (String × String)) : List Step :=
  [.line "#[allow(non_camel_case_types, clippy::upper_case_acronyms)]",
   .line "#[derive(Debug, Clone, Copy, PartialEq, Eq, Hash)]",
   .opening ("pub enum " ++ name ++ " \x7b")] ++
  variants.map (fun (ident, _) => Step.line (ident ++ ",")) ++
  [.closing "\x7d",
   .blank,
   .opening ("impl " ++ name ++ " \x7b"),
   .opening "pub const fn as_str(self) -> &'static str \x7b"] ++
  (match variants with
   | [] => [.line "match self \x7b\x7d"]
   | _ =>
     [.opening "match self \x7b"] ++
     variants.map (fun (ident, text) => Step.line ("Self::" ++ ident ++ " => " ++ Text.quote text ++ ",")) ++
     [.closing "\x7d"]) ++
  [.closing "\x7d",
   .closing "\x7d"]

/-- An enum of identifiers as source. -/
def nameEnum (name : String) (variants : List (String × String)) : String :=
  Writer.text 0 (nameEnumSteps name variants)

/-- The mnemonics of the descriptors, each once, in order of first appearance. -/
def mnemonics (ds : List Descriptor) : List String :=
  (ds.map (·.mnemonic)).eraseDups

/-- The type definitions the literals of `ds` refer to. -/
def types (ds : List Descriptor) : Except Fault String := do
  let names ← Descriptor.nameTable ds
  return prelude ++ "\n" ++ nameEnum "Mnemonic" ((mnemonics ds).map fun m => (m, m)) ++ "\n" ++
    nameEnum "OperandName" names

end OpcodeTable.Render
