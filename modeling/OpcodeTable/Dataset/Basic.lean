import OpcodeTable.Dataset.Entry
import OpcodeTable.Dataset.Document
import OpcodeTable.Fault
/-!
# Datasets

A dataset is the opcode table of a document with every entry decoded: codes in the order the
document gives them, each once. Loading reads the document (`readDocument`), sets the members of
its opcode table one after another (`Table.ofMembers`), then decodes the entries in order; the
first entry that does not decode is the fault.
-/

namespace OpcodeTable

/-- The opcode table of a dataset: codes in document order, each with its entry. -/
structure Dataset where
  entries : List (String × Entry)
deriving Repr

namespace Dataset

/-- The number of opcodes. -/
def size (d : Dataset) : Nat := d.entries.length

/-- Whether the table has no opcode. -/
def isEmpty (d : Dataset) : Bool := d.entries.isEmpty

/-- The codes, in order. -/
def codes (d : Dataset) : List String := d.entries.map (·.1)

/-- Decodes the entry of one code. -/
def decodeEntry (code : String) (v : Json.Value) : Except Fault (String × Entry) :=
  match Entry.decode v with
  | .ok e => .ok (code, e)
  | .error err => .error (.malformed (.badEntry code err))

/-- Decodes every entry of a table, in order; the first failure is reported with its code. -/
def ofTable (t : Table) : Except Fault Dataset :=
  Dataset.mk <$> t.mapM fun (code, v) => decodeEntry code v

/-- Loads a dataset from its text. -/
def ofText (text : String) : Except Fault Dataset :=
  match readDocument text with
  | .error e => .error (.malformed (.unreadable e))
  | .ok none => .error (.malformed .missingTable)
  | .ok (some ms) => ofTable (Table.ofMembers ms)

/-- Loads a dataset from bytes, which must be UTF-8 text. -/
def ofBytes (bytes : ByteArray) : Except Fault Dataset :=
  match String.fromUTF8? bytes with
  | some text => ofText text
  | none => .error (.malformed .notText)

/-- Loads a dataset from the contents of the file at `path`, as reading it turned out; a file
that is no UTF-8 text cannot be read either. -/
def ofFile (path : String) (contents : Except FileError ByteArray) : Except Fault Dataset :=
  match contents with
  | .error e => .error (.unreadableFile path e)
  | .ok bytes =>
    match String.fromUTF8? bytes with
    | some text => ofText text
    | none => .error (.unreadableFile path .notText)

end Dataset

end OpcodeTable
