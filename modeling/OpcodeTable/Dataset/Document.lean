import OpcodeTable.Json.Reader
import OpcodeTable.Json.Skip
/-!
# The dataset document

A dataset document is a record with one optional field, `cbprefixed`, the opcode table: an
object from opcode codes to entries. The record may also be written as an array holding just
the table. Other fields are checked and passed over, without any limit on their nesting.

The reader gives the members of the opcode table as the document writes them, in order, a code
written twice coming twice; its values are read as JSON values, under the nesting limit that
counts from the top of the document. The table itself keeps its codes in the order they first
appear, and a code written twice keeps its first place and takes the value written last
(`Table.put`, `Table.ofMembers`).

A fault found after a field was read, such as a second `cbprefixed`, is reported where the
reader stands once it has looked for the end of the record.
-/

namespace OpcodeTable

open Json

/-- The opcode table as the document gives it: each code once, in the order of first appearance. -/
abbrev Table := List (String × Value)

namespace Table

/-- Sets the value of a code: in its place if the code is there, at the end otherwise. -/
def put (t : Table) (code : String) (v : Value) : Table :=
  if t.any (·.1 == code) then t.map fun (k, w) => (k, if k == code then v else w)
  else t ++ [(code, v)]

/-- The table of the members of an object, set one after another in the order written. -/
def ofMembers (ms : List (String × Value)) : Table :=
  ms.foldl (fun t m => t.put m.1 m.2) []

end Table

/-- The key of the opcode table in a document. -/
def tableKey : String := "cbprefixed"

/-- The record name of a document, in messages. -/
def documentName : String := "RawTables"

/-- The fault of a value of the wrong kind at the cursor, where `expected` was wanted. The value
is read first, so a fault inside it comes first. -/
def Json.Cursor.wrongKind (c : Cursor) (expected : Expected) : ReadError :=
  let found (r : Except ReadError (Unexpected × Cursor)) : ReadError :=
    match r with
    | .ok (u, c) => c.reject (.invalidType u expected)
    | .error e => e
  match c.peek? with
  | some 110 => found ((c.advance.expectWord [117, 108, 108]).map (.null, ·))
  | some 116 => found ((c.advance.expectWord [114, 117, 101]).map (.bool true, ·))
  | some 102 => found ((c.advance.expectWord [97, 108, 115, 101]).map (.bool false, ·))
  | some 45 => found ((c.advance.readNumber false).map fun (n, c) => (n.unexpected, c))
  | some 34 => found (c.advance.readString.map fun (s, c) => (.string s, c))
  | some 91 => c.reject (.invalidType .sequence expected)
  | some 123 => c.reject (.invalidType .map expected)
  | some b =>
    if isDigitByte b then found ((c.readNumber true).map fun (n, c) => (n.unexpected, c))
    else c.failNext .expectedValue
  | none => c.failNext .expectedValue

/-- Reads the members of the opcode table up to and past its closing brace, as `readMembers`
does for an object, and gives them in the order written; `acc` holds those read so far, the
last first. -/
def readCodes (depth : Nat) (c : Cursor) (acc : List (String × Value)) (first : Bool) :
    Nat → Except ReadError (List (String × Value) × Cursor)
  | 0 => .error (c.skipBlank.failNext .eofInObject)
  | fuel + 1 =>
    match c.nextKey first with
    | .error e => .error e
    | .ok none => .ok (acc.reverse, c.skipBlank.advance)
    | .ok (some c) =>
      match c.readKey with
      | .error e => .error e
      | .ok (k, c) =>
        match c.readValue depth with
        | .error e => .error e
        | .ok (v, c) => readCodes depth c ((k, v) :: acc) false fuel

/-- Reads the value of the `cbprefixed` field: `null`, or the members of the opcode table. -/
def readTableField (depth : Nat) (c : Cursor) :
    Except ReadError (Option (List (String × Value)) × Cursor) :=
  let c := c.skipBlank
  match c.peek? with
  | some 110 => (c.advance.expectWord [117, 108, 108]).map (none, ·)
  | none => .error (c.failNext .eofInValue)
  | some 123 =>
    match depth with
    | d + 2 => (readCodes (d + 1) c.advance [] true c.advance.rest.length).map
        fun (t, c) => (some t, c)
    | _ => .error (c.failNext .recursionLimit)
  | some _ => .error (c.wrongKind .map)

/-- Where the reader stands after looking for the end of an object: past the closing brace if
it is next, otherwise at the first byte after the blanks. -/
def Json.Cursor.pastObjectEnd (c : Cursor) : Cursor :=
  let c := c.skipBlank
  if c.nextIs 125 then c.advance else c

/-- Reads the fields of the document record up to and past its closing brace; `found` is the
`cbprefixed` field once read. -/
def readFields (depth : Nat) (c : Cursor) (found : Option (Option (List (String × Value))))
    (first : Bool) : Nat → Except ReadError (Option (List (String × Value)) × Cursor)
  | 0 => .error (c.skipBlank.failNext .eofInObject)
  | fuel + 1 =>
    match c.nextKey first with
    | .error e => .error e
    | .ok none => .ok (found.getD none, c.skipBlank.advance)
    | .ok (some c) =>
      match c.advance.readString with
      | .error e => .error e
      | .ok (k, c) =>
        if k == tableKey then
          if found.isSome then .error (c.pastObjectEnd.reject (.duplicateField tableKey))
          else
            match c.expectColon with
            | .error e => .error e
            | .ok c =>
              match readTableField depth c with
              | .error e => .error e
              | .ok (t, c) => readFields depth c (some t) false fuel
        else
          match c.expectColon with
          | .error e => .error e
          | .ok c =>
            match c.skipValue with
            | .error e => .error e
            | .ok c => readFields depth c found false fuel

/-- Reads the array form of the document record: exactly one item, the `cbprefixed` field. -/
def readItemsForm (depth : Nat) (c : Cursor) :
    Except ReadError (Option (List (String × Value)) × Cursor) := do
  let c := c.skipBlank
  match c.peek? with
  | none => throw (c.failNext .eofInList)
  | some 93 => throw (c.advance.reject (.invalidLength 0 (.recordItems documentName 1)))
  | some _ =>
    let (t, c) ← readTableField depth c
    let c := c.skipBlank
    match c.peek? with
    | some 93 => return (t, c.advance)
    | some 44 =>
      let c := c.advance.skipBlank
      if c.nextIs 93 then throw (c.failNext .trailingComma)
      else throw (c.failNext .trailingCharacters)
    | some _ => throw (c.failNext .trailingCharacters)
    | none => throw (c.failNext .eofInList)

/-- Reads a dataset document: the members of the opcode table as written, or `none` when the
document has none (the field is missing or `null`). Only blanks may follow the document. -/
def readDocument (text : String) : Except ReadError (Option (List (String × Value))) := do
  let c := (Cursor.ofString text).skipBlank
  let (t, c) ← match c.peek? with
    | none => throw (c.failNext .eofInValue)
    | some 91 => readItemsForm (nestingLimit - 1) c.advance
    | some 123 => readFields (nestingLimit - 1) c.advance none true c.advance.rest.length
    | some _ => throw (c.wrongKind (.record documentName))
  let c := c.skipBlank
  if c.rest.isEmpty then return t else throw (c.failNext .trailingCharacters)

end OpcodeTable
