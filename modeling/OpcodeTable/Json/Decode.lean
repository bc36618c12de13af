import OpcodeTable.Json.Error
/-!
# Decoding values into records

A record (a fixed set of named fields) can be written as an object or as an array of its fields
in declaration order.

* From an object, members are checked in key order, so of two wrong fields the one whose key
  sorts first is reported; members with other keys are ignored; then missing fields are
  reported in declaration order, and a missing optional field is `none`.
* From an array, items are taken in declaration order. A missing required field is an array of
  the wrong length, while optional fields may be left off the end. More items than fields is an
  error too.

A field's decoder runs inside `RecordM`, which hands out the fields one by one.
-/

namespace OpcodeTable.Json

namespace Decode

/-- An integer from 0 to 255. -/
def byte : Value → Except DecodeError UInt8
  | .number (.nat n) => if n ≤ 255 then .ok n.toUInt8 else .error (.invalidValue (.unsigned n) .byte)
  | .number (.neg n) => .error (.invalidValue (.signed n) .byte)
  | v => .error (.invalidType v.unexpected .byte)

/-- A boolean. -/
def bool : Value → Except DecodeError Bool
  | .bool b => .ok b
  | v => .error (.invalidType v.unexpected .boolean)

/-- A string. -/
def string : Value → Except DecodeError String
  | .string s => .ok s
  | v => .error (.invalidType v.unexpected .string)

/-- An array, each item decoded by `item`; the first failing item is reported. -/
def list (item : Value → Except DecodeError α) : Value → Except DecodeError (List α)
  | .array vs => vs.mapM item
  | v => .error (.invalidType v.unexpected .sequence)

/-- A value that may be `null`. -/
def option (d : Value → Except DecodeError α) : Value → Except DecodeError (Option α)
  | .null => .ok none
  | v => some <$> d v

/-- The failure of a decoder on a value, if it fails. -/
def failure? (d : Value → Except DecodeError α) (v : Value) : Option DecodeError :=
  match d v with
  | .ok _ => none
  | .error e => some e

end Decode

/-- A record's name in messages, and its fields in declaration order, each with the check a
present value must pass. -/
structure Shape where
  name : String
  fields : List (String × (Value → Option DecodeError))

/-- The fields of a record not handed out yet: the members of an object, or the items of an
array after the first `taken`. -/
inductive Fields where
  | named (members : Members)
  | positional (taken : Nat) (items : List Value)

/-- A decoder of a record's fields. -/
abbrev RecordM := StateT Fields (Except DecodeError)

namespace Shape

/-- A required field: the member with the key, or the next item. -/
def required (shape : Shape) (key : String) (d : Value → Except DecodeError α) : RecordM α := do
  match (← get) with
  | .named ms =>
    match Members.get? ms key with
    | some v => d v
    | none => throw (.missingField key)
  | .positional n (v :: vs) =>
    set (Fields.positional (n + 1) vs)
    d v
  | .positional n [] => throw (.invalidLength n (.recordItems shape.name shape.fields.length))

/-- An optional field: as `required`, but a missing one is `none`, and so is `null`. -/
def optional (key : String) (d : Value → Except DecodeError α) : RecordM (Option α) := do
  match (← get) with
  | .named ms =>
    match Members.get? ms key with
    | some v => Decode.option d v
    | none => return none
  | .positional n (v :: vs) =>
    set (Fields.positional (n + 1) vs)
    Decode.option d v
  | .positional _ [] => return none

/-- The first failing check among the members, in key order. -/
def firstFailure (shape : Shape) (ms : Members) : Option DecodeError :=
  ms.findSome? fun (k, v) =>
    match shape.fields.find? (·.1 == k) with
    | some (_, check) => check v
    | none => none

/-- Decodes a record from an object or an array with `build`. -/
def decode (shape : Shape) (build : RecordM α) : Value → Except DecodeError α
  | .object ms =>
    match shape.firstFailure ms with
    | some e => .error e
    | none => (build.run' (.named ms))
  | .array vs => do
    let r ← build.run' (.positional 0 vs)
    if vs.length > shape.fields.length then throw (.invalidLength vs.length .fewerItems)
    return r
  | v => .error (.invalidType v.unexpected (.record shape.name))

end Shape

end OpcodeTable.Json
