import OpcodeTable.Json.Value
import OpcodeTable.Text.Quoted
import OpcodeTable.Decimal.Text
/-!
# What can go wrong when reading JSON

Reading text can fail on the text itself (`TextError`), and turning a value into a record can
fail on the value (`DecodeError`): a value of the wrong kind, a number out of range, an array
of the wrong length, a missing or repeated field. A failure while reading a whole text is a
`ReadError`, which carries the line and column where it was found.

The messages say what was found and what was expected. A fraction in a message is written with
its shortest digits (`Unexpected.floatLayout`).
-/

namespace OpcodeTable.Json

/-- A fault in the text. -/
inductive TextError where
  | eofInList
  | eofInObject
  | eofInString
  | eofInValue
  | expectedColon
  | expectedListCommaOrEnd
  | expectedObjectCommaOrEnd
  | expectedIdent
  | expectedValue
  | invalidEscape
  | invalidNumber
  | numberOutOfRange
  | controlCharacter
  | keyMustBeString
  | loneLeadingSurrogate
  | trailingComma
  | trailingCharacters
  | unexpectedEndOfHexEscape
  | recursionLimit
deriving Repr, DecidableEq

/-- The message of a fault in the text. -/
def TextError.message : TextError → String
  | .eofInList => "EOF while parsing a list"
  | .eofInObject => "EOF while parsing an object"
  | .eofInString => "EOF while parsing a string"
  | .eofInValue => "EOF while parsing a value"
  | .expectedColon => "expected `:`"
  | .expectedListCommaOrEnd => "expected `,` or `]`"
  | .expectedObjectCommaOrEnd => "expected `,` or `\x7d`"
  | .expectedIdent => "expected ident"
  | .expectedValue => "expected value"
  | .invalidEscape => "invalid escape"
  | .invalidNumber => "invalid number"
  | .numberOutOfRange => "number out of range"
  | .controlCharacter => "control character (\\u0000-\\u001F) found while parsing a string"
  | .keyMustBeString => "key must be a string"
  | .loneLeadingSurrogate => "lone leading surrogate in hex escape"
  | .trailingComma => "trailing comma"
  | .trailingCharacters => "trailing characters"
  | .unexpectedEndOfHexEscape => "unexpected end of hex escape"
  | .recursionLimit => "recursion limit exceeded"

/-- What was found where something else was expected. -/
inductive Unexpected where
  | null
  | bool (b : Bool)
  | unsigned (n : Nat)
  | signed (n : Int)
  | float (x : Float)
  | string (s : String)
  | sequence
  | map

/-- Fractions in messages: shortest digits, positional from `0.0001` up to sixteen digits
before the point, otherwise one digit before the point and an exponent `e+N` or `e-N`. -/
def Unexpected.floatLayout : Decimal.Layout :=
  { leastPoint := -5, greatestPoint := 16, exponentMark := "e", plusSign := true }

/-- How a found value is named in a message. -/
def Unexpected.describe : Unexpected → String
  | .null => "null"
  | .bool b => "boolean `" ++ toString b ++ "`"
  | .unsigned n => "integer `" ++ toString n ++ "`"
  | .signed n => "integer `" ++ toString n ++ "`"
  | .float x => "floating point `" ++ floatLayout.renderFloat x ++ "`"
  | .string s => "string " ++ Text.quote s
  | .sequence => "sequence"
  | .map => "map"

/-- What a number is, for a message. -/
def Number.unexpected : Number → Unexpected
  | .nat n => .unsigned n
  | .neg n => .signed n
  | .float x => .float x

/-- What a value is, for a message. -/
def Value.unexpected : Value → Unexpected
  | .null => .null
  | .bool b => .bool b
  | .number n => n.unexpected
  | .string s => .string s
  | .array _ => .sequence
  | .object _ => .map

/-- What a decoder expected. -/
inductive Expected where
  /-- An integer from 0 to 255. -/
  | byte
  | boolean
  | string
  | sequence
  | map
  /-- A record, by the name the format gives it. -/
  | record (name : String)
  /-- The array form of a record, with its number of fields. -/
  | recordItems (name : String) (fields : Nat)
  /-- No more array items than a record has fields. -/
  | fewerItems

/-- How an expectation is named in a message. -/
def Expected.describe : Expected → String
  | .byte => "u8"
  | .boolean => "a boolean"
  | .string => "a string"
  | .sequence => "a sequence"
  | .map => "a map"
  | .record name => "struct " ++ name
  | .recordItems name 1 => "struct " ++ name ++ " with 1 element"
  | .recordItems name n => "struct " ++ name ++ " with " ++ toString n ++ " elements"
  | .fewerItems => "fewer elements in array"

/-- Why a value could not be decoded. -/
inductive DecodeError where
  /-- A value of the wrong kind. -/
  | invalidType (found : Unexpected) (expected : Expected)
  /-- A value of the right kind but out of range. -/
  | invalidValue (found : Unexpected) (expected : Expected)
  /-- An array with the wrong number of items. -/
  | invalidLength (length : Nat) (expected : Expected)
  | missingField (name : String)
  | duplicateField (name : String)

/-- The message of a decoding failure. -/
def DecodeError.message : DecodeError → String
  | .invalidType found expected =>
    "invalid type: " ++ found.describe ++ ", expected " ++ expected.describe
  | .invalidValue found expected =>
    "invalid value: " ++ found.describe ++ ", expected " ++ expected.describe
  | .invalidLength n expected =>
    "invalid length " ++ toString n ++ ", expected " ++ expected.describe
  | .missingField name => "missing field `" ++ name ++ "`"
  | .duplicateField name => "duplicate field `" ++ name ++ "`"

/-- A failure while reading a whole text. -/
inductive ReadFault where
  | text (e : TextError)
  | decode (e : DecodeError)

/-- A failure while reading a whole text, with the line (from 1) and the column (bytes after
the start of the line) where it was found. -/
structure ReadError where
  fault : ReadFault
  line : Nat
  column : Nat

/-- The message of a reading failure, with its place. -/
def ReadError.message (e : ReadError) : String :=
  let text := match e.fault with
    | .text t => t.message
    | .decode d => d.message
  text ++ " at line " ++ toString e.line ++ " column " ++ toString e.column

end OpcodeTable.Json
