import OpcodeTable.Json.Literal
/-!
# Reading a value

`Cursor.readValue depth c` reads one value at the cursor. Arrays and objects may nest only so
deep: `depth` is the number of containers that may still be opened plus one, and opening a
container when it is down to one is an error. An object keeps one member per key, the value
written last (`Members.insert`).

Within a container the reader asks, before each item, whether another one follows: a closing
bracket ends the container, the first item needs no comma, and every later one needs one.
-/

namespace OpcodeTable.Json

/-- Where the next array item starts, when one follows; `none` when the array ends here.
`first` tells whether an item has been read yet. -/
def Cursor.nextItem (c : Cursor) (first : Bool) : Except ReadError (Option Cursor) :=
  let c := c.skipBlank
  match c.peek? with
  | none => .error (c.failNext .eofInList)
  | some 93 => .ok none
  | some b =>
    if first then .ok (some c)
    else if b == 44 then
      let c := c.advance.skipBlank
      match c.peek? with
      | some 93 => .error (c.failNext .trailingComma)
      | some _ => .ok (some c)
      | none => .error (c.failNext .eofInValue)
    else .error (c.failNext .expectedListCommaOrEnd)

/-- Where the next object key starts (at its quote), when one follows; `none` when the object
ends here. `first` tells whether a member has been read yet. -/
def Cursor.nextKey (c : Cursor) (first : Bool) : Except ReadError (Option Cursor) :=
  let c := c.skipBlank
  match c.peek? with
  | none => .error (c.failNext .eofInObject)
  | some 125 => .ok none
  | some b =>
    if first then
      if b == 34 then .ok (some c) else .error (c.failNext .keyMustBeString)
    else if b == 44 then
      let c := c.advance.skipBlank
      match c.peek? with
      | some 34 => .ok (some c)
      | some 125 => .error (c.failNext .trailingComma)
      | some _ => .error (c.failNext .keyMustBeString)
      | none => .error (c.failNext .eofInValue)
    else .error (c.failNext .expectedObjectCommaOrEnd)

/-- Reads a key and the colon after it; the cursor stands at the key's opening quote. -/
def Cursor.readKey (c : Cursor) : Except ReadError (String × Cursor) := do
  let (k, c) ← c.advance.readString
  let c ← c.expectColon
  return (k, c)

/-- Reads array items up to and past the closing bracket, each with `readItem`. Every round
takes at least one byte, so `fuel`, the number of bytes left after the opening bracket, lasts
until the text ends; with no fuel left the text has ended, which is what the first branch
reports. -/
def readItems (readItem : Cursor → Except ReadError (Value × Cursor)) (c : Cursor)
    (acc : List Value) (first : Bool) : Nat → Except ReadError (Value × Cursor)
  | 0 => .error (c.skipBlank.failNext .eofInList)
  | fuel + 1 =>
    match c.nextItem first with
    | .error e => .error e
    | .ok none => .ok (.array acc.reverse, c.skipBlank.advance)
    | .ok (some c) =>
      match readItem c with
      | .error e => .error e
      | .ok (v, c) => readItems readItem c (v :: acc) false fuel

/-- Reads object members up to and past the closing brace, each value with `readItem`, like
`readItems`. -/
def readMembers (readItem : Cursor → Except ReadError (Value × Cursor)) (c : Cursor)
    (acc : Members) (first : Bool) : Nat → Except ReadError (Value × Cursor)
  | 0 => .error (c.skipBlank.failNext .eofInObject)
  | fuel + 1 =>
    match c.nextKey first with
    | .error e => .error e
    | .ok none => .ok (.object acc, c.skipBlank.advance)
    | .ok (some c) =>
      match c.readKey with
      | .error e => .error e
      | .ok (k, c) =>
        match readItem c with
        | .error e => .error e
        | .ok (v, c) => readMembers readItem c (Members.insert k v acc) false fuel

/-- Reads one value at the cursor (blanks before it are skipped). The items of a container are
read one level down, so the recursion is on `depth`. -/
def Cursor.readValue (depth : Nat) (c : Cursor) : Except ReadError (Value × Cursor) :=
  let c := c.skipBlank
  match c.peek? with
  | none => .error (c.failNext .eofInValue)
  | some b =>
    if b == 110 then (c.advance.expectWord [117, 108, 108]).map (.null, ·)
    else if b == 116 then (c.advance.expectWord [114, 117, 101]).map (.bool true, ·)
    else if b == 102 then (c.advance.expectWord [97, 108, 115, 101]).map (.bool false, ·)
    else if b == 45 then (c.advance.readNumber false).map fun (n, c) => (.number n, c)
    else if isDigitByte b then (c.readNumber true).map fun (n, c) => (.number n, c)
    else if b == 34 then c.advance.readString.map fun (s, c) => (.string s, c)
    else if b == 91 then
      match depth with
      | d + 2 => readItems (Cursor.readValue (d + 1)) c.advance [] true c.advance.rest.length
      | _ => .error (c.failNext .recursionLimit)
    else if b == 123 then
      match depth with
      | d + 2 => readMembers (Cursor.readValue (d + 1)) c.advance [] true c.advance.rest.length
      | _ => .error (c.failNext .recursionLimit)
    else .error (c.failNext .expectedValue)
termination_by structural depth

/-- How deep values may nest when a whole text is one value. -/
def nestingLimit : Nat := 128

/-- Reads a text that holds one value and nothing else but blanks. -/
def Value.ofText (s : String) : Except ReadError Value := do
  let (v, c) ← (Cursor.ofString s).readValue nestingLimit
  let c := c.skipBlank
  if c.rest.isEmpty then return v else throw (c.failNext .trailingCharacters)

end OpcodeTable.Json
