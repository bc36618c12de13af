import OpcodeTable.Json.Literal
/-!
# Skipping a value

`Cursor.skipValue` checks and passes over one value without building it. Unlike reading, it
has no nesting limit: it keeps the containers it is inside on a stack instead of nesting calls.
Its reports differ from the reader's in a few places: after a comma, a closing bracket is "no
value" and a closing brace is "no key", and a raw control byte in a string is reported at its
own place.
-/

namespace OpcodeTable.Json

/-- A container being skipped. -/
inductive Frame where
  | array
  | object
deriving DecidableEq

/-- What the skipper looks for next. -/
inductive SkipMode where
  /-- The start of a value. -/
  | value
  /-- A comma or the end of the innermost container; `afterItem` is false right after it
  was opened, when neither a comma nor an item has been seen. -/
  | close (afterItem : Bool)
  /-- A key and its colon. -/
  | key
deriving DecidableEq

/-- Skips a key and its colon. -/
def Cursor.skipKey (c : Cursor) : Except ReadError Cursor := do
  let c := c.skipBlank
  match c.peek? with
  | some 34 =>
    let c ← c.advance.skipString
    c.expectColon
  | some _ => .error (c.failNext .keyMustBeString)
  | none => .error (c.failNext .eofInObject)

/-- Skips a scalar at the cursor, or reports the container it opens. -/
def Cursor.skipScalar (c : Cursor) (b : UInt8) : Except ReadError (Option Frame × Cursor) :=
  if b == 110 then (c.advance.expectWord [117, 108, 108]).map (none, ·)
  else if b == 116 then (c.advance.expectWord [114, 117, 101]).map (none, ·)
  else if b == 102 then (c.advance.expectWord [97, 108, 115, 101]).map (none, ·)
  else if b == 45 then c.advance.skipNumber.map (none, ·)
  else if isDigitByte b then c.skipNumber.map (none, ·)
  else if b == 34 then c.advance.skipString.map (none, ·)
  else if b == 91 then .ok (some .array, c.advance)
  else if b == 123 then .ok (some .object, c.advance)
  else .error (c.failNext .expectedValue)

/-- Where a step of the skipper leads. -/
inductive SkipNext where
  /-- The outermost value is over, and the cursor stands after it. -/
  | done (c : Cursor)
  /-- Go on looking for `mode`, inside the containers of `stack`. -/
  | more (mode : SkipMode) (stack : List Frame) (c : Cursor)

/-- One step of the skipper. -/
def skipStep (mode : SkipMode) (stack : List Frame) (c : Cursor) : Except ReadError SkipNext :=
  match mode with
  | .value =>
    let c := c.skipBlank
    match c.peek? with
    | none => .error (c.failNext .eofInValue)
    | some b => do
      let (opened, c) ← c.skipScalar b
      match opened, stack with
      | some f, _ => return .more (.close false) (f :: stack) c
      | none, [] => return .done c
      | none, _ => return .more (.close true) stack c
  | .key => do
    let c ← c.skipKey
    return .more .value stack c
  | .close afterItem =>
    match stack with
    | [] => .ok (.done c)
    | f :: outer =>
      let c := c.skipBlank
      match c.peek? with
      | none => .error (c.failNext (if f = .array then .eofInList else .eofInObject))
      | some b =>
        if b == 44 && afterItem then
          .ok (.more (if f = .array then .value else .key) stack c.advance)
        else if (b == 93 && f = .array) || (b == 125 && f = .object) then
          match outer with
          | [] => .ok (.done c.advance)
          | _ => .ok (.more (.close true) outer c.advance)
        else if afterItem then
          .error (c.failNext
            (if f = .array then .expectedListCommaOrEnd else .expectedObjectCommaOrEnd))
        else .ok (.more (if f = .array then .value else .key) stack c)

/-- Runs the skipper. Of two steps in a row at least one takes a byte, so twice the number of
bytes left, and one more, is more steps than can be taken. -/
def skipRun (mode : SkipMode) (stack : List Frame) (c : Cursor) :
    Nat → Except ReadError Cursor
  | 0 => .error (c.skipBlank.failNext .eofInValue)
  | fuel + 1 =>
    match skipStep mode stack c with
    | .error e => .error e
    | .ok (.done c) => .ok c
    | .ok (.more mode stack c) => skipRun mode stack c fuel

/-- Skips one value at the cursor (blanks before it are skipped). -/
def Cursor.skipValue (c : Cursor) : Except ReadError Cursor :=
  skipRun .value [] c (2 * c.rest.length + 2)

end OpcodeTable.Json
