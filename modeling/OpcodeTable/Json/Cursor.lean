import OpcodeTable.Json.Error
/-!
# A place in the text

The reader walks the UTF-8 bytes of a text. A `Cursor` holds the bytes not read yet and the
place of the next one: its line, counted from 1, and its column, the number of bytes since the
start of its line. An error is reported either at the cursor (`fail`) or one byte further
(`failNext`), which is where the byte the reader was looking at ends.
-/

namespace OpcodeTable.Json

/-- The bytes not read yet, and the line and column of the first of them. -/
structure Cursor where
  rest : List UInt8
  line : Nat
  column : Nat

namespace Cursor

/-- The start of a text given by its bytes. -/
def ofBytes (bytes : List UInt8) : Cursor := ⟨bytes, 1, 0⟩

/-- The start of a text. -/
def ofString (s : String) : Cursor := ofBytes s.toUTF8.toList

/-- The next byte, if any. -/
def peek? (c : Cursor) : Option UInt8 := c.rest.head?

/-- Whether the next byte is `b`. -/
def nextIs (c : Cursor) (b : UInt8) : Bool := c.peek? == some b

/-- Moves past one byte; a line feed starts a new line. At the end of the text it stays. -/
def advance (c : Cursor) : Cursor :=
  match c.rest with
  | [] => c
  | b :: bs => if b = 10 then ⟨bs, c.line + 1, 0⟩ else ⟨bs, c.line, c.column + 1⟩

/-- Moves past `n` bytes, or to the end of the text. -/
def advanceBy (c : Cursor) : Nat → Cursor
  | 0 => c
  | n + 1 => c.advance.advanceBy n

/-- Moves to the end of the text. -/
def toEnd (c : Cursor) : Cursor := c.advanceBy c.rest.length

theorem rest_advance (c : Cursor) : c.advance.rest = c.rest.tail := by
  unfold advance
  split
  · simp_all
  · split <;> simp_all

theorem rest_advanceBy (c : Cursor) (n : Nat) : (c.advanceBy n).rest = c.rest.drop n := by
  induction n generalizing c with
  | zero => rfl
  | succ n ih => rw [advanceBy, ih, rest_advance, List.drop_tail]

/-- The bytes a reader skips between tokens: space, line feed, tab and carriage return. -/
def isBlank (b : UInt8) : Bool := b == 32 || b == 10 || b == 9 || b == 13

/-- Moves past blanks. -/
def skipBlank (c : Cursor) : Cursor :=
  match _h : c.rest with
  | b :: _ => if isBlank b then skipBlank c.advance else c
  | [] => c
termination_by c.rest.length
decreasing_by simp [rest_advance, _h]

/-- A fault in the text, reported at the cursor. -/
def fail (c : Cursor) (e : TextError) : ReadError := ⟨.text e, c.line, c.column⟩

/-- A fault in the text, reported one byte further. -/
def failNext (c : Cursor) (e : TextError) : ReadError := c.advance.fail e

/-- A value that does not decode, reported at the cursor. -/
def reject (c : Cursor) (e : DecodeError) : ReadError := ⟨.decode e, c.line, c.column⟩

/-- Moves past the bytes of `word`, which the text must spell out next. -/
def expectWord (c : Cursor) : List UInt8 → Except ReadError Cursor
  | [] => .ok c
  | w :: ws =>
    match c.rest with
    | [] => .error (c.fail .eofInValue)
    | b :: _ => if b == w then c.advance.expectWord ws else .error (c.advance.fail .expectedIdent)

/-- Moves past blanks and a colon. -/
def expectColon (c : Cursor) : Except ReadError Cursor :=
  let c := c.skipBlank
  match c.peek? with
  | some 58 => .ok c.advance
  | some _ => .error (c.failNext .expectedColon)
  | none => .error (c.failNext .eofInObject)

end Cursor

/-- Bytes of a few ASCII words and marks the reader looks for. -/
def byteOf (c : Char) : UInt8 := c.toNat.toUInt8

/-- Whether a byte is an ASCII digit. -/
def isDigitByte (b : UInt8) : Bool := 48 ≤ b && b ≤ 57

/-- The value of an ASCII digit. -/
def digitValue (b : UInt8) : Nat := (b - 48).toNat

end OpcodeTable.Json
