import OpcodeTable.Json.Cursor
/-!
# String and number literals

Reading a literal starts just after the byte that announced it (the opening quote, or the
minus sign of a negative number) and ends just after its last byte.

A string may not hold a raw control byte. Its escapes are `\"`, `\\`, `\/`, `\b`, `\f`,
`\n`, `\r`, `\t` and `\uXXXX`; a code point above the basic plane is written as a leading
surrogate escape followed at once by a trailing one, and a surrogate may not stand alone.

A number is an integer part without superfluous leading zeros, then an optional fraction and an
optional exponent. An integer without fraction or exponent stays an integer when it fits 64
bits (signed, if negative); everything else becomes the binary64 value obtained by converting
the first digits that fit 64 bits, then multiplying or dividing by a power of ten (see
`scaleByPowerOfTen`). A value too large for binary64 is an error.

Skipping a literal checks the same grammar without building anything; it reports a few faults
at other places, as noted at `skipString` and `skipNumber`.
-/

namespace OpcodeTable.Json

/-! ## Strings -/

/-- The number of bytes of the UTF-8 sequence that starts with `b`. -/
def utf8Width (b : UInt8) : Nat :=
  if b < 0x80 then 1 else if b < 0xE0 then 2 else if b < 0xF0 then 3 else 4

/-- The character a UTF-8 sequence encodes. -/
def utf8Char (bs : List UInt8) : Char :=
  match bs with
  | [a] => Char.ofNat a.toNat
  | [a, b] => Char.ofNat ((a.toNat % 32) * 64 + b.toNat % 64)
  | [a, b, c] => Char.ofNat ((a.toNat % 16) * 4096 + (b.toNat % 64) * 64 + c.toNat % 64)
  | [a, b, c, d] =>
    Char.ofNat ((a.toNat % 8) * 262144 + (b.toNat % 64) * 4096 + (c.toNat % 64) * 64 + d.toNat % 64)
  | _ => Char.ofNat 0

/-- The value of a hexadecimal digit. -/
def hexValue? (b : UInt8) : Option Nat :=
  if 48 ≤ b && b ≤ 57 then some (b - 48).toNat
  else if 97 ≤ b && b ≤ 102 then some ((b - 97).toNat + 10)
  else if 65 ≤ b && b ≤ 70 then some ((b - 65).toNat + 10)
  else none

/-- The four hexadecimal digits at the start of `bs`: `none` when fewer than four bytes are
left, `some none` when one of the four is no hexadecimal digit. -/
def hexQuad? (bs : List UInt8) : Option (Option Nat) :=
  match bs with
  | a :: b :: c :: d :: _ =>
    some do
      let a ← hexValue? a
      let b ← hexValue? b
      let c ← hexValue? c
      let d ← hexValue? d
      return ((a * 16 + b) * 16 + c) * 16 + d
  | _ => none

/-- The character of a one-letter escape. -/
def shortEscape? (b : UInt8) : Option Char :=
  match b with
  | 34 => some '"'
  | 92 => some '\\'
  | 47 => some '/'
  | 98 => some '\x08'
  | 102 => some '\x0c'
  | 110 => some '\n'
  | 114 => some '\r'
  | 116 => some '\t'
  | _ => none

/-- Whether a code point is a leading surrogate. -/
def isLeadingSurrogate (n : Nat) : Bool := 0xD800 ≤ n && n ≤ 0xDBFF

/-- Whether a code point is a trailing surrogate. -/
def isTrailingSurrogate (n : Nat) : Bool := 0xDC00 ≤ n && n ≤ 0xDFFF

/-- Reads the escape after a backslash, given the bytes after the backslash. The result is the
character and the number of bytes the escape took; a failure comes with the number of bytes
read before it was noticed. -/
def readEscape (bs : List UInt8) : Except (TextError × Nat) (Char × Nat) :=
  match bs with
  | [] => .error (.eofInString, 0)
  | b :: rest =>
    match shortEscape? b with
    | some ch => .ok (ch, 1)
    | none =>
      if b != 117 then .error (.invalidEscape, 1) else
      match hexQuad? rest with
      | none => .error (.eofInString, 1 + rest.length)
      | some none => .error (.invalidEscape, 5)
      | some (some n) =>
        if isTrailingSurrogate n then .error (.loneLeadingSurrogate, 5)
        else if !isLeadingSurrogate n then .ok (Char.ofNat n, 5)
        else
          match rest.drop 4 with
          | [] => .error (.eofInString, 5)
          | b1 :: after1 =>
            if b1 != 92 then .error (.unexpectedEndOfHexEscape, 6) else
            match after1 with
            | [] => .error (.eofInString, 6)
            | b2 :: after2 =>
              if b2 != 117 then .error (.unexpectedEndOfHexEscape, 7) else
              match hexQuad? after2 with
              | none => .error (.eofInString, 7 + after2.length)
              | some none => .error (.invalidEscape, 11)
              | some (some m) =>
                if isTrailingSurrogate m then
                  .ok (Char.ofNat ((n - 0xD800) * 0x400 + (m - 0xDC00) + 0x10000), 11)
                else .error (.loneLeadingSurrogate, 11)

/-- Reads string contents up to and past the closing quote. Every round takes at least one
byte, so `fuel`, the number of bytes left when reading began, lasts until the text ends. -/
def readStringFrom (c : Cursor) (acc : List Char) : Nat → Except ReadError (String × Cursor)
  | 0 => .error (c.fail .eofInString)
  | fuel + 1 =>
    match c.rest with
    | [] => .error (c.fail .eofInString)
    | b :: bs =>
      if b == 34 then .ok (String.ofList acc.reverse, c.advance)
      else if b == 92 then
        match readEscape bs with
        | .ok (ch, n) => readStringFrom (c.advanceBy (n + 1)) (ch :: acc) fuel
        | .error (e, n) => .error ((c.advanceBy (n + 1)).fail e)
      else if b < 32 then .error (c.advance.fail .controlCharacter)
      else
        let w := utf8Width b
        readStringFrom (c.advanceBy w) (utf8Char (c.rest.take w) :: acc) fuel

/-- Reads a string literal whose opening quote is just behind the cursor. -/
def Cursor.readString (c : Cursor) : Except ReadError (String × Cursor) :=
  readStringFrom c [] c.rest.length

/-- Checks the escape after a backslash without decoding it: a `\u` escape needs four
hexadecimal digits, and surrogates are not paired up. -/
def skipEscape (bs : List UInt8) : Except (TextError × Nat) Nat :=
  match bs with
  | [] => .error (.eofInString, 0)
  | b :: rest =>
    if (shortEscape? b).isSome then .ok 1
    else if b != 117 then .error (.invalidEscape, 1)
    else
      match hexQuad? rest with
      | none => .error (.eofInString, 1 + rest.length)
      | some none => .error (.invalidEscape, 5)
      | some (some _) => .ok 5

/-- Skips string contents up to and past the closing quote. A control byte is reported at its
own place, not after it. -/
def skipStringFrom (c : Cursor) : Nat → Except ReadError Cursor
  | 0 => .error (c.fail .eofInString)
  | fuel + 1 =>
    match c.rest with
    | [] => .error (c.fail .eofInString)
    | b :: bs =>
      if b == 34 then .ok c.advance
      else if b == 92 then
        match skipEscape bs with
        | .ok n => skipStringFrom (c.advanceBy (n + 1)) fuel
        | .error (e, n) => .error ((c.advanceBy (n + 1)).fail e)
      else if b < 32 then .error (c.fail .controlCharacter)
      else skipStringFrom c.advance fuel

/-- Skips a string literal whose opening quote is just behind the cursor. -/
def Cursor.skipString (c : Cursor) : Except ReadError Cursor :=
  skipStringFrom c c.rest.length

/-! ## Numbers -/

/-- Whether the next byte is an ASCII digit. -/
def Cursor.atDigit (c : Cursor) : Bool :=
  match c.peek? with
  | some b => isDigitByte b
  | none => false

/-- Moves past ASCII digits. -/
def Cursor.skipDigits (c : Cursor) : Cursor :=
  match _h : c.rest with
  | b :: _ => if isDigitByte b then skipDigits c.advance else c
  | [] => c
termination_by c.rest.length
decreasing_by simp [Cursor.rest_advance, _h]

/-- The number of ASCII digits at the cursor. -/
def Cursor.countDigits (c : Cursor) : Nat :=
  (c.rest.takeWhile isDigitByte).length

/-- The powers of ten from `10 ^ 0` to `10 ^ 308`, each the binary64 value nearest to it. -/
def powerOfTen (k : Nat) : Float := Float.ofScientific 1 false k

/-- `f` times `10 ^ e`, computed as one multiplication or division by a power of ten when
`|e| ≤ 308`. Beyond that, zero stays zero, a positive power is too large, and a negative one
divides by `10 ^ 308` until the rest of the exponent is in range. `none` means the result
is too large for binary64. -/
def scaleByPowerOfTen (f : Float) (e : Int) : Option Float :=
  if e.natAbs ≤ 308 then
    if 0 ≤ e then
      let g := f * powerOfTen e.toNat
      if g.isInf then none else some g
    else some (f / powerOfTen e.natAbs)
  else if f == 0 then some f
  else if 0 ≤ e then none
  else scaleByPowerOfTen (f / powerOfTen 308) (e + 308)
termination_by e.natAbs
decreasing_by omega

/-- The largest exponent a number may have before it no longer fits 32 signed bits. -/
def exponentLimit : Nat := 2147483647

/-- Keeps an exponent within 32 signed bits. -/
def clampExponent (e : Int) : Int :=
  max (-(exponentLimit : Int) - 1) (min e exponentLimit)

/-- The binary64 value of `significand * 10 ^ e`, negated when `positive` is false; the cursor
stands after the number, where a value out of range is reported. -/
def fromParts (positive : Bool) (significand : Nat) (e : Int) (c : Cursor) :
    Except ReadError (Float × Cursor) :=
  match scaleByPowerOfTen significand.toUInt64.toFloat e with
  | none => .error (c.fail .numberOutOfRange)
  | some f => .ok (if positive then f else -f, c)

/-- Reads the digits of an exponent, which starts with `e` (a digit already read). -/
def readExponentDigits (positive : Bool) (significand : Nat) (start : Int) (up : Bool) (e : Nat)
    (c : Cursor) : Except ReadError (Float × Cursor) :=
  match _h : c.rest with
  | b :: _ =>
    if isDigitByte b then
      let e' := e * 10 + digitValue b
      if e' > exponentLimit then
        -- the exponent does not fit: a non-zero value is too large, or it vanishes
        if significand != 0 && up then .error (c.advance.fail .numberOutOfRange)
        else .ok (if positive then 0.0 else -0.0, c.advance.skipDigits)
      else readExponentDigits positive significand start up e' c.advance
    else fromParts positive significand (clampExponent (if up then start + e else start - e)) c
  | [] => fromParts positive significand (clampExponent (if up then start + e else start - e)) c
termination_by c.rest.length
decreasing_by simp [Cursor.rest_advance, _h]

/-- Reads an exponent at the cursor, which stands at the `e` or `E`. -/
def readExponent (positive : Bool) (significand : Nat) (start : Int) (c : Cursor) :
    Except ReadError (Float × Cursor) :=
  let c := c.advance
  let (up, c) :=
    match c.peek? with
    | some 43 => (true, c.advance)
    | some 45 => (false, c.advance)
    | _ => (true, c)
  match c.rest with
  | [] => .error (c.fail .eofInValue)
  | b :: _ =>
    if isDigitByte b then readExponentDigits positive significand start up (digitValue b) c.advance
    else .error (c.advance.fail .invalidNumber)

/-- Goes on after the digits of a number whose exponent so far is `e`: an exponent may follow,
and otherwise the number ends. -/
def afterDigits (positive : Bool) (significand : Nat) (e : Int) (c : Cursor) :
    Except ReadError (Float × Cursor) :=
  if c.nextIs 101 || c.nextIs 69 then readExponent positive significand e c
  else fromParts positive significand e c

/-- Reads fraction digits; `e` counts down one per digit taken into the significand. Once the
significand is full, further digits are passed over. -/
def readFractionDigits (positive : Bool) (significand : Nat) (e : Int) (c : Cursor) :
    Except ReadError (Float × Cursor) :=
  match h : c.rest with
  | b :: _ =>
    if isDigitByte b then
      let s := significand * 10 + digitValue b
      if s ≥ Nat.pow 2 64 then afterDigits positive significand e c.skipDigits
      else readFractionDigits positive s (e - 1) c.advance
    else afterDigits positive significand e c
  | [] => afterDigits positive significand e c
termination_by c.rest.length
decreasing_by simp [Cursor.rest_advance, h]

/-- Reads a fraction at the cursor, which stands at the point; `e` is the exponent so far. -/
def readFraction (positive : Bool) (significand : Nat) (e : Int) (c : Cursor) :
    Except ReadError (Float × Cursor) :=
  let c := c.advance
  if c.atDigit then readFractionDigits positive significand e c
  else match c.peek? with
    | some _ => .error (c.failNext .invalidNumber)
    | none => .error (c.failNext .eofInValue)

/-- Goes on after an integer part too long for 64 bits, whose first digits gave `significand`:
each further digit raises the exponent. -/
def afterLongInteger (positive : Bool) (significand : Nat) (c : Cursor) :
    Except ReadError (Float × Cursor) :=
  let e : Int := c.countDigits
  let c := c.skipDigits
  if c.nextIs 46 then readFraction positive significand e c
  else afterDigits positive significand e c

/-- The number an integer part stands for when nothing follows it. -/
def integerValue (positive : Bool) (significand : Nat) : Number :=
  if positive then .nat significand
  else if 0 < significand ∧ significand ≤ Nat.pow 2 63 then .neg (-(significand : Int))
  else .float (-significand.toUInt64.toFloat)

/-- Goes on after an integer part that fits 64 bits. -/
def afterInteger (positive : Bool) (significand : Nat) (c : Cursor) :
    Except ReadError (Number × Cursor) :=
  if c.nextIs 46 then (readFraction positive significand 0 c).map fun (f, c) => (.float f, c)
  else if c.nextIs 101 || c.nextIs 69 then
    (readExponent positive significand 0 c).map fun (f, c) => (.float f, c)
  else .ok (integerValue positive significand, c)

/-- Reads the digits of an integer part while they fit 64 bits. -/
def readIntegerDigits (positive : Bool) (significand : Nat) (c : Cursor) :
    Except ReadError (Number × Cursor) :=
  match h : c.rest with
  | b :: _ =>
    if isDigitByte b then
      let s := significand * 10 + digitValue b
      if s ≥ Nat.pow 2 64 then
        (afterLongInteger positive significand c).map fun (f, c) => (.float f, c)
      else readIntegerDigits positive s c.advance
    else afterInteger positive significand c
  | [] => afterInteger positive significand c
termination_by c.rest.length
decreasing_by simp [Cursor.rest_advance, h]

/-- Reads a number at the cursor; for a negative number the minus sign is already behind it. -/
def Cursor.readNumber (positive : Bool) (c : Cursor) : Except ReadError (Number × Cursor) :=
  match c.rest with
  | [] => .error (c.fail .eofInValue)
  | b :: _ =>
    let c1 := c.advance
    if b == 48 then
      if c1.atDigit then .error (c1.failNext .invalidNumber)
      else afterInteger positive 0 c1
    else if isDigitByte b then readIntegerDigits positive (digitValue b) c1
    else .error (c1.fail .invalidNumber)

/-- Skips an exponent at the cursor, which stands at the `e` or `E`. -/
def skipExponent (c : Cursor) : Except ReadError Cursor :=
  let c := c.advance
  let c := if c.nextIs 43 || c.nextIs 45 then c.advance else c
  if c.atDigit then .ok c.advance.skipDigits
  else .error (c.advance.fail .invalidNumber)

/-- Skips a number at the cursor (after its minus sign). A missing digit is reported as an
invalid number even at the end of the text. -/
def Cursor.skipNumber (c : Cursor) : Except ReadError Cursor := do
  let c1 := c.advance
  let c ← match c.peek? with
    | some 48 => if c1.atDigit then .error (c1.failNext .invalidNumber) else .ok c1
    | some b => if isDigitByte b then .ok c1.skipDigits else .error (c1.fail .invalidNumber)
    | none => .error (c.fail .invalidNumber)
  if c.nextIs 46 then
    let c := c.advance
    if !c.atDigit then .error (c.failNext .invalidNumber) else
    let c := c.skipDigits
    if c.nextIs 101 || c.nextIs 69 then skipExponent c else .ok c
  else if c.nextIs 101 || c.nextIs 69 then skipExponent c
  else .ok c

end OpcodeTable.Json
