import OpcodeTable.Text.Quoted
/-!
# Cutting text at byte offsets

A text is stored as UTF-8, so each of its characters starts at a byte offset, and the offsets
between two characters, together with the two ends, are the places where the text can be cut.
`slice s a b` is the part of `s` from byte `a` up to byte `b`. An offset that falls inside the
bytes of a character is no place to cut: `slice` then names the character it fell in, so that
a caller can report it the way a program that stops there does (`CharCut.message`).
-/

namespace OpcodeTable.Text

/-- The characters of a text with the byte offsets they start at, counting from `n`. -/
def placedFrom (n : Nat) : List Char → List (Nat × Char)
  | [] => []
  | c :: cs => (n, c) :: placedFrom (n + c.utf8Size) cs

/-- Placing characters keeps them, in order. -/
@[simp] theorem map_snd_placedFrom (n : Nat) (cs : List Char) :
    (placedFrom n cs).map (·.2) = cs := by
  induction cs generalizing n with
  | nil => rfl
  | cons c cs ih => simp [placedFrom, ih]

/-- The characters of `s` with the byte offsets they start at. -/
def placed (s : String) : List (Nat × Char) := placedFrom 0 s.toList

/-- An offset that falls inside a character of a text: the offset, the character, the offset
the character starts at, and the whole text. -/
structure CharCut where
  index : Nat
  char : Char
  start : Nat
  text : String
deriving Repr, DecidableEq

/-- The character of `s` that the offset `n` falls strictly inside, if any. -/
def cutInside? (s : String) (n : Nat) : Option CharCut :=
  ((placed s).find? fun (o, c) => o < n && n < o + c.utf8Size).map fun (o, c) => ⟨n, c, o, s⟩

/-- The part of `s` from byte offset `a` up to byte offset `b`, or the cut that an offset
inside a character makes, the one at `a` first. -/
def slice (s : String) (a b : Nat) : Except CharCut String :=
  match cutInside? s a, cutInside? s b with
  | some cut, _ => .error cut
  | none, some cut => .error cut
  | none, none => .ok (String.ofList (((placed s).filter fun (o, _) => a ≤ o && o < b).map (·.2)))

/-- The part of `s` from byte offset `a` to its end. -/
def sliceFrom (s : String) (a : Nat) : Except CharCut String := slice s a s.utf8ByteSize

/-- The longest start of `s` of at most `n` bytes that ends between two characters. -/
def bytePrefix (s : String) (n : Nat) : String :=
  String.ofList (((placed s).filter fun (o, c) => o + c.utf8Size ≤ n).map (·.2))

/-- How a character is written between apostrophes: as between double quotes, except that the
apostrophe gets a backslash and the double quote stands for itself. -/
def escapeInApostrophes (c : Char) : List Char :=
  if c == '\x27' then ['\\', '\x27'] else if c == '"' then ['"'] else escapeChar c

/-- `c` in quoted form, between apostrophes. -/
def quoteChar (c : Char) : String :=
  String.ofList ('\x27' :: escapeInApostrophes c ++ ['\x27'])

/-- What a program that stops at a cut says about it: the offset, the character in quotes with
the range of its bytes, and the text, of which at most 256 bytes are shown. -/
def CharCut.message (c : CharCut) : String :=
  let shown := bytePrefix c.text 256
  let more := if shown.utf8ByteSize < c.text.utf8ByteSize then "[...]" else ""
  "byte index " ++ toString c.index ++ " is not a char boundary; it is inside " ++
    quoteChar c.char ++ " (bytes " ++ toString c.start ++ ".." ++
    toString (c.start + c.char.utf8Size) ++ ") of `" ++ shown ++ "`" ++ more

example : (slice "a\u00a0b" 1 4).toOption = some "\u00a0b" := by decide +kernel

example : (slice "\u00a0x" 0 1).toOption = none ∧
    cutInside? "\u00a0x" 1 = some ⟨1, '\u00a0', 0, "\u00a0x"⟩ := by
  decide +kernel

example : quoteChar '\u00a0' = "\x27\\u\x7ba0\x7d\x27" := by decide +kernel

end OpcodeTable.Text
