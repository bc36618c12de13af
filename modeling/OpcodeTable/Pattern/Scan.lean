import OpcodeTable.Text.Alphanumeric
/-!
# The small pieces of a pattern

A pattern is read from left to right with a few flags in force (`Mode`). `i` lets letters match
in either case. `u`, which is on at the start, makes escapes and classes stand for Unicode
characters rather than bytes. `x` lets white space and `#` comments stand between pieces. This
module reads the small pieces: blanks, flag lists, group names, and what follows a backslash
(`readEscape`). Each reader takes the text at hand and gives what it read with the rest, or
nothing when the text is malformed.

The reading here is only about form. Whether a piece is allowed in the mode it appears in is
decided where the pieces are put together (`Pattern.Check`). The one exception is `\p` and
`\P`, Unicode properties: the matcher has no property tables, so every property is refused
here already.
-/

namespace OpcodeTable.Pattern

open Text

/-- The flags in force at a point of a pattern. -/
structure Mode where
  /-- `i`: letters match in either case. -/
  caseless : Bool
  /-- `u`: escapes and classes stand for Unicode characters. -/
  unicode : Bool
  /-- `x`: white space and `#` comments between pieces are skipped. -/
  spaced : Bool
deriving Repr, DecidableEq

/-- The flags at the start of a pattern: only `u`. -/
def Mode.initial : Mode := ⟨false, true, false⟩

/-- The mode after a flag list, given as flag letters each with whether it is turned on. -/
def Mode.set (m : Mode) (items : List (Char × Bool)) : Mode :=
  items.foldl (fun m item =>
    match item.1 with
    | 'i' => { m with caseless := item.2 }
    | 'u' => { m with unicode := item.2 }
    | 'x' => { m with spaced := item.2 }
    | _ => m) m

/-! ## Blanks -/

/-- Skips white space and comments. A comment runs from `#` to the end of its line;
`inComment` says the text starts inside one. -/
def skipBlank (inComment : Bool) : List Char → List Char
  | [] => []
  | c :: rest =>
    if inComment then skipBlank (c != '\n') rest
    else if isWhiteSpace c then skipBlank false rest
    else if c == '#' then skipBlank true rest
    else c :: rest

/-- Skips white space and comments when the pattern is spaced. -/
def skipSpace (spaced : Bool) (cs : List Char) : List Char :=
  if spaced then skipBlank false cs else cs

/-- The first character that is not white space, passing over at most one `#`: the characters
of a comment other than white space are not passed over. -/
def firstShown (hashSeen : Bool) : List Char → Option Char
  | [] => none
  | c :: rest =>
    if isWhiteSpace c then firstShown hashSeen rest
    else if !hashSeen && c == '#' then firstShown true rest
    else some c

/-- The character after the one at hand. When the pattern is spaced, white space (and one `#`)
is passed over; if nothing else follows, the plain next character is taken. -/
def peekSpace (spaced : Bool) : List Char → Option Char
  | [] => none
  | _ :: after =>
    if spaced then (firstShown false after).orElse fun _ => after.head? else after.head?

/-! ## Flags and names -/

/-- The flag letters: `i`, `m`, `s`, `U`, `u`, `R` and `x`. -/
def flagLetters : List Char := ['i', 'm', 's', 'U', 'u', 'R', 'x']

/-- Reads a flag list up to the `:` or `)` that ends it, giving the flags (each with whether it
is turned on), the ending character and the rest. `negated` says a `-` was read, which turns
off the flags after it; `lastDash` says it was the last thing read. A flag may appear once,
`-` once and not right before the end, and the list may not run to the end of the text. -/
def readFlags (items : List (Char × Bool)) (negated lastDash : Bool) :
    List Char → Option (List (Char × Bool) × Char × List Char)
  | [] => none
  | c :: rest =>
    if c == ':' || c == ')' then
      if lastDash then none else some (items, c, rest)
    else if rest.isEmpty then none
    else if c == '-' then
      if negated then none else readFlags items true true rest
    else if flagLetters.contains c && !(items.any (·.1 == c)) then
      readFlags (items ++ [(c, !negated)]) negated false rest
    else none

/-- Whether `c` may stand in a group name: a letter or `_` first, then also digits, `.`, `[`
and `]`. -/
def isNameChar (first : Bool) (c : Char) : Bool :=
  if first then c == '_' || isAlphabetic c
  else c == '_' || c == '.' || c == '[' || c == ']' || isAlphanumeric c

/-- Reads a group name up to its `>`: the name and the rest after `>`. The name may not be
empty. `acc` holds the characters read so far, last first. -/
def readName (acc : List Char) : List Char → Option (String × List Char)
  | [] => none
  | c :: rest =>
    if c == '>' then (if acc.isEmpty then none else some (String.ofList acc.reverse, rest))
    else if isNameChar acc.isEmpty c then readName (c :: acc) rest
    else none

/-! ## Escapes -/

/-- What a character or an escape of a pattern stands for. -/
inductive Atom where
  /-- A character; `byte` when it was written `\xNN`, which without `u` stands for a byte. -/
  | literal (c : Char) (byte : Bool)
  /-- `.`, any character but a line end. -/
  | dot
  /-- `^`, `$`, `\A` or `\z`. -/
  | anchor
  /-- A word boundary: `\b`, `\<`, `\>` or one of `\b{start}`, `\b{end}`, `\b{start-half}`,
  `\b{end-half}`. -/
  | wordBoundary
  /-- `\B`, a place that is not a word boundary. -/
  | notWordBoundary
  /-- `\d`, `\s` or `\w` (`kind` is the letter), or with `negated` their upper case forms. -/
  | perl (kind : Char) (negated : Bool)
deriving Repr, DecidableEq

/-- The characters with a meaning of their own in a pattern, which a backslash makes plain. -/
def metaChars : List Char :=
  ['\\', '.', '+', '*', '?', '(', ')', '|', '[', ']', '\x7b', '\x7d', '^', '$', '#', '&', '-', '~']

/-- Whether a backslash before `c` just stands for `c`: a special character, or an ASCII
character other than a letter, a digit, `<` and `>`. Letters and digits are kept for escapes
of their own; `\<` and `\>` are word boundaries. -/
def isEscapable (c : Char) : Bool :=
  metaChars.contains c ||
    (c.toNat < 0x80 && !c.isAlphanum && c != '<' && c != '>')

/-- The value of a hexadecimal digit. -/
def hexValue? (c : Char) : Option Nat :=
  if c.isDigit then some (c.toNat - '0'.toNat)
  else if 'a' ≤ c && c ≤ 'f' then some (c.toNat - 'a'.toNat + 10)
  else if 'A' ≤ c && c ≤ 'F' then some (c.toNat - 'A'.toNat + 10)
  else none

/-- The number written by hexadecimal digits. -/
def hexNumber (ds : List Char) : Nat :=
  ds.foldl (fun n c => 16 * n + (hexValue? c).getD 0) 0

/-- The character with code point `n`, if there is one: `n` is at most `10FFFF` and not a
surrogate. -/
def charOf? (n : Nat) : Option Char :=
  if n ≤ 0x10FFFF && !(0xD800 ≤ n && n ≤ 0xDFFF) then some (Char.ofNat n) else none

/-- Reads `n` hexadecimal digits, the first at hand, white space between them skipped when the
pattern is spaced: the digits and the rest after the last, its white space skipped. -/
def fixedDigits (spaced : Bool) : Nat → List Char → Option (List Char × List Char)
  | 0, cs => some ([], cs)
  | _ + 1, [] => none
  | n + 1, c :: rest =>
    if (hexValue? c).isNone then none
    else
      let rest := skipSpace spaced rest
      if n == 0 then some ([c], rest)
      else if rest.isEmpty then none
      else (fixedDigits spaced n rest).map fun r => (c :: r.1, r.2)

/-- Reads hexadecimal digits up to `}`, just after a character was read: white space is
skipped when the pattern is spaced, then comes a digit or the `}`. Gives the digits and the
rest after `}`, its white space skipped. Every step reads a character, so `fuel` is the length
of the text plus one. -/
def braceDigits (spaced : Bool) : Nat → List Char → Option (List Char × List Char)
  | 0, _ => none
  | fuel + 1, cs =>
    match skipSpace spaced cs with
    | [] => none
    | c :: rest =>
      if c == '\x7d' then some ([], skipSpace spaced rest)
      else if (hexValue? c).isNone then none
      else (braceDigits spaced fuel rest).map fun r => (c :: r.1, r.2)

/-- Reads a hexadecimal escape after its letter: after `x`, `u` or `U` come two, four or eight
digits, or any number of digits in braces. The value must be a character. Only the two-digit
form stands for a byte without `u`. -/
def readHex (spaced : Bool) (kind : Char) (cs : List Char) : Option (Atom × List Char) :=
  match skipSpace spaced cs with
  | [] => none
  | '\x7b' :: rest => do
    let (ds, after) ← braceDigits spaced (rest.length + 1) rest
    if ds.isEmpty then none else
    let c ← charOf? (hexNumber ds)
    some (.literal c false, after)
  | cs => do
    let (ds, after) ← fixedDigits spaced (if kind == 'x' then 2 else if kind == 'u' then 4 else 8) cs
    let c ← charOf? (hexNumber ds)
    some (.literal c (kind == 'x'), after)

/-- Whether `c` may stand in the name of a special word boundary: a letter or `-`. -/
def isBoundaryChar (c : Char) : Bool :=
  c.isAlpha || c == '-'

/-- Reads the letters and dashes of a special word boundary's name, white space after each
skipped when the pattern is spaced: the name and the rest. `fuel` is the length of the text
plus one. -/
def boundaryName (spaced : Bool) : Nat → List Char → List Char × List Char
  | 0, cs => ([], cs)
  | fuel + 1, c :: rest =>
    if isBoundaryChar c then
      let r := boundaryName spaced fuel (skipSpace spaced rest)
      (c :: r.1, r.2)
    else ([], c :: rest)
  | _ + 1, [] => ([], [])

/-- After `\b`: a `{` followed by a letter or `-` starts a special boundary,
`{start}`, `{end}`, `{start-half}` or `{end-half}`, which is read with it. A `{` followed by
anything else is left to be read as a repetition. Gives the rest, or nothing when the braces
are malformed. -/
def afterBoundary (spaced : Bool) : List Char → Option (List Char)
  | '\x7b' :: rest =>
    match skipSpace spaced rest with
    | [] => none
    | c :: more =>
      if !isBoundaryChar c then some ('\x7b' :: rest)
      else
        match boundaryName spaced (more.length + 2) (c :: more) with
        | (name, '\x7d' :: after) =>
          if ["start", "end", "start-half", "end-half"].contains (String.ofList name) then
            some after
          else none
        | _ => none
  | cs => some cs

/-- Reads what follows a backslash: the atom and the rest. Digits (octal escapes and back
references) are refused, and so are `\p` and `\P`, which need property tables. -/
def readEscape (spaced : Bool) : List Char → Option (Atom × List Char)
  | [] => none
  | c :: rest =>
    if c.isDigit then none
    else if c == 'x' || c == 'u' || c == 'U' then readHex spaced c rest
    else if c == 'p' || c == 'P' then none
    else if c == 'd' || c == 's' || c == 'w' then some (.perl c false, rest)
    else if c == 'D' || c == 'S' || c == 'W' then some (.perl c.toLower true, rest)
    else if isEscapable c then some (.literal c false, rest)
    else
      match c with
      | 'a' => some (.literal '\x07' false, rest)
      | 'f' => some (.literal '\x0c' false, rest)
      | 't' => some (.literal '\t' false, rest)
      | 'n' => some (.literal '\n' false, rest)
      | 'r' => some (.literal '\r' false, rest)
      | 'v' => some (.literal '\x0b' false, rest)
      | 'A' => some (.anchor, rest)
      | 'z' => some (.anchor, rest)
      | 'b' => (afterBoundary spaced rest).map fun after => (.wordBoundary, after)
      | 'B' => some (.notWordBoundary, rest)
      | '<' => some (.wordBoundary, rest)
      | '>' => some (.wordBoundary, rest)
      | _ => none

example : readEscape false "x41z".toList = some (.literal 'A' true, ['z']) := by decide +kernel

example : readEscape false "é".toList = none := by decide +kernel

example : readFlags [] false false "i-)".toList = none := by decide +kernel

end OpcodeTable.Pattern
