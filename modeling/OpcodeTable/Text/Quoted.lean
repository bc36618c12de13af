import OpcodeTable.Text.Printable
import OpcodeTable.Text.GraphemeExtend
/-!
# Quoted text

`quote s` writes `s` between double quotes in the escaped form that source text uses for a
string literal, so that a reader of a message sees exactly which characters a name holds:

* the quote, the backslash, NUL, tab, carriage return and line feed get a backslash escape;
* a grapheme extender, or a character that is not printable, is written `\u{hex}` with the
  code point in lower-case hexadecimal without leading zeros;
* every other character stands for itself, the apostrophe included.
-/

namespace OpcodeTable.Text

/-- The code point of `c` as an escape `\u{hex}`. -/
def unicodeEscape (c : Char) : List Char :=
  ['\\', 'u', '\x7b'] ++ Nat.toDigits 16 c.toNat ++ ['\x7d']

/-- Whether a character outside the backslash escapes is written as a `\u{hex}` escape. -/
def needsUnicodeEscape (c : Char) : Bool :=
  isGraphemeExtend c || !isPrintable c

/-- How one character is written between the quotes. -/
def escapeChar (c : Char) : List Char :=
  match c with
  | '\x00' => ['\\', '0']
  | '\t' => ['\\', 't']
  | '\r' => ['\\', 'r']
  | '\n' => ['\\', 'n']
  | '\\' => ['\\', '\\']
  | '"' => ['\\', '"']
  | c => if needsUnicodeEscape c then unicodeEscape c else [c]

/-- The characters of `s` in quoted form, the quotes included. -/
def quoteChars (cs : List Char) : List Char :=
  '"' :: cs.flatMap escapeChar ++ ['"']

/-- `s` in quoted form, the quotes included. -/
def quote (s : String) : String :=
  String.ofList (quoteChars s.toList)

example : quote "á\n'" = "\"a\\u\x7b301\x7d\\n'\"" := by decide +kernel

end OpcodeTable.Text
