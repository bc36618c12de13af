/-!
# Identifiers of generated source

Names taken from the dataset become identifiers of the generated source. An identifier starts
with an ASCII letter or `_`, goes on with ASCII letters, digits and `_`, is not `_` alone, and is
not a reserved word. An operand name that starts with a digit (a bit index such as `0`) is
written with a leading `_`.
-/

namespace OpcodeTable.Ident

/-- The reserved words of the generated language: strict, reserved and weak keywords. -/
def keywords : List String :=
  ["as", "async", "await", "break", "const", "continue", "crate", "dyn", "else", "enum",
   "extern", "false", "fn", "for", "if", "impl", "in", "let", "loop", "match", "mod", "move",
   "mut", "pub", "ref", "return", "self", "Self", "static", "struct", "super", "trait", "true",
   "type", "unsafe", "use", "where", "while", "abstract", "become", "box", "do", "final", "gen",
   "macro", "override", "priv", "try", "typeof", "unsized", "virtual", "yield"]

/-- A character that may open an identifier: an ASCII letter or `_`. -/
def isStart (c : Char) : Bool :=
  c.isAlpha || c == '_'

/-- A character that may continue an identifier: an ASCII letter, an ASCII digit or `_`. -/
def isPart (c : Char) : Bool :=
  c.isAlphanum || c == '_'

/-- Whether `s` can name an item of the generated source. -/
def isValid (s : String) : Bool :=
  match s.toList with
  | [] => false
  | c :: rest => s != "_" && isStart c && rest.all isPart && !keywords.contains s

/-- The mark written before an operand name that starts with a digit. -/
def digitMark : Char := '_'

/-- Whether an operand name needs the mark: it starts with an ASCII digit. -/
def startsWithDigit (name : String) : Bool :=
  match name.toList with
  | c :: _ => c.isDigit
  | [] => false

/-- The identifier of an operand name: the name itself, marked when it starts with a digit. -/
def ofOperandName (name : String) : String :=
  if startsWithDigit name then String.singleton digitMark ++ name else name

example : isValid "a16" = true ∧ isValid "_" = false ∧ isValid "Self" = false := by decide
example : ofOperandName "0" = "_0" ∧ ofOperandName "HL" = "HL" := by decide

end OpcodeTable.Ident
