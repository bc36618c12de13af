import OpcodeTable.Pattern.Scan
import OpcodeTable.Pattern.Ranges
/-!
# Bracketed classes

A class in brackets lists characters, ranges `a-z`, ASCII classes `[:alpha:]`, the escapes
`\d`, `\s`, `\w` and their negations, and nested classes. Its parts may be joined by `&&`
(intersection), `--` (difference) and `~~` (symmetric difference), which group from the left.
A `^` first negates the class. Leading `-` stand for themselves, and so does a `]` that comes
first, so no class is empty as written.

A class is checked as it is read, in the mode in force:

* With `u`, the class is a set of characters. `\d`, `\s` and `\w` need Unicode tables and are
  refused. Under `i`, matching in either case would need case tables too, so every part that
  would have to be folded must be empty. An ASCII class is folded on its own, and the operands
  of a set operator and every bracket are folded as a whole.
* Without `u`, the class is a set of bytes. A character must be ASCII, even when written
  `\xNN`, and a negated escape is refused. Every bracket, and every ASCII class, must stay within
  ASCII once negated, since a byte outside it could split a character.

Besides its members, a part records how deeply its syntax nests, for the nesting limit of the
whole pattern. A bracket adds one level. So does a union of two or more items, and so does a
set operator.

Whatever is inside, the class read is the outermost bracket (`readClassFrom_bracket`): it nests
one level at least, and without `u` holds ASCII only (`readClass_spec`).
-/

namespace OpcodeTable.Pattern

/-- The operators that join the parts of a class. -/
inductive SetOp where
  | intersection
  | difference
  | symmetricDifference
deriving Repr, DecidableEq

/-- The set an operator makes of its operands. -/
def SetOp.apply : SetOp → Ranges → Ranges → Ranges
  | .intersection, a, b => Ranges.inter a b
  | .difference, a, b => Ranges.diff a b
  | .symmetricDifference, a, b => Ranges.symmDiff a b

/-- A part of a class, checked: its members and the depth its syntax nests to. -/
structure Part where
  members : Ranges
  depth : Nat
deriving Repr, DecidableEq

/-- Everything a class may hold in a mode: characters with `u`, bytes without. -/
def Mode.universe (m : Mode) : Ranges :=
  if m.unicode then Ranges.chars else Ranges.bytes

/-- The members of the ASCII class with a name. -/
def asciiClass? : String → Option Ranges
  | "alnum" => some [(0x30, 0x39), (0x41, 0x5A), (0x61, 0x7A)]
  | "alpha" => some [(0x41, 0x5A), (0x61, 0x7A)]
  | "ascii" => some [(0x00, 0x7F)]
  | "blank" => some [(0x09, 0x09), (0x20, 0x20)]
  | "cntrl" => some [(0x00, 0x1F), (0x7F, 0x7F)]
  | "digit" => some [(0x30, 0x39)]
  | "graph" => some [(0x21, 0x7E)]
  | "lower" => some [(0x61, 0x7A)]
  | "print" => some [(0x20, 0x7E)]
  | "punct" => some [(0x21, 0x2F), (0x3A, 0x40), (0x5B, 0x60), (0x7B, 0x7E)]
  | "space" => some [(0x09, 0x0D), (0x20, 0x20)]
  | "upper" => some [(0x41, 0x5A)]
  | "word" => some [(0x30, 0x39), (0x41, 0x5A), (0x5F, 0x5F), (0x61, 0x7A)]
  | "xdigit" => some [(0x30, 0x39), (0x41, 0x46), (0x61, 0x66)]
  | _ => none

/-- The ASCII members of `\d`, `\s` and `\w`. -/
def perlClass : Char → Ranges
  | 'd' => [(0x30, 0x39)]
  | 's' => [(0x09, 0x0D), (0x20, 0x20)]
  | _ => [(0x30, 0x39), (0x41, 0x5A), (0x5F, 0x5F), (0x61, 0x7A)]

/-- The code point a literal of a class stands for. Without `u`, a character must be ASCII,
however it is written: a byte `\xNN` above `7F` could split a character, and other
characters would need case tables. -/
def literalPoint? (m : Mode) (c : Char) : Option Nat :=
  if m.unicode || c.toNat < 0x80 then some c.toNat else none

/-- A class item that is a character or an escape. Anchors and word boundaries are no
members, and `\d`, `\s`, `\w` are refused with `u` and, negated, without it. -/
def atomPart? (m : Mode) : Atom → Option Part
  | .literal c _ => (literalPoint? m c).map fun n => ⟨Ranges.single n, 0⟩
  | .perl kind negated =>
    if m.unicode || negated then none else some ⟨perlClass kind, 0⟩
  | _ => none

/-- A range item `a-b`: both ends must be characters, the first not above the second. -/
def rangePart? (m : Mode) : Atom → Atom → Option Part
  | .literal a _, .literal b _ => do
    if b < a then none else
    let lo ← literalPoint? m a
    let hi ← literalPoint? m b
    some ⟨[(lo, hi)], 0⟩
  | _, _ => none

/-- An ASCII class item, folded and negated on its own. -/
def asciiPart? (m : Mode) (name : String) (negated : Bool) : Option Part := do
  let members ← asciiClass? name
  if m.unicode && m.caseless then none else
  let members := if negated then Ranges.diff m.universe members else members
  if !m.unicode && !Ranges.isAscii members then none else
  some ⟨members, 0⟩

/-- The items of a union as one part: nothing, the one item, or a union, which nests one
level deeper than its deepest item. -/
def unionPart : List Part → Part
  | [] => ⟨[], 0⟩
  | [p] => p
  | ps => ⟨ps.flatMap (·.members), 1 + (ps.map (·.depth)).foldl max 0⟩

/-- Applies a pending operator to its right operand. Under `i` with `u`, both operands would
have to be folded, so both must be empty. -/
def applyPending? (m : Mode) : Option (SetOp × Part) → Part → Option Part
  | none, rhs => some rhs
  | some (op, lhs), rhs =>
    if m.unicode && m.caseless && !(lhs.members.isEmpty && rhs.members.isEmpty) then none
    else some ⟨op.apply lhs.members rhs.members, 1 + max lhs.depth rhs.depth⟩

/-- A bracket with its contents: folded (which under `i` with `u` needs the contents empty),
negated if asked, and without `u` within ASCII. -/
def bracketPart? (m : Mode) (negated : Bool) (inside : Part) : Option Part :=
  if m.unicode && m.caseless && !inside.members.isEmpty then none else
  let members := if negated then Ranges.diff m.universe inside.members else inside.members
  if !m.unicode && !Ranges.isAscii members then none else
  some ⟨members, 1 + inside.depth⟩

/-- A bracket being read: whether it is negated, an operator with its left operand waiting for
the right one, and the items read since. -/
structure Level where
  negated : Bool
  pending : Option (SetOp × Part)
  items : List Part
deriving Repr

/-- Reads `[:name:]` or `[:^name:]`, the `[` at hand, naming a known ASCII class: the name,
whether it is negated, and the rest. -/
def readAsciiClass : List Char → Option (String × Bool × List Char)
  | '[' :: ':' :: rest =>
    let (negated, rest) := match rest with
      | '^' :: more => (true, more)
      | more => (false, more)
    match rest.span (· != ':') with
    | (name, ':' :: ']' :: after) =>
      let name := String.ofList name
      if (asciiClass? name).isSome then some (name, negated, after) else none
    | _ => none
  | _ => none

/-- Reads the leading `-` of a bracket, each a member, white space after each skipped when the
pattern is spaced. The bracket may not end there. `fuel` is the length of the text plus one. -/
def leadingDashes (spaced : Bool) : Nat → List Char → Option (List Part × List Char)
  | 0, _ => none
  | fuel + 1, '-' :: rest =>
    match skipSpace spaced rest with
    | [] => none
    | more => (leadingDashes spaced fuel more).map fun r => (⟨Ranges.single 0x2D, 0⟩ :: r.1, r.2)
  | _ + 1, cs => some ([], cs)

/-- Opens a bracket, the `[` at hand: whether it is negated, the items it starts with (its
leading `-`, or else a `]` right after the opening) and the rest. -/
def openBracket (spaced : Bool) (cs : List Char) : Option (Bool × List Part × List Char) := do
  let rest := skipSpace spaced cs.tail
  if rest.isEmpty then none else
  let (negated, rest) ←
    if rest.head? == some '^' then
      let more := skipSpace spaced rest.tail
      if more.isEmpty then none else some (true, more)
    else some (false, rest)
  let (dashes, rest) ← leadingDashes spaced (rest.length + 1) rest
  if dashes.isEmpty && rest.head? == some ']' then
    let more := skipSpace spaced rest.tail
    if more.isEmpty then none else some (negated, [⟨Ranges.single 0x5D, 0⟩], more)
  else some (negated, dashes, rest)

/-- Reads a character or an escape inside a class. -/
def readClassAtom (spaced : Bool) : List Char → Option (Atom × List Char)
  | '\\' :: rest => readEscape spaced rest
  | c :: rest => some (.literal c false, rest)
  | [] => none

/-- Reads a class item that is neither a bracket nor an operator: a character or an escape, or
a range of two. A `-` makes a range unless a `]` or another `-` follows it. -/
def readItem (m : Mode) (cs : List Char) : Option (Part × List Char) := do
  let (a, rest) ← readClassAtom m.spaced cs
  let rest := skipSpace m.spaced rest
  match rest with
  | [] => none
  | c :: more =>
    let next := peekSpace m.spaced rest
    if c != '-' || next == some ']' || next == some '-' then
      let p ← atomPart? m a
      some (p, rest)
    else
      let after := skipSpace m.spaced more
      if after.isEmpty then none else
      let (b, rest) ← readClassAtom m.spaced after
      let p ← rangePart? m a b
      some (p, rest)

/-- Adds an item to the innermost bracket. -/
def Level.push (l : Level) (p : Part) : Level :=
  { l with items := l.items ++ [p] }

/-- Reads on in a class, with the open brackets innermost first. Every step reads at least one
character, so `fuel` is the length of the text plus one. Gives the outermost bracket when it
closes, and the rest. -/
def readClassFrom (m : Mode) : Nat → List Level → List Char → Option (Part × List Char)
  | 0, _, _ => none
  | fuel + 1, levels, cs =>
    let cs := skipSpace m.spaced cs
    let openNew : Unit → Option (Part × List Char) := fun _ => do
      let (negated, items, rest) ← openBracket m.spaced cs
      readClassFrom m fuel (⟨negated, none, items⟩ :: levels) rest
    let operator (op : SetOp) (rest : List Char) : Option (Part × List Char) :=
      match levels with
      | level :: outer => do
        let lhs ← applyPending? m level.pending (unionPart level.items)
        readClassFrom m fuel (⟨level.negated, some (op, lhs), []⟩ :: outer) rest
      | [] => none
    match cs, levels with
    | [], _ => none
    | '[' :: _, [] => openNew ()
    | '[' :: _, level :: outer =>
      match readAsciiClass cs with
      | some (name, negated, rest) => do
        let p ← asciiPart? m name negated
        readClassFrom m fuel (level.push p :: outer) rest
      | none => openNew ()
    | ']' :: rest, level :: outer => do
      let inside ← applyPending? m level.pending (unionPart level.items)
      let b ← bracketPart? m level.negated inside
      match outer with
      | [] => some (b, rest)
      | parent :: up => readClassFrom m fuel (parent.push b :: up) rest
    | '&' :: '&' :: rest, _ => operator .intersection rest
    | '-' :: '-' :: rest, _ => operator .difference rest
    | '~' :: '~' :: rest, _ => operator .symmetricDifference rest
    | _, level :: outer => do
      let (p, rest) ← readItem m cs
      readClassFrom m fuel (level.push p :: outer) rest
    | _, [] => none

/-- Reads a class, the `[` at hand: the class, checked, and the rest after its `]`. -/
def readClass (m : Mode) (cs : List Char) : Option (Part × List Char) :=
  readClassFrom m (cs.length + 1) [] cs

/-! ## What every class is -/

/-- A bracket nests one level deeper than its contents, and without `u` holds ASCII only. -/
theorem bracketPart?_spec {m : Mode} {negated : Bool} {inside p : Part}
    (h : bracketPart? m negated inside = some p) :
    1 ≤ p.depth ∧ (m.unicode = false → Ranges.isAscii p.members = true) := by
  unfold bracketPart? at h
  split at h
  · cases h
  · -- the members, negated or not, must stay within ASCII without `u`
    generalize (if negated then Ranges.diff m.universe inside.members else inside.members) =
      members at h
    simp only at h
    split at h
    · cases h
    · rename_i hascii
      cases h
      refine ⟨Nat.le_add_right 1 _, fun hu => ?_⟩
      simpa [hu] using hascii

/-- Reading a class ends only at the closing bracket of its outermost bracket. -/
theorem readClassFrom_bracket {m : Mode} {fuel : Nat} {levels : List Level} {cs : List Char}
    {p : Part} {rest : List Char} (h : readClassFrom m fuel levels cs = some (p, rest)) :
    ∃ negated inside, bracketPart? m negated inside = some p := by
  induction fuel generalizing levels cs with
  | zero => simp [readClassFrom] at h
  | succ fuel ih =>
    simp only [readClassFrom, Option.bind_eq_bind] at h
    split at h
    case h_1 => cases h
    case h_4 =>
      -- a closing bracket: the outermost one gives the class
      obtain ⟨_, -, h⟩ := Option.bind_eq_some_iff.1 h
      obtain ⟨b, hb, h⟩ := Option.bind_eq_some_iff.1 h
      split at h
      · cases h
        exact ⟨_, _, hb⟩
      · exact ih h
    case h_3 =>
      -- an ASCII class or a nested bracket
      split at h <;>
        · obtain ⟨_, -, h⟩ := Option.bind_eq_some_iff.1 h
          exact ih h
    case h_5 | h_6 | h_7 =>
      -- an operator: its left operand waits for the right one
      split at h
      · obtain ⟨_, -, h⟩ := Option.bind_eq_some_iff.1 h
        exact ih h
      · cases h
    case h_2 | h_8 =>
      -- a bracket opens, or an item is read
      obtain ⟨_, -, h⟩ := Option.bind_eq_some_iff.1 h
      exact ih h
    case h_9 => cases h

/-- **A class is a bracket.** Every class read nests at least one level, and without `u` it holds
ASCII code points only: a byte beyond ASCII could split a character. -/
theorem readClass_spec {m : Mode} {cs : List Char} {p : Part} {rest : List Char}
    (h : readClass m cs = some (p, rest)) :
    1 ≤ p.depth ∧ (m.unicode = false → Ranges.isAscii p.members = true) := by
  obtain ⟨negated, inside, hb⟩ := readClassFrom_bracket h
  exact bracketPart?_spec hb

example : (readClass Mode.initial "[a-z]x".toList).map (·.2) = some ['x'] ∧
    (readClass Mode.initial "[\\d]".toList).isSome = false := by
  decide +kernel

example : (readClass ⟨false, false, false⟩ "[^a]".toList).isSome = false ∧
    (readClass ⟨false, false, false⟩ "[^\\x80-\\xFF]".toList).isSome = false := by
  decide +kernel

end OpcodeTable.Pattern
