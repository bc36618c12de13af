import OpcodeTable.Pattern.Class
/-!
# Well-formed patterns

Whether a text is a pattern the log filter's matcher accepts. The matcher reads the usual
syntax: characters, escapes, `.`, anchors, classes, groups `(…)`, `(?:…)`, `(?flags:…)`,
`(?P<name>…)` and `(?<name>…)`, flag settings `(?flags)`, alternation `|`, and the repetitions
`?`, `*`, `+` and `{m}`, `{m,}`, `{m,n}`, each optionally followed by `?`.

The matcher has no Unicode tables and only matches valid UTF-8. So beyond the syntax:

* with `u` (on at the start), `\d`, `\s`, `\w`, their negations and the word boundaries are
  refused, and under `i` so is every character, since folding case needs tables;
* without `u`, `.`, negated escapes and `\xNN` above `7F` are refused, since each could match
  a byte that splits a character (classes are checked in `Pattern.Class`); the word
  boundaries are then those of ASCII and are allowed;
* Unicode properties `\p` are refused in every mode.

Flags set by `(?flags)` hold to the end of the enclosing group, and flags of `(?flags:…)` hold
inside it. A repetition needs something before it to repeat, and a flag setting is not such a
thing. Group names are unique. The syntax may nest at most 250 levels deep. A group, an
alternation, a repetition, and a sequence of two or more pieces each add a level, and classes
add theirs (`Part.depth`).

No pattern opens with a repetition or a closing parenthesis (`wellFormed_cons_eq_false`), and a
word of ASCII letters and digits is always a pattern (`wellFormed_of_isAlphanum`).

The text is read once, from left to right, with a stack of the open groups. Every step reads
at least one character, so the length of the text bounds the steps.
-/

namespace OpcodeTable.Pattern

/-- How deeply the syntax of a pattern may nest. -/
def nestLimit : Nat := 250

/-- A piece of a pattern, as repetition and the nesting limit see it: whether it is a flag
setting, which cannot be repeated, and how deeply it nests. -/
structure Piece where
  isFlags : Bool
  depth : Nat
deriving Repr, DecidableEq

/-- A piece that nests no deeper than itself: a character, an escape or an anchor. -/
def Piece.atom : Piece := ⟨false, 0⟩

/-- A flag setting `(?flags)`. -/
def Piece.flags : Piece := ⟨true, 0⟩

/-- A piece holding others: one level deeper than the deepest of them. -/
def Piece.around (ps : List Piece) : Piece := ⟨false, 1 + (ps.map (·.depth)).foldl max 0⟩

/-- A sequence of pieces as one piece: nothing, the one piece, or a concatenation. -/
def Piece.ofSeq : List Piece → Piece
  | [] => ⟨false, 0⟩
  | [p] => p
  | ps => Piece.around ps

/-- An open group or alternation, as the reading keeps it. -/
inductive Frame where
  /-- A group: the pieces before it, last first, and the mode to restore when it closes. -/
  | group (before : List Piece) (outer : Mode)
  /-- The branches of an alternation read so far. -/
  | alternation (branches : List Piece)

/-- Whether an atom is allowed in a mode. -/
def atomAllowed (m : Mode) : Atom → Bool
  | .literal c byte => if m.unicode then !m.caseless else !(byte && 0x80 ≤ c.toNat)
  | .dot => m.unicode
  | .anchor => true
  | .wordBoundary => !m.unicode
  | .notWordBoundary => !m.unicode
  | .perl _ negated => !m.unicode && !negated

/-- Whether the text opens a look-around, which is not supported: `(?=`, `(?!`, `(?<=`,
`(?<!` (the `(` already read). -/
def isLookAround : List Char → Bool
  | '?' :: '=' :: _ => true
  | '?' :: '!' :: _ => true
  | '?' :: '<' :: '=' :: _ => true
  | '?' :: '<' :: '!' :: _ => true
  | _ => false

/-- Reads the digits of a repetition count, white space between them skipped when the pattern
is spaced. `fuel` is the length of the text plus one. -/
def countDigits (spaced : Bool) : Nat → List Char → List Char × List Char
  | 0, cs => ([], cs)
  | fuel + 1, c :: rest =>
    if c.isDigit then
      let r := countDigits spaced fuel (skipSpace spaced rest)
      (c :: r.1, r.2)
    else ([], c :: rest)
  | _ + 1, [] => ([], [])

/-- Reads a repetition count: white space, digits, white space. Gives the count if there are
digits and it fits 32 bits, and the rest. -/
def readCount (spaced : Bool) (cs : List Char) : Option Nat × List Char :=
  let cs := cs.dropWhile Text.isWhiteSpace
  let (ds, rest) := countDigits spaced (cs.length + 1) cs
  let rest := match rest with
    | c :: _ => if Text.isWhiteSpace c then
        (if spaced then skipBlank false rest else rest.dropWhile Text.isWhiteSpace)
      else rest
    | [] => []
  let n := ds.foldl (fun n c => 10 * n + (c.toNat - '0'.toNat)) 0
  (if ds.isEmpty || Nat.pow 2 32 ≤ n then none else some n, rest)

/-- Reads a counted repetition after its `{`: `m}`, `m,}` or `m,n}` with `m ≤ n`, then an
optional `?`. Gives the rest. -/
def readCounted (spaced : Bool) (cs : List Char) : Option (List Char) := do
  let cs := skipSpace spaced cs
  if cs.isEmpty then none else
  let (low, rest) := readCount spaced cs
  let rest ← match rest with
    | ',' :: more =>
      match skipSpace spaced more with
      | [] => none
      | '\x7d' :: after => low.map fun _ => after
      | more => do
        let lo ← low
        let (high, rest) := readCount spaced more
        let hi ← high
        if hi < lo then none else
        match rest with
        | '\x7d' :: after => some after
        | _ => none
    | '\x7d' :: after => low.map fun _ => after
    | _ => none
  match skipSpace spaced rest with
  | '?' :: after => some after
  | after => some after

/-- Reads on in a pattern: the mode in force, the open groups innermost first, the pieces of
the current sequence last first, and the group names used. Every step reads at least one
character, so `fuel` is the length of the text plus one. Gives the whole pattern as a piece. -/
def readFrom : Nat → Mode → List Frame → List Piece → List String → List Char → Option Piece
  | 0, _, _, _, _, _ => none
  | fuel + 1, m, frames, seq, names, cs =>
    match skipSpace m.spaced cs with
    | [] =>
      match frames with
      | [] => some (Piece.ofSeq seq)
      | [.alternation branches] => some (Piece.around (branches ++ [Piece.ofSeq seq]))
      | _ => none
    | '(' :: rest =>
      let rest := skipSpace m.spaced rest
      if isLookAround rest then none else
      let named := match rest with
        | '?' :: 'P' :: '<' :: more => some more
        | '?' :: '<' :: more => some more
        | _ => none
      match named, rest with
      | some more, _ => do
        let (name, after) ← readName [] more
        if names.contains name then none else
        readFrom fuel m (.group seq m :: frames) [] (names ++ [name]) after
      | none, '?' :: more => do
        if more.isEmpty then none else
        let (items, close, after) ← readFlags [] false false more
        if close == ')' then
          if items.isEmpty then none else
          readFrom fuel (m.set items) frames (Piece.flags :: seq) names after
        else readFrom fuel (m.set items) (.group seq m :: frames) [] names after
      | none, _ => readFrom fuel m (.group seq m :: frames) [] names rest
    | ')' :: rest =>
      match frames with
      | .alternation branches :: .group before outer :: up =>
        let inner := Piece.around (branches ++ [Piece.ofSeq seq])
        readFrom fuel outer up (Piece.around [inner] :: before) names rest
      | .group before outer :: up =>
        readFrom fuel outer up (Piece.around [Piece.ofSeq seq] :: before) names rest
      | _ => none
    | '|' :: rest =>
      match frames with
      | .alternation branches :: up =>
        readFrom fuel m (.alternation (branches ++ [Piece.ofSeq seq]) :: up) [] names rest
      | _ => readFrom fuel m (.alternation [Piece.ofSeq seq] :: frames) [] names rest
    | '[' :: rest => do
      let (p, after) ← readClass m ('[' :: rest)
      readFrom fuel m frames (⟨false, p.depth⟩ :: seq) names after
    | c :: rest =>
      if c == '?' || c == '*' || c == '+' then
        match seq with
        | p :: before =>
          if p.isFlags then none else
          let after := match rest with
            | '?' :: more => more
            | more => more
          readFrom fuel m frames (Piece.around [p] :: before) names after
        | [] => none
      else if c == '\x7b' then
        match seq with
        | p :: before => do
          if p.isFlags then none else
          let after ← readCounted m.spaced rest
          readFrom fuel m frames (Piece.around [p] :: before) names after
        | [] => none
      else do
        let (a, after) ← match c with
          | '\\' => readEscape m.spaced rest
          | '.' => some (.dot, rest)
          | '^' => some (.anchor, rest)
          | '$' => some (.anchor, rest)
          | _ => some (.literal c false, rest)
        if !atomAllowed m a then none else
        readFrom fuel m frames (Piece.atom :: seq) names after

/-- Whether a text is a well-formed pattern that the matcher accepts. -/
def wellFormed (s : String) : Bool :=
  match readFrom (s.length + 1) Mode.initial [] [] [] s.toList with
  | some p => p.depth ≤ nestLimit
  | none => false

/-! ## What every reading shows -/

/-- A repetition, or a closing parenthesis, cannot open a pattern: the one has nothing to
repeat and the other no group to close. -/
theorem wellFormed_cons_eq_false {c : Char}
    (hc : c = '?' ∨ c = '*' ∨ c = '+' ∨ c = '\x7b' ∨ c = ')') (cs : List Char) :
    wellFormed (String.ofList (c :: cs)) = false := by
  rcases hc with rfl | rfl | rfl | rfl | rfl <;>
    simp [wellFormed, readFrom, skipSpace, Mode.initial]

example : wellFormed "*a" = false ∧ wellFormed "a**" = true := by decide +kernel

/-- An ASCII letter or digit, at the start, is read as a character that stands for itself. -/
theorem readFrom_literal (fuel : Nat) (frames : List Frame) (seq : List Piece)
    (names : List String) {c : Char} (hc : c.isAlphanum = true) (cs : List Char) :
    readFrom (fuel + 1) Mode.initial frames seq names (c :: cs) =
      readFrom fuel Mode.initial frames (Piece.atom :: seq) names cs := by
  have hspecial : c ≠ '(' ∧ c ≠ ')' ∧ c ≠ '|' ∧ c ≠ '[' ∧ c ≠ '?' ∧ c ≠ '*' ∧ c ≠ '+' ∧
      c ≠ '\x7b' ∧ c ≠ '\\' ∧ c ≠ '.' ∧ c ≠ '^' ∧ c ≠ '$' := by
    refine ⟨?_, ?_, ?_, ?_, ?_, ?_, ?_, ?_, ?_, ?_, ?_, ?_⟩ <;> rintro rfl <;>
      exact absurd hc (by decide)
  simp [readFrom, skipSpace, Mode.initial, hspecial, atomAllowed]

/-- A run of ASCII letters and digits is read as that many characters, one after another. -/
theorem readFrom_literals (names : List String) (cs : List Char)
    (hcs : ∀ c ∈ cs, c.isAlphanum = true) (seq : List Piece) (fuel : Nat)
    (hfuel : cs.length < fuel) :
    readFrom fuel Mode.initial [] seq names cs =
      some (Piece.ofSeq (List.replicate cs.length Piece.atom ++ seq)) := by
  induction cs generalizing seq fuel with
  | nil =>
    obtain ⟨fuel, rfl⟩ : ∃ f, fuel = f + 1 := ⟨fuel - 1, by simp at hfuel; omega⟩
    simp [readFrom, skipSpace, Mode.initial]
  | cons c cs ih =>
    obtain ⟨fuel, rfl⟩ : ∃ f, fuel = f + 1 := ⟨fuel - 1, by simp at hfuel; omega⟩
    rw [readFrom_literal fuel [] seq names (hcs c List.mem_cons_self),
      ih (fun x hx => hcs x (List.mem_cons_of_mem _ hx)) _ fuel (by simp at hfuel; omega)]
    simp [List.replicate_succ']

/-- A sequence of pieces that nest no deeper than themselves nests at most one level. -/
theorem depth_ofSeq_le_one {ps : List Piece} (h : ∀ p ∈ ps, p.depth = 0) :
    (Piece.ofSeq ps).depth ≤ 1 := by
  have hmax : ∀ ds : List Nat, (∀ d ∈ ds, d = 0) → ds.foldl max 0 = 0 := by
    intro ds hds
    induction ds with
    | nil => rfl
    | cons d ds ih =>
      rw [List.foldl_cons, hds d List.mem_cons_self, Nat.max_self]
      exact ih fun x hx => hds x (List.mem_cons_of_mem _ hx)
  unfold Piece.ofSeq
  split
  · exact Nat.zero_le 1
  · rename_i p
    simp [h p List.mem_cons_self]
  · have hzero := hmax (ps.map (·.depth)) (by simpa using h)
    simp [Piece.around, hzero]

/-- **A word is a pattern.** A text of ASCII letters and digits is well formed: each of its
characters stands for itself, and the whole nests one level at most. -/
theorem wellFormed_of_isAlphanum {s : String} (hs : ∀ c ∈ s.toList, c.isAlphanum = true) :
    wellFormed s = true := by
  unfold wellFormed
  rw [readFrom_literals [] s.toList hs [] (s.length + 1) (by rw [String.length_toList]; omega)]
  have hdepth := depth_ofSeq_le_one
    (show ∀ p ∈ List.replicate s.toList.length Piece.atom ++ [], p.depth = 0 by
      simp [List.mem_replicate, Piece.atom])
  simpa [nestLimit] using Nat.le_trans hdepth (by decide : 1 ≤ 250)

example : wellFormed "(?-u:\\b)" = true ∧ wellFormed "\\d" = false := by decide +kernel

example : wellFormed "(?P<n>a)(?P<n>b)" = false := by decide +kernel

end OpcodeTable.Pattern
