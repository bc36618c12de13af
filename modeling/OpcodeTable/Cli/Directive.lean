import OpcodeTable.Cli.Log
import OpcodeTable.Pattern.Check
import OpcodeTable.Text.Alphanumeric
import OpcodeTable.Text.Slice
/-!
# Log directives

A log filter is a comma-separated list of directives (`Cli.LogFilter`). A directive says which
levels to let through, everywhere or for a target, a span and the span's fields:

* a level filter alone, a level name in any case or a count from 0 to 5 in digits (`debug`,
  `WARN`, `04`), applies everywhere;
* otherwise a target comes first (the text before any `[` or `=`, taken as it is, even when it
  reads as a level), then optionally a span in brackets, then optionally `=` and a level
  filter: `core::render=debug`, `[load]=trace`, `core[load{len=10}]`. Without a level, or with
  an empty one, the directive lets everything through.

A directive starts with `[` or with a letter, a digit, `_`, `:` or `-`; anything else is
malformed. A span in brackets is a name (possibly empty), then optionally a field item in
braces, which must close the span. With a field item, an empty name asks for any span. The
item is `name` or `name=value`, and the value is the text between the first `=` and any second
one. It is `true`, `false`, a number, or else a pattern, which must be well formed
(`Pattern.wellFormed`). Nothing but `=` and a level may follow the span.

The text is read one character at a time through the phases of `Phase`, with the white space
at both of its ends set aside. The phases count byte offsets in the text so read, and the
pieces (the target, the span name, the field item and the level) are cut at those offsets
from the text as written. When the text starts with white space, the pieces are therefore
shifted: in `" x=debug"` the target is `" "` and the level is `"=debug"`, which is malformed,
while `" x"` is a target `" x"` that names nothing. A piece that runs to the end is cut to the
end of the text as written, so `"debug "` is a target, not a level. A cut that falls inside a
character stops the reading altogether (`Directive.Fault.charCut`).

A directive with no `=` and no `[` is therefore one piece, the text from its first byte, read as
a level filter or else as a target (`Directive.read_of_one_piece`); one that starts with
anything else than `[` or a target's first character is malformed
(`Directive.read_of_bad_start`).
-/

namespace OpcodeTable.Cli

/-- The ASCII lower case of a text. -/
def lowerAscii (s : String) : String := String.map Char.toLower s

/-- The names of the levels, least verbose first after `off`. -/
def levelNames : List (String × LevelFilter) :=
  [("off", .off), ("error", .upTo .error), ("warn", .upTo .warn), ("info", .upTo .info),
    ("debug", .upTo .debug), ("trace", .upTo .trace)]

/-- A decimal count with an optional leading `+`, below 2^64. -/
def count? (s : String) : Option Nat :=
  let ds := match s.toList with
    | '+' :: ds => ds
    | ds => ds
  if !ds.isEmpty && ds.all Char.isDigit then
    let n := ds.foldl (fun n c => 10 * n + (c.toNat - '0'.toNat)) 0
    if n < Nat.pow 2 64 then some n else none
  else none

/-- A level filter as a directive writes it: a count from 0 (`off`) to 5 (`trace`), the empty
text (`error`), or a level name in any case. -/
def LevelFilter.parse? (s : String) : Option LevelFilter :=
  match count? s with
  | some n => LevelFilter.ofRank? n
  | none => if s.isEmpty then some (.upTo .error) else levelNames.lookup (lowerAscii s)

/-- Whether a text is a decimal number: an optional sign, then `inf`, `infinity` or `nan` in any
case, or digits with an optional point and fraction (at least one digit in all) and an
optional exponent. -/
def readsAsNumber (s : String) : Bool :=
  let cs := match s.toList with
    | '+' :: cs => cs
    | '-' :: cs => cs
    | cs => cs
  let word := lowerAscii (String.ofList cs)
  if word == "inf" || word == "infinity" || word == "nan" then true else
  let (whole, rest) := cs.span Char.isDigit
  let (fraction, rest) := match rest with
    | '.' :: more => more.span Char.isDigit
    | _ => ([], rest)
  let exponentOk := match rest with
    | [] => true
    | e :: more =>
      (e == 'e' || e == 'E') &&
        let ds := match more with
          | '+' :: ds => ds
          | '-' :: ds => ds
          | ds => ds
        !ds.isEmpty && ds.all Char.isDigit
  !(whole.isEmpty && fraction.isEmpty) && exponentOk

/-- A field a directive asks a span for, with the value it must have, if any. -/
structure FieldRule where
  name : String
  value : Option String
deriving Repr, DecidableEq

/-- The field rule of one item of a field list: the name is the text before the first `=`, the
value the text between it and the next `=`, if any. -/
def FieldRule.ofItem (item : List Char) : FieldRule :=
  match item.span (· != '=') with
  | (name, '=' :: value) => ⟨String.ofList name, some (String.ofList (value.takeWhile (· != '=')))⟩
  | (name, _) => ⟨String.ofList name, none⟩

/-- Whether a field rule's value, if any, is `true`, `false`, a number or a well-formed
pattern. -/
def FieldRule.reads (r : FieldRule) : Bool :=
  r.value.all fun v => v == "true" || v == "false" || readsAsNumber v || Pattern.wellFormed v

/-- Whether a count field's value is the one asked for: the value must be a count. -/
def FieldRule.allowsCount (r : FieldRule) (n : Nat) : Bool :=
  match r.value with
  | some v => count? v == some n
  | none => true

/-- One rule of a filter. -/
structure Directive where
  level : LevelFilter
  target : Option String
  span : Option String
  fields : List FieldRule
deriving Repr, DecidableEq

/-- Whether `c` may start a target: a letter, a digit, `_`, `:` or `-`. -/
def isTargetStart (c : Char) : Bool :=
  Text.isAlphanumeric c || c == '_' || c == ':' || c == '-'


namespace Directive

/-- Why a text is not read as a directive. -/
inductive Fault where
  /-- The text is not a directive. -/
  | malformed
  /-- A piece of the directive was to be cut inside a character. -/
  | charCut (cut : Text.CharCut)
deriving Repr, DecidableEq

/-- How far a directive has been read. Each offset is where the piece being read starts. -/
inductive Phase where
  /-- Nothing read yet. -/
  | start
  /-- A target, or a level filter that applies everywhere. -/
  | targetOrLevel (begin : Nat)
  /-- A span name. -/
  | spanName (begin : Nat)
  /-- A field item. -/
  | field (begin : Nat)
  /-- The field item closed; the span must close next. -/
  | fieldClosed
  /-- The span closed; only `=` and a level may follow. -/
  | spanClosed
  /-- A level filter. -/
  | level (begin : Nat)
deriving Repr, DecidableEq

/-- A directive being read: its phase and the target, span and field rules read so far. -/
structure Reading where
  phase : Phase
  target : Option String
  span : Option String
  fields : List FieldRule
deriving Repr, DecidableEq

/-- Nothing read yet. -/
def Reading.initial : Reading := ⟨.start, none, none, []⟩

/-- The piece of the text `s` between two byte offsets. -/
def piece (s : String) (a b : Nat) : Except Fault String :=
  (Text.slice s a b).mapError .charCut

/-- The field rule of the item of `s` between two byte offsets: the item must not be empty,
and its value, if any, must read. -/
def fieldAt (s : String) (a b : Nat) : Except Fault FieldRule := do
  let item ← piece s a b
  if item.isEmpty then throw .malformed
  let r := FieldRule.ofItem item.toList
  if r.reads then pure r else throw .malformed

/-- Reads one character of the text `s`, at a byte offset of the text read. -/
def Reading.step (s : String) (r : Reading) : Nat × Char → Except Fault Reading
  | (i, c) =>
    match r.phase, c with
    | .start, '[' => pure { r with phase := .spanName (i + 1) }
    | .start, c =>
      if isTargetStart c then pure { r with phase := .targetOrLevel i } else throw .malformed
    | .targetOrLevel b, '=' => do
      let t ← piece s b i
      pure { r with phase := .level (i + 1), target := some t }
    | .targetOrLevel b, '[' => do
      let t ← piece s b i
      pure { r with phase := .spanName (i + 1), target := some t }
    | .targetOrLevel _, _ => pure r
    | .spanName b, ']' => do
      let n ← piece s b i
      pure { r with phase := .spanClosed, span := some n }
    | .spanName b, '\x7b' => do
      let n ← piece s b i
      pure { r with phase := .field (i + 1), span := if n.isEmpty then none else some n }
    | .spanName _, _ => pure r
    | .field b, '\x7d' => do
      let f ← fieldAt s b i
      pure { r with phase := .fieldClosed, fields := r.fields ++ [f] }
    | .field _, _ => pure r
    | .fieldClosed, ']' => pure { r with phase := .spanClosed }
    | .spanClosed, '=' => pure { r with phase := .level (i + 1) }
    | .level _, _ => pure r
    | _, _ => throw .malformed

/-- The directive read, once the text `s` has ended. -/
def Reading.finish (s : String) (r : Reading) : Except Fault Directive :=
  match r.phase with
  | .targetOrLevel b => do
    let t ← piece s b s.utf8ByteSize
    match LevelFilter.parse? t with
    | some l => pure ⟨l, none, none, []⟩
    | none => pure ⟨.upTo .trace, some t, none, []⟩
  | .level b => do
    let l ← piece s b s.utf8ByteSize
    if l.isEmpty then pure ⟨.upTo .trace, r.target, r.span, r.fields⟩ else
    match LevelFilter.parse? l with
    | some level => pure ⟨level, r.target, r.span, r.fields⟩
    | none => throw .malformed
  | .spanClosed => pure ⟨.upTo .trace, r.target, r.span, r.fields⟩
  | _ => throw .malformed

/-- The characters of a text without the white space at either end. -/
def trimmed (s : String) : List Char :=
  ((s.toList.dropWhile Text.isWhiteSpace).reverse.dropWhile Text.isWhiteSpace).reverse

/-- Reads a directive: its text without the white space at either end, one character at a
time, with the pieces cut from the text as written. -/
def read (s : String) : Except Fault Directive := do
  let r ← (Text.placedFrom 0 (trimmed s)).foldlM (Reading.step s) Reading.initial
  r.finish s

/-- The cut that stopped reading a directive, if one did. -/
def charCutOf : Except Fault Directive → Option Text.CharCut
  | .error (.charCut c) => some c
  | _ => none

/-! ## Reading one piece -/

/-- A character other than `=` and `[` leaves a target or a level filter being read as it
is. -/
theorem step_targetOrLevel (s : String) {r : Reading} {b : Nat}
    (hr : r.phase = .targetOrLevel b) (i : Nat) {c : Char} (hc : c ≠ '=' ∧ c ≠ '[') :
    r.step s (i, c) = .ok r := by
  obtain ⟨phase, target, span, fields⟩ := r
  simp only at hr
  subst hr
  simp [Reading.step, hc.1, hc.2, pure, Except.pure]

/-- Characters other than `=` and `[` leave a target or a level filter being read as it is, one
after another. -/
theorem foldlM_targetOrLevel (s : String) (r : Reading) {b : Nat}
    (hr : r.phase = .targetOrLevel b) (ps : List (Nat × Char))
    (hps : ∀ p ∈ ps, p.2 ≠ '=' ∧ p.2 ≠ '[') :
    ps.foldlM (Reading.step s) r = .ok r := by
  induction ps with
  | nil => rfl
  | cons p ps ih =>
    obtain ⟨i, c⟩ := p
    rw [List.foldlM_cons, step_targetOrLevel s hr i (hps (i, c) List.mem_cons_self)]
    exact ih fun q hq => hps q (List.mem_cons_of_mem _ hq)

/-- **A directive of one piece.** A directive that starts with a letter, a digit, `_`, `:` or
`-` and holds no `=` and no `[` is one piece, cut from the text as written from its first byte:
a level filter that applies everywhere when the piece reads as one, and a target otherwise. -/
theorem read_of_one_piece {s : String} {c : Char} {cs : List Char} (htrim : trimmed s = c :: cs)
    (hc : isTargetStart c = true) (hcs : ∀ x ∈ cs, x ≠ '=' ∧ x ≠ '[') :
    read s = Reading.finish s ⟨.targetOrLevel 0, none, none, []⟩ := by
  have hbracket : c ≠ '[' := by
    rintro rfl
    exact absurd hc (by decide +kernel)
  -- the first character opens the piece, and the others leave it open
  have hfirst : Reading.initial.step s (0, c) = .ok ⟨.targetOrLevel 0, none, none, []⟩ := by
    -- the discharger rules out `[` by `hbracket`
    simp [Reading.step, Reading.initial, hc, pure, Except.pure]
  have hrest := foldlM_targetOrLevel s ⟨.targetOrLevel 0, none, none, []⟩ rfl
    (Text.placedFrom (0 + c.utf8Size) cs) fun p hp => by
      have hmem : p.2 ∈ (Text.placedFrom (0 + c.utf8Size) cs).map (·.2) :=
        List.mem_map_of_mem hp
      rw [Text.map_snd_placedFrom] at hmem
      exact hcs p.2 hmem
  unfold read
  rw [htrim, Text.placedFrom, List.foldlM_cons, hfirst]
  simp only [bind, Except.bind, hrest]

example : (Directive.read "04").toOption.map (·.level) = some (.upTo .debug) := by decide +kernel

example : (Directive.read "debug ").toOption.map (·.target) = some (some "debug ") ∧
    (Directive.read " x").toOption.map (·.target) = some (some " x") := by
  decide +kernel

/-- A directive that starts with anything but `[`, a letter, a digit, `_`, `:` or `-` is
malformed. -/
theorem read_of_bad_start {s : String} {c : Char} {cs : List Char} (htrim : trimmed s = c :: cs)
    (hbracket : c ≠ '[') (hc : isTargetStart c = false) : read s = .error .malformed := by
  have hfirst : Reading.initial.step s (0, c) = .error .malformed := by
    simp [Reading.step, Reading.initial, hc, throw, throwThe, MonadExceptOf.throw]
  unfold read
  rw [htrim, Text.placedFrom, List.foldlM_cons, hfirst]
  rfl

example : (Directive.read "=[bad").toOption = none := by decide +kernel

example : Directive.charCutOf (Directive.read "\u00a0x=debug") =
    some ⟨1, '\u00a0', 0, "\u00a0x=debug"⟩ := by
  decide +kernel

end Directive

end OpcodeTable.Cli
