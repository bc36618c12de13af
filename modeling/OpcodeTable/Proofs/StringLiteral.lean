import OpcodeTable.Text.Quoted
/-!
# Reading a string literal back

`Text.quote s` writes `s` as a string literal of the generated source. `Text.readLiteral` reads a
string literal as that source's language does: between double quotes, any character but the
quote, the backslash and a carriage return stands for itself, and a backslash starts an escape:
`\n`, `\r`, `\t`, `\\`, `\0`, `\'`, `\"`, `\xHH` up to `\x7f`, `\u{H..}` with one to six
hexadecimal digits (underscores allowed after the first) naming a character, or a backslash at
the end of a line, which drops the line feed and the blanks that follow.

`readLiteral_quote`: the literal that `quote s` writes reads back as `s`, with nothing left, so
every name the generated source quotes is denoted exactly (`denotes_quote`). It follows that
quoting is injective (`quote_injective`) and writes no line feed (`newline_not_mem_quote`).
-/

namespace OpcodeTable.Text

/-- The value of a hexadecimal digit. -/
def hexValue? (c : Char) : Option Nat :=
  if c.isDigit then some (c.toNat - '0'.toNat)
  else if 'a' ≤ c ∧ c ≤ 'f' then some (c.toNat - 'a'.toNat + 10)
  else if 'A' ≤ c ∧ c ≤ 'F' then some (c.toNat - 'A'.toNat + 10)
  else none

/-- Reads the digits of a `\u{..}` escape up to its closing brace, starting with `count` digits
read whose value is `value`: the number of digits, their value, and what follows the brace. -/
def readUnicodeDigits : List Char → Nat → Nat → Option (Nat × Nat × List Char)
  | [], _, _ => none
  | c :: rest, count, value =>
    if c = '\x7d' then some (count, value, rest)
    else if c = '_' then
      if count = 0 then none else readUnicodeDigits rest count value
    else (hexValue? c).bind fun v => readUnicodeDigits rest (count + 1) (16 * value + v)

/-- The blanks a line continuation drops. -/
def isContinuationBlank (c : Char) : Bool :=
  c = ' ' || c = '\t' || c = '\n' || c = '\r'

/-- Reads what follows a backslash: what the escape stands for (nothing for a line
continuation) and the rest. -/
def readEscape : List Char → Option (List Char × List Char)
  | 'n' :: rest => some (['\n'], rest)
  | 'r' :: rest => some (['\r'], rest)
  | 't' :: rest => some (['\t'], rest)
  | '\\' :: rest => some (['\\'], rest)
  | '0' :: rest => some (['\x00'], rest)
  | '\x27' :: rest => some (['\x27'], rest)
  | '"' :: rest => some (['"'], rest)
  | 'x' :: hi :: lo :: rest =>
    match hexValue? hi, hexValue? lo with
    | some h, some l => if h < 8 then some ([Char.ofNat (16 * h + l)], rest) else none
    | _, _ => none
  | 'u' :: '\x7b' :: rest =>
    match readUnicodeDigits rest 0 0 with
    | some (count, value, rest) =>
      if count ≤ 6 ∧ value.isValidChar then some ([Char.ofNat value], rest) else none
    | none => none
  | '\n' :: rest => some ([], rest.dropWhile isContinuationBlank)
  | _ => none

/-- Reads the body of a string literal up to its closing quote: the characters it stands for
and what follows the quote. Each step reads at least one character, so `fuel` one more than the
length of the text is enough. -/
def readBody : Nat → List Char → Option (List Char × List Char)
  | 0, _ => none
  | _ + 1, [] => none
  | fuel + 1, c :: rest =>
    if c = '"' then some ([], rest)
    else if c = '\\' then
      (readEscape rest).bind fun (cs, rest) =>
        (readBody fuel rest).map fun (body, after) => (cs ++ body, after)
    else if c = '\r' then none
    else (readBody fuel rest).map fun (body, after) => (c :: body, after)

/-- Reads a string literal at the start of `cs`: the characters it stands for and what follows
it. -/
def readLiteral : List Char → Option (List Char × List Char)
  | '"' :: rest => readBody (rest.length + 1) rest
  | _ => none

/-- The text `lit` is a string literal that stands for `s`. -/
def Denotes (lit s : String) : Prop :=
  readLiteral lit.toList = some (s.toList, [])

example : readLiteral "\"a\\u\x7b3_01\x7d\\\n  b\"".toList = some (['a', '\u0301', 'b'], []) := by
  decide +kernel

/-! ## Hexadecimal digits -/

theorem hexValue?_digitChar {d : Nat} (h : d < 16) : hexValue? (Nat.digitChar d) = some d := by
  have : ∀ d < 16, hexValue? (Nat.digitChar d) = some d := by decide
  exact this d h

theorem hexValue?_closing : hexValue? '\x7d' = none := by decide

theorem hexValue?_underscore : hexValue? '_' = none := by decide

/-- The value of a list of hexadecimal digits, most significant first, after `value`. -/
def hexFold (value : Nat) (ds : List Nat) : Nat :=
  ds.foldl (fun acc d => 16 * acc + d) value

theorem readUnicodeDigits_append (cs rest : List Char) (ds : List Nat)
    (hcs : cs.map hexValue? = ds.map some) (count value : Nat) (hfirst : 0 < count ∨ cs ≠ []) :
    readUnicodeDigits (cs ++ '\x7d' :: rest) count value =
      some (count + cs.length, hexFold value ds, rest) := by
  induction cs generalizing ds count value with
  | nil =>
    cases ds with
    | nil => simp [readUnicodeDigits, hexFold]
    | cons => simp at hcs
  | cons c cs ih =>
    cases ds with
    | nil => simp at hcs
    | cons d ds =>
      simp only [List.map_cons, List.cons.injEq] at hcs
      obtain ⟨hc, hcs⟩ := hcs
      have hclose : c ≠ '\x7d' := fun h => by simp [h, hexValue?_closing] at hc
      have hunder : c ≠ '_' := fun h => by simp [h, hexValue?_underscore] at hc
      simp only [List.cons_append, readUnicodeDigits, hclose, hunder, if_false, hc,
        Option.bind_some]
      rw [ih ds hcs (count + 1) (16 * value + d) (.inl (Nat.succ_pos _))]
      simp [hexFold, Nat.add_assoc, Nat.add_comm 1]

/-- The hexadecimal digits `Nat.toDigits 16 n` have the value `n`. -/
theorem toDigits_hex (n : Nat) :
    ∃ ds, (Nat.toDigits 16 n).map hexValue? = ds.map some ∧ hexFold 0 ds = n := by
  induction n using Nat.strongRecOn with
  | ind n ih =>
    rw [Nat.toDigits_eq_if (by decide)]
    split
    · rename_i hlt
      exact ⟨[n], by simp [hexValue?_digitChar hlt], by simp [hexFold]⟩
    · rename_i hge
      obtain ⟨ds, hds, hval⟩ := ih (n / 16) (by omega)
      refine ⟨ds ++ [n % 16], ?_, ?_⟩
      · simp [hds, hexValue?_digitChar (Nat.mod_lt n (by decide))]
      · simp only [hexFold, List.foldl_append, List.foldl_cons, List.foldl_nil] at hval ⊢
        rw [hval]
        omega

/-- A character's code point has at most six hexadecimal digits. -/
theorem length_toDigits_hex_le (c : Char) : (Nat.toDigits 16 c.toNat).length ≤ 6 := by
  rw [Nat.length_toDigits_le_iff (by decide) (by decide)]
  have hvalid : c.toNat.isValidChar := c.valid
  simp only [Nat.isValidChar] at hvalid
  omega

/-! ## The escapes `quote` writes -/

/-- The escape of a character written as its code point reads back as the character. -/
theorem readEscape_unicode (c : Char) (rest : List Char) :
    readEscape ((unicodeEscape c).tail ++ rest) = some ([c], rest) := by
  obtain ⟨ds, hds, hval⟩ := toDigits_hex c.toNat
  have hread := readUnicodeDigits_append (Nat.toDigits 16 c.toNat) rest ds hds 0 0
    (.inr Nat.toDigits_ne_nil)
  have hvalid : c.toNat.isValidChar := c.valid
  simp only [unicodeEscape, List.cons_append, List.nil_append, List.tail_cons,
    List.append_assoc, readEscape, hread, hval, Nat.zero_add]
  simp [length_toDigits_hex_le c, hvalid]

/-- How a character is written between the quotes: a backslash escape of its own, its code
point, or the character itself when it is none of the seven that need more. -/
theorem escapeChar_plain {c : Char} (h0 : c ≠ '\x00') (ht : c ≠ '\t') (hr : c ≠ '\r')
    (hn : c ≠ '\n') (hb : c ≠ '\\') (hq : c ≠ '"') :
    escapeChar c = if needsUnicodeEscape c then unicodeEscape c else [c] := by
  unfold escapeChar
  split <;> simp_all

theorem readBody_quote (cs rest : List Char) (fuel : Nat) (hfuel : cs.length < fuel) :
    readBody fuel (cs.flatMap escapeChar ++ '"' :: rest) = some (cs, rest) := by
  induction cs generalizing fuel with
  | nil =>
    obtain ⟨fuel, rfl⟩ : ∃ f, fuel = f + 1 := ⟨fuel - 1, by simp at hfuel; omega⟩
    simp [readBody]
  | cons c cs ih =>
    obtain ⟨fuel, rfl⟩ : ∃ f, fuel = f + 1 := ⟨fuel - 1, by simp at hfuel; omega⟩
    have hrest := ih fuel (by simp at hfuel; omega)
    simp only [List.flatMap_cons, List.append_assoc]
    by_cases h0 : c = '\x00'
    · subst h0; simp [escapeChar, readBody, readEscape, hrest]
    by_cases ht : c = '\t'
    · subst ht; simp [escapeChar, readBody, readEscape, hrest]
    by_cases hr : c = '\r'
    · subst hr; simp [escapeChar, readBody, readEscape, hrest]
    by_cases hn : c = '\n'
    · subst hn; simp [escapeChar, readBody, readEscape, hrest]
    by_cases hb : c = '\\'
    · subst hb; simp [escapeChar, readBody, readEscape, hrest]
    by_cases hq : c = '"'
    · subst hq; simp [escapeChar, readBody, readEscape, hrest]
    rw [escapeChar_plain h0 ht hr hn hb hq]
    split
    · -- written as its code point
      have hescape : unicodeEscape c = '\\' :: (unicodeEscape c).tail := rfl
      rw [hescape, List.cons_append]
      simp [readBody, readEscape_unicode, hrest]
    · simp [readBody, hq, hb, hr, hrest]

theorem length_le_flatMap_escapeChar (cs : List Char) :
    cs.length ≤ (cs.flatMap escapeChar).length := by
  induction cs with
  | nil => simp
  | cons c cs ih =>
    have : 1 ≤ (escapeChar c).length := by
      unfold escapeChar
      split <;> try simp
      split <;> simp [unicodeEscape]
    simp only [List.length_cons, List.flatMap_cons, List.length_append]
    omega

/-- **Quoting reads back**: the literal `quote` writes stands for the quoted characters, and
reading stops right after it. -/
theorem readLiteral_quote (cs rest : List Char) :
    readLiteral (quoteChars cs ++ rest) = some (cs, rest) := by
  simp only [quoteChars, List.cons_append, List.append_assoc, readLiteral]
  apply readBody_quote
  have := length_le_flatMap_escapeChar cs
  simp only [List.length_append, List.length_cons]
  omega

theorem denotes_quote (s : String) : Denotes (quote s) s := by
  simpa [Denotes, quote] using readLiteral_quote s.toList []

theorem quote_injective {s t : String} (h : quote s = quote t) : s = t := by
  have hs := denotes_quote s
  have ht := denotes_quote t
  rw [Denotes, h, ht] at hs
  exact String.toList_injective (Prod.mk.inj (Option.some.inj hs)).1.symm

theorem newline_not_mem_toDigits_hex (n : Nat) : '\n' ∉ Nat.toDigits 16 n := by
  intro h
  obtain ⟨ds, hds, -⟩ := toDigits_hex n
  have hmem : hexValue? '\n' ∈ ds.map some := hds ▸ List.mem_map_of_mem h
  simp [show hexValue? '\n' = none by decide] at hmem

theorem newline_not_mem_escapeChar (c : Char) : '\n' ∉ escapeChar c := by
  by_cases h0 : c = '\x00'
  · subst h0; decide
  by_cases ht : c = '\t'
  · subst ht; decide
  by_cases hr : c = '\r'
  · subst hr; decide
  by_cases hn : c = '\n'
  · subst hn; decide
  by_cases hb : c = '\\'
  · subst hb; decide
  by_cases hq : c = '"'
  · subst hq; decide
  rw [escapeChar_plain h0 ht hr hn hb hq]
  split
  · simp [unicodeEscape, newline_not_mem_toDigits_hex]
  · simpa using Ne.symm hn

/-- A quoted name is written on one line. -/
theorem newline_not_mem_quote (s : String) : '\n' ∉ (quote s).toList := by
  intro h
  simp only [quote, String.toList_ofList, quoteChars, List.mem_cons, List.mem_append,
    List.mem_flatMap] at h
  rcases h with (h | ⟨c, -, hc⟩) | h
  · exact absurd h (by decide)
  · exact newline_not_mem_escapeChar c hc
  · exact absurd h (by decide)

end OpcodeTable.Text
