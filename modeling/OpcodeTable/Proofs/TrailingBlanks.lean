import OpcodeTable.Proofs.RenderInjective
import OpcodeTable.Proofs.TableLayout
/-!
# Lines that end in a blank

The writer never indents an empty line, and every line the renderer makes up itself ends in a
bracket, a brace, a comma, a semicolon or a parenthesis. What it copies from the dataset can
still end a line: the code of an opcode is written after `// ` as it is, so an empty code, or
one that ends in a space or a tab, leaves a line that does, and a code that holds line feeds
writes lines of its own.

`generate_trailing_blank_iff` says that these are the only such lines: the table of a checked
dataset has a line that ends in a space or a tab exactly when the comment `// <code>` of one of
its opcodes has one. Every line of the table is either the comment line of a descriptor or a
line of the renderer's own (`tableLines_cases`), which holds no line feed and does not end in a
blank; read as text, a comment line's lines end in blanks just as the comment's do
(`comment_endsInBlank_iff`). An empty code is enough to leave one
(`empty_code_leaves_trailing_blank`).
-/

namespace List

/-- Splitting a list behind a prefix without the separator puts the prefix in the first piece. -/
theorem splitOn_append_of_not_mem {α : Type} [BEq α] [LawfulBEq α] {a : α} {xs : List α}
    (h : a ∉ xs) (ys : List α) : (xs ++ ys).splitOn a = (ys.splitOn a).modifyHead (xs ++ ·) := by
  induction xs with
  | nil =>
    obtain ⟨p, ps, hp⟩ := exists_cons_of_ne_nil (splitOn_ne_nil a ys)
    simp [hp]
  | cons x xs ih =>
    have hx : (x == a) = false := beq_eq_false_iff_ne.2 fun hxa => h (hxa ▸ mem_cons_self)
    obtain ⟨p, ps, hp⟩ := exists_cons_of_ne_nil (splitOn_ne_nil a ys)
    rw [cons_append, splitOn_cons_eq_if_modifyHead, hx, if_neg Bool.false_ne_true,
      ih fun hxs => h (mem_cons_of_mem _ hxs), hp]
    simp

end List

namespace OpcodeTable.Render

/-! ## Blanks at the end of a line -/

/-- Whether a line ends in a space or a tab. -/
def endsInBlank (l : String) : Bool :=
  match l.toList.getLast? with
  | some c => c == ' ' || c == '\t'
  | none => false

/-- A line of the renderer's own: no line feed in it, and no blank at its end. -/
def Plain (l : String) : Prop :=
  IsLine l ∧ endsInBlank l = false

@[simp] theorem endsInBlank_empty : endsInBlank "" = false := rfl

theorem endsInBlank_append {a b : String} (hb : b ≠ "") : endsInBlank (a ++ b) = endsInBlank b := by
  have hb' : b.toList ≠ [] := by simpa using hb
  have hlast : b.toList.getLast? = some (b.toList.getLast hb') := List.getLast?_eq_some_getLast hb'
  simp [endsInBlank, String.toList_append, hlast]

@[simp] theorem endsInBlank_indented (k : Nat) (t : String) :
    endsInBlank (indented k t) = endsInBlank t := by
  by_cases ht : t = ""
  · simp [ht]
  · rw [indented_of_ne ht, endsInBlank_append ht]

theorem plain_empty : Plain "" :=
  ⟨isLine_empty, rfl⟩

/-! ## Lines of a text -/

/-- A line feed cuts a text into the lines before it and the lines after it. -/
theorem textLines_append_line_feed (a b : String) :
    textLines (a ++ "\n" ++ b) = textLines a ++ textLines b := by
  have hsplit : (a ++ "\n" ++ b).toList = a.toList ++ '\n' :: b.toList := by simp
  simp [textLines, hsplit, List.splitOn_append_cons_self]

/-- The lines of text written line by line, where a line written may hold line feeds itself. -/
theorem textLines_unlines_flatMap (ls : List String) :
    textLines (unlines ls) = ls.flatMap textLines ++ [""] := by
  induction ls with
  | nil => exact textLines_empty
  | cons l ls ih =>
    rw [unlines_cons, textLines_append_line_feed, ih, List.flatMap_cons, List.append_assoc]

/-- Text without a line feed, put in front of a text, joins its first line. -/
theorem textLines_line_append_text {a : String} (ha : IsLine a) (s : String) :
    textLines (a ++ s) = (textLines s).modifyHead (a ++ ·) := by
  obtain ⟨p, ps, hp⟩ := List.exists_cons_of_ne_nil (List.splitOn_ne_nil '\n' s.toList)
  simp [textLines, List.splitOn_append_of_not_mem ha, hp]

/-- The lines of a line without a line feed: itself. -/
theorem textLines_of_isLine {l : String} (hl : IsLine l) : textLines l = [l] := by
  simpa [textLines_empty] using textLines_line_append_text hl ""

/-- **The lines of a comment line.** Indented or not, the comment `// <code>` ends its lines in
blanks alike: indentation only goes in front of its first line, which has text. -/
theorem comment_endsInBlank_iff (k : Nat) (c : String) :
    (∃ p ∈ textLines (indented k ("// " ++ c)), endsInBlank p = true) ↔
      ∃ p ∈ textLines ("// " ++ c), endsInBlank p = true := by
  obtain ⟨p, ps, hp⟩ := List.exists_cons_of_ne_nil (textLines_ne_nil c)
  have hcomment : textLines ("// " ++ c) = ("// " ++ p) :: ps := by
    rw [textLines_line_append_text (by decide), hp, List.modifyHead_cons]
  rw [indented_of_ne (by simp), textLines_line_append_text (isLine_indent k), hcomment,
    List.modifyHead_cons]
  simp only [List.mem_cons, exists_eq_or_imp]
  rw [endsInBlank_append (by simp)]

/-! ## The renderer's own lines -/

theorem operandLines_endsInBlank (j : Nat) (o : Operand) :
    ∀ l ∈ operandLines j o, endsInBlank l = false := by
  unfold operandLines operandBase
  split
  · simp only [attributeTexts, List.mem_append, List.mem_map, Option.mem_toList, List.mem_cons,
      List.not_mem_nil, or_false]
    rintro l ((rfl | ⟨_, ((⟨b, -, rfl⟩ | ⟨b, -, rfl⟩) | ⟨b, -, rfl⟩), rfl⟩) | (rfl | rfl)) <;>
      simp +decide [endsInBlank_append]
  · simp only [List.mem_singleton]
    rintro l rfl
    simp +decide [endsInBlank_append]

theorem operandListLines_endsInBlank (j : Nat) (os : List Operand) :
    ∀ l ∈ operandListLines j os, endsInBlank l = false := by
  cases os with
  | nil =>
    simp only [operandListLines, List.mem_singleton]
    rintro l rfl
    simp +decide
  | cons o os =>
    simp only [operandListLines, List.mem_append, List.mem_singleton, List.mem_flatMap]
    rintro l ((rfl | ⟨o', -, hl⟩) | rfl)
    · simp +decide
    · exact operandLines_endsInBlank (j + 1) o' l hl
    · simp +decide

theorem flagLines_endsInBlank (j : Nat) (e : FlagEffects) :
    ∀ l ∈ flagLines j e, endsInBlank l = false := by
  simp only [flagLines, List.mem_cons, List.not_mem_nil, or_false]
  rintro l (rfl | rfl | rfl | rfl | rfl | rfl) <;> simp +decide [endsInBlank_append]

/-- A block is its comment line and lines of the renderer's own. -/
theorem blockLines_eq_cons (k : Nat) (d : Descriptor) :
    blockLines k d = indented k ("// " ++ d.code) :: (blockLines k d).tail := rfl

theorem blockLines_tail_plain {d : Descriptor} (hm : IsLine d.mnemonic)
    (hi : ∀ p ∈ d.operands, IsLine p.ident) (k : Nat) :
    ∀ l ∈ (blockLines k d).tail, Plain l := by
  -- the lines after the comment do not show the code: take a code that is a line
  have hlines : ∀ l ∈ (blockLines k { d with code := "" }).tail, IsLine l := fun l hl =>
    @blockLines_isLine { d with code := "" } isLine_empty hm hi k l (List.mem_of_mem_tail hl)
  intro l hl
  refine ⟨hlines l hl, ?_⟩
  simp only [blockLines, List.cons_append, List.tail_cons, List.mem_cons, List.mem_append,
    List.not_mem_nil, or_false, false_or] at hl
  rcases hl with rfl | rfl | rfl | rfl | (((hl | rfl) | hl) | rfl)
  · simp +decide
  · simp +decide [endsInBlank_append]
  · simp +decide [endsInBlank_append]
  · simp +decide [endsInBlank_append]
  · exact operandListLines_endsInBlank (k + 1) d.operands l hl
  · simp +decide [endsInBlank_append]
  · exact flagLines_endsInBlank (k + 1) d.flagEffects l hl
  · simp +decide

theorem enumLines_endsInBlank (name : String) (vs : List (String × String)) :
    ∀ l ∈ enumLines name vs, endsInBlank l = false := by
  have harms : ∀ l ∈ armLines vs, endsInBlank l = false := by
    cases vs with
    | nil =>
      simp only [armLines, List.mem_singleton]
      rintro l rfl
      simp +decide
    | cons v vs =>
      simp only [armLines, List.mem_append, List.mem_singleton, List.mem_map]
      rintro l ((rfl | ⟨v', -, rfl⟩) | rfl) <;> simp +decide [endsInBlank_append]
  simp only [enumLines, List.mem_append, List.mem_cons, List.not_mem_nil, or_false, List.mem_map]
  rintro l (((((rfl | rfl | rfl) | ⟨v, -, rfl⟩) | (rfl | rfl | rfl | rfl)) | hl) | (rfl | rfl))
  all_goals first
    | exact harms l hl
    | simp +decide [endsInBlank_append]

theorem preludeLines_endsInBlank : ∀ l ∈ preludeLines, endsInBlank l = false := by
  decide

theorem typesLines_plain {ds : List Descriptor} {names : NameTable}
    (hm : ∀ d ∈ ds, IsLine d.mnemonic) (hn : ∀ v ∈ names, IsLine v.1) :
    ∀ l ∈ typesLines ds names, Plain l := by
  intro l hl
  refine ⟨typesLines_isLine hm hn l hl, ?_⟩
  simp only [typesLines, List.mem_append, List.mem_singleton] at hl
  rcases hl with (((hl | rfl) | hl) | rfl) | hl
  · exact preludeLines_endsInBlank l hl
  · rfl
  · exact enumLines_endsInBlank _ _ l hl
  · rfl
  · exact enumLines_endsInBlank _ _ l hl

/-! ## Every line of a table -/

section Table

variable {ds : List Descriptor}

theorem bodyLines_cases (hds : ∀ d ∈ ds, IsLine d.mnemonic ∧ ∀ p ∈ d.operands, IsLine p.ident)
    (k : Nat) : ∀ l ∈ bodyLines k ds, (∃ d ∈ ds, l = indented k ("// " ++ d.code)) ∨ Plain l := by
  have hblock : ∀ d ∈ ds, ∀ l ∈ blockLines k d,
      (∃ d ∈ ds, l = indented k ("// " ++ d.code)) ∨ Plain l := by
    intro d hd l hl
    rw [blockLines_eq_cons] at hl
    rcases List.mem_cons.1 hl with rfl | hl
    · exact .inl ⟨d, hd, rfl⟩
    · exact .inr (blockLines_tail_plain (hds d hd).1 (hds d hd).2 k l hl)
  cases ds with
  | nil => simp [bodyLines]
  | cons d ds =>
    intro l hl
    simp only [bodyLines, List.mem_append, List.mem_flatMap, List.mem_cons] at hl
    rcases hl with hl | ⟨d', hd', rfl | hl⟩
    · exact hblock d List.mem_cons_self l hl
    · exact .inr plain_empty
    · exact hblock d' (List.mem_cons_of_mem _ hd') l hl

theorem comment_mem_bodyLines {d : Descriptor} (hd : d ∈ ds) (k : Nat) :
    indented k ("// " ++ d.code) ∈ bodyLines k ds := by
  have hcomment : indented k ("// " ++ d.code) ∈ blockLines k d := by
    rw [blockLines_eq_cons]
    exact List.mem_cons_self
  cases ds with
  | nil => cases hd
  | cons d₀ ds =>
    simp only [bodyLines, List.mem_append, List.mem_flatMap, List.mem_cons]
    rcases List.mem_cons.1 hd with rfl | hd
    · exact .inl hcomment
    · exact .inr ⟨d, hd, .inr hcomment⟩

/-- **Every line of a table** is the comment line of one of its descriptors, or a line of the
renderer's own, when the table's name and the identifiers it shows are identifiers. -/
theorem tableLines_cases {o : Options} {names : NameTable} (hname : o.NameOk)
    (hds : ∀ d ∈ ds, IsLine d.mnemonic ∧ ∀ p ∈ d.operands, IsLine p.ident)
    (hn : o.withTypes = true → ∀ v ∈ names, IsLine v.1) :
    ∀ l ∈ tableLines ds o names, (∃ d ∈ ds, ∃ k, l = indented k ("// " ++ d.code)) ∨ Plain l := by
  have hbody (k : Nat) (l : String) (hl : l ∈ bodyLines k ds) :
      (∃ d ∈ ds, ∃ k, l = indented k ("// " ++ d.code)) ∨ Plain l := by
    rcases bodyLines_cases hds k l hl with ⟨d, hd, rfl⟩ | h
    · exact .inl ⟨d, hd, k, rfl⟩
    · exact .inr h
  have hhead (n : String) (hn : Ident.isValid n = true) :
      Plain ("pub const " ++ n ++ ": &[Opcode] = &[") := by
    refine ⟨?_, by simp +decide [endsInBlank_append]⟩
    simp only [isLine_append, Ident.isLine_of_isValid hn, and_true]
    simp [IsLine]
  have htail : Plain "];" := ⟨by decide, rfl⟩
  have htypes (hw : o.withTypes = true) : ∀ l ∈ typesLines ds names, Plain l :=
    typesLines_plain (fun d hd => (hds d hd).1) (hn hw)
  obtain ⟨name, withTypes⟩ := o
  intro l hl
  cases withTypes <;> cases name <;>
    simp only [tableLines, Bool.false_eq_true, if_false, if_true, List.nil_append,
      List.mem_append, List.mem_singleton] at hl
  · exact hbody 0 l hl
  · rename_i n
    rcases hl with (rfl | hl) | rfl
    · exact .inr (hhead n (hname n rfl))
    · exact hbody 1 l hl
    · exact .inr htail
  · rcases hl with (hl | rfl) | hl
    · exact .inr (htypes rfl l hl)
    · exact .inr plain_empty
    · exact hbody 0 l hl
  · rename_i n
    rcases hl with (hl | rfl) | (rfl | hl) | rfl
    · exact .inr (htypes rfl l hl)
    · exact .inr plain_empty
    · exact .inr (hhead n (hname n rfl))
    · exact hbody 1 l hl
    · exact .inr htail

theorem comment_mem_tableLines {d : Descriptor} (hd : d ∈ ds) (o : Options) (names : NameTable) :
    ∃ k, indented k ("// " ++ d.code) ∈ tableLines ds o names := by
  obtain ⟨name, withTypes⟩ := o
  cases name with
  | none =>
    refine ⟨0, ?_⟩
    simp only [tableLines, List.mem_append]
    exact .inr (comment_mem_bodyLines hd 0)
  | some n =>
    refine ⟨1, ?_⟩
    simp only [tableLines, List.mem_append]
    exact .inr (.inl (.inr (comment_mem_bodyLines hd 1)))

/-- A written table has a line that ends in a blank exactly when the comment of one of its
descriptors has one, when the identifiers it shows are identifiers. -/
theorem table_endsInBlank_iff {o : Options} {s : String} (ht : table ds o = .ok s)
    (hvalid : ∀ d ∈ ds, Ident.isValid d.mnemonic = true ∧
      ∀ p ∈ d.operands, Ident.isValid p.ident = true) :
    (∃ l ∈ textLines s, endsInBlank l = true) ↔
      ∃ d ∈ ds, ∃ p ∈ textLines ("// " ++ d.code), endsInBlank p = true := by
  obtain ⟨hname, names, hnames, rfl⟩ := table_eq_ok ht
  have hds : ∀ d ∈ ds, IsLine d.mnemonic ∧ ∀ p ∈ d.operands, IsLine p.ident := fun d hd =>
    ⟨Ident.isLine_of_isValid (hvalid d hd).1,
      fun p hp => Ident.isLine_of_isValid ((hvalid d hd).2 p hp)⟩
  have hn (hw : o.withTypes = true) : ∀ v ∈ names, IsLine v.1 := fun v hv =>
    Ident.isLine_of_isValid (nameTable_keys_valid (hnames hw) (fun x hx => (hvalid x hx).2) v hv)
  rw [textLines_unlines_flatMap]
  simp only [List.mem_append, List.mem_flatMap, List.mem_singleton]
  constructor
  · rintro ⟨p, ⟨l, hl, hp⟩ | rfl, hblank⟩
    · rcases tableLines_cases hname hds hn l hl with ⟨d, hd, k, rfl⟩ | ⟨hline, hplain⟩
      · exact ⟨d, hd, (comment_endsInBlank_iff k d.code).1 ⟨p, hp, hblank⟩⟩
      · -- a line of the renderer's own is one line of the text, and ends in no blank
        rw [textLines_of_isLine hline, List.mem_singleton] at hp
        rw [hp, hplain] at hblank
        cases hblank
    · cases hblank
  · rintro ⟨d, hd, hpiece⟩
    obtain ⟨k, hk⟩ := comment_mem_tableLines hd o names
    obtain ⟨p, hp, hblank⟩ := (comment_endsInBlank_iff k d.code).2 hpiece
    exact ⟨p, .inl ⟨_, hk, hp⟩, hblank⟩

end Table

/-- **Trailing blanks come from codes only.** The table of a checked dataset, however it is
written, has a line that ends in a space or a tab exactly when the comment `// <code>` of one of
the dataset's codes has one: blank separator lines and indentation never leave one. -/
theorem generate_trailing_blank_iff {D : Dataset} {o : Options} {s : String}
    (h : generate D o = .ok s) :
    (∃ l ∈ textLines s, endsInBlank l = true) ↔
      ∃ c ∈ D.codes, ∃ p ∈ textLines ("// " ++ c), endsInBlank p = true := by
  obtain ⟨ds, hds, ht⟩ := Except.bind_eq_ok_iff.1 h
  obtain ⟨hg, -⟩ := (Descriptor.ofDataset_ok_iff D ds).1 hds
  rw [table_endsInBlank_iff ht hg.identsValid, ← hg.codes]
  simp

/-- A table of `RLC B` under `0x37`, named and with its types. -/
theorem rlc_table_trailing_blanks :
    ∃ s, generate ⟨[("0x37", rlcEntry "B")]⟩ ⟨some "CB", true⟩ = .ok s ∧
      ((∃ l ∈ textLines s, endsInBlank l = true) ↔
        ∃ c ∈ Dataset.codes ⟨[("0x37", rlcEntry "B")]⟩, ∃ p ∈ textLines ("// " ++ c),
          endsInBlank p = true) := by
  have hds : Descriptor.ofDataset ⟨[("0x37", rlcEntry "B")]⟩ = .ok [rlcDescriptor "0x37" "B" "B"] :=
    Except.toOption_eq_some_iff.1 (by decide +kernel)
  obtain ⟨s, hs⟩ := (table_ok_iff [rlcDescriptor "0x37" "B" "B"] ⟨some "CB", true⟩).2
    ⟨fun n hn => by cases hn; decide, fun _ => (Descriptor.nameTable_ok_iff _).2 (by
      unfold Operand.ClashFree
      decide)⟩
  have hgen : generate ⟨[("0x37", rlcEntry "B")]⟩ ⟨some "CB", true⟩ = .ok s := by
    simp only [generate, hds]
    exact hs
  exact ⟨s, hgen, generate_trailing_blank_iff hgen⟩

/-- An empty code leaves the comment line `// `, which ends in a space. -/
theorem empty_code_leaves_trailing_blank :
    ∃ s, generate ⟨[("", rlcEntry "B")]⟩ ⟨none, false⟩ = .ok s ∧
      ∃ l ∈ textLines s, endsInBlank l = true := by
  have hds : Descriptor.ofDataset ⟨[("", rlcEntry "B")]⟩ = .ok [rlcDescriptor "" "B" "B"] :=
    Except.toOption_eq_some_iff.1 (by decide +kernel)
  obtain ⟨s, hs⟩ := (table_ok_iff [rlcDescriptor "" "B" "B"] ⟨none, false⟩).2 ⟨nofun, nofun⟩
  have hgen : generate ⟨[("", rlcEntry "B")]⟩ ⟨none, false⟩ = .ok s := by
    simp only [generate, hds]
    exact hs
  refine ⟨s, hgen, (table_endsInBlank_iff hs (by decide)).2 ?_⟩
  exact ⟨_, List.mem_singleton_self _, "// ", by decide, rfl⟩

end OpcodeTable.Render
