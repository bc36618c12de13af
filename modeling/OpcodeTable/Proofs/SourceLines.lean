import OpcodeTable.Proofs.Lines
import OpcodeTable.Proofs.StringLiteral
import OpcodeTable.Proofs.RenderFaults
/-!
# The lines the renderer writes

The renderer writes through the depth-tracking writer. Here each part of the source is given as
the list of its lines, every line with its indentation spelled out, and each writer run is shown
to write exactly those lines:

* `blockLines k d`: a descriptor at depth `k` (`lines_steps`, which also says the run ends at
  the depth it started from), and `bodyLines k ds`, the blocks separated by empty lines;
* `enumLines name vs`: an enum of identifiers with a string literal for each (`nameEnum_eq`);
* `typesLines ds names`: the type definitions (`types_eq_ok_iff`);
* `tableLines ds o names`: a whole table (`table_eq_ok`).

Each list is the list of lines of its text when the data it shows hold no line feed
(`blockLines_isLine`, `enumLines_isLine`): identifiers never do (`Ident.isLine_of_isValid`) and
quoted names never do, so only the opcode code can.
-/

namespace OpcodeTable

namespace Ident

theorem isPart_of_mem {s : String} (h : isValid s = true) : ∀ c ∈ s.toList, isPart c = true := by
  unfold isValid at h
  split at h
  · simp at h
  · rename_i c rest hs
    simp only [Bool.and_eq_true, bne_iff_ne, ne_eq, List.all_eq_true, Bool.not_eq_true',
      List.contains_eq_mem, decide_eq_false_iff_not] at h
    obtain ⟨⟨⟨-, hstart⟩, hrest⟩, -⟩ := h
    rw [hs]
    intro x hx
    rcases List.mem_cons.1 hx with rfl | hx
    · simp only [isStart, Bool.or_eq_true, beq_iff_eq] at hstart
      simp only [isPart, Bool.or_eq_true, beq_iff_eq]
      rcases hstart with h | h
      · exact .inl (by simp [Char.isAlphanum, h])
      · exact .inr h
    · exact hrest x hx

theorem isLine_of_isValid {s : String} (h : isValid s = true) : Render.IsLine s := fun hn => by
  have := isPart_of_mem h '\n' hn
  simp [isPart] at this

end Ident

namespace Render

/-! ## Descriptors -/

/-- The attribute texts of an operand, in the order bytes, increment, decrement. -/
def attributeTexts (o : Operand) : List String :=
  (o.bytes.toList.map fun b => "bytes: Some(" ++ toString b.toNat ++ "),") ++
  (o.increment.toList.map fun b => "increment: Some(" ++ toString b ++ "),") ++
  (o.decrement.toList.map fun b => "decrement: Some(" ++ toString b ++ "),")

/-- The lines of an operand at depth `j`. -/
def operandLines (j : Nat) (o : Operand) : List String :=
  if o.hasAttributes then
    [indented j "Operand \x7b"] ++ (attributeTexts o).map (indented (j + 1)) ++
      [indented (j + 1) (".." ++ operandBase o), indented j "\x7d,"]
  else [indented j (operandBase o ++ ",")]

/-- The lines of an operand list at depth `j`. -/
def operandListLines (j : Nat) : List Operand → List String
  | [] => [indented j "operands: &[],"]
  | o :: os =>
    [indented j "operands: &["] ++ (o :: os).flatMap (operandLines (j + 1)) ++ [indented j "],"]

/-- The lines of the flag effects at depth `j`. -/
def flagLines (j : Nat) (e : FlagEffects) : List String :=
  [indented j "flags: FlagBehaviors \x7b",
   indented (j + 1) ("z: FlagBehavior::" ++ e.z.name ++ ","),
   indented (j + 1) ("n: FlagBehavior::" ++ e.n.name ++ ","),
   indented (j + 1) ("h: FlagBehavior::" ++ e.h.name ++ ","),
   indented (j + 1) ("c: FlagBehavior::" ++ e.c.name ++ ","),
   indented j "\x7d,"]

/-- The lines of a descriptor at depth `k`. -/
def blockLines (k : Nat) (d : Descriptor) : List String :=
  [indented k ("// " ++ d.code),
   indented k "Opcode \x7b",
   indented (k + 1) ("mnemonic: Mnemonic::" ++ d.mnemonic ++ ","),
   indented (k + 1) ("bytes: " ++ toString d.byteLength.toNat ++ ","),
   indented (k + 1) ("cycles: &[" ++ joinNumbers d.cycleCounts ++ "],")] ++
  operandListLines (k + 1) d.operands ++
  [indented (k + 1) ("immediate: " ++ toString d.isImmediate ++ ",")] ++
  flagLines (k + 1) d.flagEffects ++
  [indented k "\x7d,"]

/-- The lines of descriptors at depth `k`, an empty line between two. -/
def bodyLines (k : Nat) : List Descriptor → List String
  | [] => []
  | d :: ds => blockLines k d ++ ds.flatMap fun d => "" :: blockLines k d

@[simp] theorem lineAt_line (d : Nat) (t : String) : (Step.line t).lineAt d = indented d t := rfl
@[simp] theorem lineAt_opening (d : Nat) (t : String) : (Step.opening t).lineAt d = indented d t := rfl
@[simp] theorem lineAt_closing (d : Nat) (t : String) :
    (Step.closing t).lineAt d = indented (d - 1) t := rfl
@[simp] theorem lineAt_blank (d : Nat) : Step.blank.lineAt d = "" := rfl
@[simp] theorem next_line (d : Nat) (t : String) : (Step.line t).next d = d := rfl
@[simp] theorem next_opening (d : Nat) (t : String) : (Step.opening t).next d = d + 1 := rfl
@[simp] theorem next_closing (d : Nat) (t : String) : (Step.closing t).next d = d - 1 := rfl
@[simp] theorem next_blank (d : Nat) : Step.blank.next d = d := rfl

theorem lines_operandSteps (j : Nat) (o : Operand) :
    Writer.lines j (operandSteps o) = operandLines j o ∧
      Writer.depthAfter j (operandSteps o) = j := by
  have hattr : attributeLines o = (attributeTexts o).map .line := by
    simp [attributeLines, attributeTexts, Function.comp_def]
  obtain ⟨hlines, hdepth⟩ := Writer.lines_map_line (j + 1) (attributeTexts o)
  unfold operandSteps operandLines
  split
  · simp [Writer.lines_append, Writer.depthAfter_append, hattr, hlines, hdepth]
  · simp

theorem lines_flatMap_operandSteps (j : Nat) (os : List Operand) :
    Writer.lines j (os.flatMap operandSteps) = os.flatMap (operandLines j) ∧
      Writer.depthAfter j (os.flatMap operandSteps) = j := by
  induction os with
  | nil => simp
  | cons o os ih =>
    obtain ⟨hl, hd⟩ := lines_operandSteps j o
    simp [Writer.lines_append, Writer.depthAfter_append, hl, hd, ih.1, ih.2]

theorem lines_operandListSteps (j : Nat) (os : List Operand) :
    Writer.lines j (operandListSteps os) = operandListLines j os ∧
      Writer.depthAfter j (operandListSteps os) = j := by
  cases os with
  | nil => simp [operandListSteps, operandListLines]
  | cons o os =>
    obtain ⟨hl, hd⟩ := lines_flatMap_operandSteps (j + 1) (o :: os)
    -- the list is kept whole so that `hl` and `hd` apply to it
    simp only [operandListSteps, operandListLines, Writer.lines_append, Writer.depthAfter_append,
      Writer.lines_cons, Writer.lines_nil, Writer.depthAfter_cons, Writer.depthAfter_nil,
      next_opening, next_closing, lineAt_opening, lineAt_closing, hl, hd, Nat.add_sub_cancel]
    simp

theorem lines_flagSteps (j : Nat) (e : FlagEffects) :
    Writer.lines j (flagSteps e) = flagLines j e ∧ Writer.depthAfter j (flagSteps e) = j := by
  simp [flagSteps, flagLines]

/-- **A descriptor's lines**: writing a descriptor at depth `k` writes `blockLines k d` and ends
at depth `k`. -/
theorem lines_steps (k : Nat) (d : Descriptor) :
    Writer.lines k (Descriptor.steps d) = blockLines k d ∧
      Writer.depthAfter k (Descriptor.steps d) = k := by
  obtain ⟨hol, hod⟩ := lines_operandListSteps (k + 1) d.operands
  obtain ⟨hfl, hfd⟩ := lines_flagSteps (k + 1) d.flagEffects
  simp only [Descriptor.steps, blockLines, Writer.lines_append, Writer.depthAfter_append]
  simp [hol, hod, hfl, hfd]

theorem lines_blockSteps (k : Nat) (ds : List Descriptor) :
    Writer.lines k (blockSteps ds) = bodyLines k ds ∧
      Writer.depthAfter k (blockSteps ds) = k := by
  have hrest : ∀ ds : List Descriptor,
      Writer.lines k (ds.flatMap fun d => .blank :: Descriptor.steps d) =
        ds.flatMap (fun d => "" :: blockLines k d) ∧
      Writer.depthAfter k (ds.flatMap fun d => .blank :: Descriptor.steps d) = k := by
    intro ds
    induction ds with
    | nil => simp
    | cons d ds ih =>
      obtain ⟨hl, hd⟩ := lines_steps k d
      simp [Writer.lines_append, Writer.depthAfter_append, hl, hd, ih.1, ih.2]
  cases ds with
  | nil => simp [blockSteps, bodyLines]
  | cons d ds =>
    obtain ⟨hl, hd⟩ := lines_steps k d
    simp [blockSteps, bodyLines, Writer.lines_append, Writer.depthAfter_append, hl, hd,
      (hrest ds).1, (hrest ds).2]

/-! ## Enums of identifiers -/

/-- The arms of `as_str`, at depth 2. -/
def armLines : List (String × String) → List String
  | [] => [indented 2 "match self \x7b\x7d"]
  | v :: vs =>
    [indented 2 "match self \x7b"] ++
      (v :: vs).map (fun v => indented 3 ("Self::" ++ v.1 ++ " => " ++ Text.quote v.2 ++ ",")) ++
      [indented 2 "\x7d"]

/-- The lines of an enum of identifiers, each mapped back to its name by `as_str`. -/
def enumLines (name : String) (vs : List (String × String)) : List String :=
  [indented 0 "#[allow(non_camel_case_types, clippy::upper_case_acronyms)]",
   indented 0 "#[derive(Debug, Clone, Copy, PartialEq, Eq, Hash)]",
   indented 0 ("pub enum " ++ name ++ " \x7b")] ++
  vs.map (fun v => indented 1 (v.1 ++ ",")) ++
  [indented 0 "\x7d", "", indented 0 ("impl " ++ name ++ " \x7b"),
   indented 1 "pub const fn as_str(self) -> &'static str \x7b"] ++
  armLines vs ++
  [indented 1 "\x7d", indented 0 "\x7d"]

theorem nameEnum_eq (name : String) (vs : List (String × String)) :
    nameEnum name vs = unlines (enumLines name vs) := by
  rw [nameEnum, Writer.text_eq]
  congr 1
  cases vs with
  | nil => simp [nameEnumSteps, enumLines, armLines]
  | cons v vs =>
    -- the variants are kept whole so that the lemmas about their lines apply; a pair's match
    -- is its projections up to unfolding, hence the rewrites below are up to unfolding
    have hvar : (v :: vs).map (fun v => Step.line (v.1 ++ ",")) =
        ((v :: vs).map fun v => v.1 ++ ",").map .line := by
      simp [Function.comp_def]
    have harm : (v :: vs).map (fun v =>
          Step.line ("Self::" ++ v.1 ++ " => " ++ Text.quote v.2 ++ ",")) =
        ((v :: vs).map fun v => "Self::" ++ v.1 ++ " => " ++ Text.quote v.2 ++ ",").map .line := by
      simp [Function.comp_def]
    obtain ⟨hv, hvd⟩ := Writer.lines_map_line 1 ((v :: vs).map fun v => v.1 ++ ",")
    obtain ⟨ha, had⟩ := Writer.lines_map_line 3
      ((v :: vs).map fun v => "Self::" ++ v.1 ++ " => " ++ Text.quote v.2 ++ ",")
    simp only [nameEnumSteps]
    erw [hvar, harm]
    simp only [Writer.lines_append, Writer.depthAfter_append, Writer.lines_cons, Writer.lines_nil,
      Writer.depthAfter_cons, Writer.depthAfter_nil, next_line, next_opening, next_closing,
      next_blank, lineAt_line, lineAt_opening, lineAt_closing, lineAt_blank, hv, hvd, ha, had]
    simp [enumLines, armLines, Function.comp_def]

/-! ## Type definitions and tables -/

/-- The lines of the type definitions, given the operand name table. -/
def typesLines (ds : List Descriptor) (names : NameTable) : List String :=
  preludeLines ++ [""] ++ enumLines "Mnemonic" ((mnemonics ds).map fun m => (m, m)) ++ [""] ++
    enumLines "OperandName" names

theorem types_eq_ok_iff (ds : List Descriptor) (s : String) :
    types ds = .ok s ↔
      ∃ names, Descriptor.nameTable ds = .ok names ∧ s = unlines (typesLines ds names) := by
  have hprelude : prelude = unlines preludeLines := rfl
  have htext (names : NameTable) :
      prelude ++ "\n" ++ nameEnum "Mnemonic" ((mnemonics ds).map fun m => (m, m)) ++ "\n" ++
        nameEnum "OperandName" names = unlines (typesLines ds names) := by
    simp only [typesLines, unlines_append, nameEnum_eq, hprelude, unlines_cons, unlines_nil,
      String.empty_append, String.append_assoc]
  simp only [types, Except.bind_eq_ok_iff, pure, Except.pure, Except.ok.injEq, htext]
  constructor <;> rintro ⟨names, h1, h2⟩ <;> exact ⟨names, h1, h2.symm⟩

/-- The lines of a table, given the operand name table (used only with the types). -/
def tableLines (ds : List Descriptor) (o : Options) (names : NameTable) : List String :=
  (if o.withTypes then typesLines ds names ++ [""] else []) ++
  match o.tableName with
  | some n => ["pub const " ++ n ++ ": &[Opcode] = &["] ++ bodyLines 1 ds ++ ["];"]
  | none => bodyLines 0 ds

/-- **A table's lines**: a table that is written consists of `tableLines`, with the operand name
table of its descriptors when the types are written. -/
theorem table_eq_ok {ds : List Descriptor} {o : Options} {s : String} (h : table ds o = .ok s) :
    o.NameOk ∧ ∃ names, (o.withTypes = true → Descriptor.nameTable ds = .ok names) ∧
      s = unlines (tableLines ds o names) := by
  have hname : o.NameOk := ((table_ok_iff ds o).1 ⟨s, h⟩).1
  refine ⟨hname, ?_⟩
  rw [table_of_nameOk hname] at h
  have hbody (k : Nat) : Writer.text k (blockSteps ds) = unlines (bodyLines k ds) := by
    rw [Writer.text_eq, (lines_blockSteps k ds).1]
  have hhead (n : String) : constantHead n = unlines ["pub const " ++ n ++ ": &[Opcode] = &["] := by
    simp [constantHead, String.append_assoc]
  have htail : constantTail = unlines ["];"] := rfl
  obtain ⟨name, withTypes⟩ := o
  cases withTypes with
  | false =>
    refine ⟨[], by simp, ?_⟩
    cases name <;>
      simp only [Bool.false_eq_true, if_false, bind, Except.bind, pure, Except.pure,
        Except.ok.injEq, String.empty_append] at h <;>
      simp [← h, tableLines, hbody, hhead, htail, unlines_append, String.append_assoc]
  | true =>
    obtain ⟨t, ht, h⟩ := Except.bind_eq_ok_iff.1 h
    simp only [Functor.map, Except.map] at ht
    split at ht
    · cases ht
    · rename_i types_text htypes
      cases ht
      obtain ⟨names, hnames, rfl⟩ := (types_eq_ok_iff ds types_text).1 htypes
      refine ⟨names, fun _ => hnames, ?_⟩
      cases name <;>
        simp only [pure, Except.pure, Except.ok.injEq] at h <;>
        simp [← h, tableLines, hbody, hhead, htail, unlines_append, String.append_assoc]

/-! ## Where the lines are lines -/

theorem isLine_toString_nat (n : Nat) : IsLine (toString n) := by
  intro h
  rw [Nat.toString_eq_ofList_toDigits, String.toList_ofList] at h
  have := Nat.isDigit_of_mem_toDigits (by decide) (by decide) h
  simp at this

theorem isLine_toString_bool (b : Bool) : IsLine (toString b) := by
  cases b <;> decide

theorem isLine_flagEffect_name (e : FlagEffect) : IsLine e.name := by
  cases e <;> decide

theorem isLine_quote (s : String) : IsLine (Text.quote s) :=
  Text.newline_not_mem_quote s

theorem isLine_intercalate {sep : String} (hsep : IsLine sep) {ls : List String}
    (h : ∀ l ∈ ls, IsLine l) : IsLine (sep.intercalate ls) := by
  induction ls with
  | nil => simp
  | cons l ls ih =>
    cases ls with
    | nil => simpa using h l (by simp)
    | cons l' ls =>
      rw [String.intercalate_cons_cons, isLine_append, isLine_append]
      exact ⟨⟨h l (by simp), hsep⟩, ih fun x hx => h x (by simp [hx])⟩

theorem isLine_joinNumbers (ns : List UInt8) : IsLine (joinNumbers ns) := by
  apply isLine_intercalate (by decide)
  simp only [List.mem_map]
  rintro _ ⟨n, -, rfl⟩
  exact isLine_toString_nat _

theorem isLine_operandBase {o : Operand} (h : IsLine o.ident) : IsLine (operandBase o) := by
  unfold operandBase
  simp only [isLine_append, h, isLine_toString_bool, and_true]
  simp [IsLine]

theorem attributeTexts_isLine (o : Operand) : ∀ l ∈ attributeTexts o, IsLine l := by
  simp only [attributeTexts, List.mem_append, List.mem_map, Option.mem_toList]
  rintro l ((⟨b, -, rfl⟩ | ⟨b, -, rfl⟩) | ⟨b, -, rfl⟩) <;>
    simp only [isLine_append, isLine_toString_nat, isLine_toString_bool, and_true] <;>
    simp [IsLine]

theorem operandLines_isLine {o : Operand} (h : IsLine o.ident) (j : Nat) :
    ∀ l ∈ operandLines j o, IsLine l := by
  have hbase := isLine_operandBase h
  unfold operandLines
  split
  · simp only [List.mem_append, List.mem_map, List.mem_cons, List.not_mem_nil, or_false]
    rintro l ((rfl | ⟨a, ha, rfl⟩) | (rfl | rfl))
    · simp [IsLine, indented]
    · exact isLine_indented.2 (attributeTexts_isLine o a ha)
    · simp only [isLine_indented, isLine_append, hbase, and_true]
      simp [IsLine]
    · simp [IsLine, indented]
  · simp only [List.mem_singleton]
    rintro l rfl
    simp only [isLine_indented, isLine_append, hbase, true_and]
    simp [IsLine]

theorem operandListLines_isLine {os : List Operand} (h : ∀ o ∈ os, IsLine o.ident) (j : Nat) :
    ∀ l ∈ operandListLines j os, IsLine l := by
  cases os with
  | nil =>
    simp only [operandListLines, List.mem_singleton]
    rintro l rfl
    simp [IsLine, indented]
  | cons o os =>
    simp only [operandListLines, List.mem_append, List.mem_singleton, List.mem_flatMap]
    rintro l ((rfl | ⟨o', ho', hl⟩) | rfl)
    · simp [IsLine, indented]
    · exact operandLines_isLine (h o' ho') (j + 1) l hl
    · simp [IsLine, indented]

theorem flagLines_isLine (j : Nat) (e : FlagEffects) : ∀ l ∈ flagLines j e, IsLine l := by
  simp only [flagLines, List.mem_cons, List.not_mem_nil, or_false]
  rintro l (rfl | rfl | rfl | rfl | rfl | rfl) <;>
    simp only [isLine_indented, isLine_append, isLine_flagEffect_name, and_true] <;>
    simp [IsLine]

/-- A descriptor's lines are lines when its code, mnemonic and operand identifiers hold no line
feed. -/
theorem blockLines_isLine {d : Descriptor} (hc : IsLine d.code) (hm : IsLine d.mnemonic)
    (hi : ∀ p ∈ d.operands, IsLine p.ident) (k : Nat) : ∀ l ∈ blockLines k d, IsLine l := by
  intro l hl
  simp only [blockLines, List.mem_append, List.mem_cons, List.not_mem_nil, or_false] at hl
  rcases hl with ((((rfl | rfl | rfl | rfl | rfl) | hl) | rfl) | hl) | rfl
  · simp only [isLine_indented, isLine_append, hc, and_true]
    simp [IsLine]
  · simp [IsLine, indented]
  · simp only [isLine_indented, isLine_append, hm, and_true]
    simp [IsLine]
  · simp only [isLine_indented, isLine_append, isLine_toString_nat, and_true]
    simp [IsLine]
  · simp only [isLine_indented, isLine_append, isLine_joinNumbers, and_true]
    simp [IsLine]
  · exact operandListLines_isLine hi (k + 1) l hl
  · simp only [isLine_indented, isLine_append, isLine_toString_bool, and_true]
    simp [IsLine]
  · exact flagLines_isLine (k + 1) d.flagEffects l hl
  · simp [IsLine, indented]

theorem bodyLines_isLine {ds : List Descriptor}
    (h : ∀ d ∈ ds, IsLine d.code ∧ IsLine d.mnemonic ∧ ∀ p ∈ d.operands, IsLine p.ident)
    (k : Nat) : ∀ l ∈ bodyLines k ds, IsLine l := by
  cases ds with
  | nil => simp [bodyLines]
  | cons d ds =>
    have hblock : ∀ d' ∈ d :: ds, ∀ l ∈ blockLines k d', IsLine l := fun d' hd' =>
      blockLines_isLine (h d' hd').1 (h d' hd').2.1 (h d' hd').2.2 k
    simp only [bodyLines, List.mem_append, List.mem_flatMap, List.mem_cons]
    rintro l (hl | ⟨d', hd', rfl | hl⟩)
    · exact hblock d List.mem_cons_self l hl
    · exact isLine_empty
    · exact hblock d' (List.mem_cons_of_mem _ hd') l hl

theorem enumLines_isLine {name : String} (hname : IsLine name) {vs : List (String × String)}
    (hvs : ∀ v ∈ vs, IsLine v.1) : ∀ l ∈ enumLines name vs, IsLine l := by
  have harms : ∀ l ∈ armLines vs, IsLine l := by
    cases vs with
    | nil =>
      simp only [armLines, List.mem_singleton]
      rintro l rfl
      simp [IsLine, indented]
    | cons v vs =>
      simp only [armLines, List.mem_append, List.mem_singleton, List.mem_map]
      rintro l ((rfl | ⟨v', hv', rfl⟩) | rfl)
      · simp [IsLine, indented]
      · simp only [isLine_indented, isLine_append, hvs v' hv', isLine_quote, and_true]
        simp [IsLine]
      · simp [IsLine, indented]
  simp only [enumLines, List.mem_append, List.mem_cons, List.not_mem_nil, or_false,
    List.mem_map]
  rintro l (((((rfl | rfl | rfl) | ⟨v, hv, rfl⟩) | (rfl | rfl | rfl | rfl)) | hl) | (rfl | rfl))
  · simp [IsLine, indented]
  · simp [IsLine, indented]
  · simp only [isLine_indented, isLine_append, hname, and_true]
    simp [IsLine]
  · simp only [isLine_indented, isLine_append, hvs v hv, true_and]
    simp [IsLine]
  · simp [IsLine, indented]
  · exact isLine_empty
  · simp only [isLine_indented, isLine_append, hname, and_true]
    simp [IsLine]
  · simp [IsLine, indented]
  · exact harms l hl
  · simp [IsLine, indented]
  · simp [IsLine, indented]

end Render

end OpcodeTable
