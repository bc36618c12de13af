import OpcodeTable.Proofs.BlockInjective
/-!
# What a table's text determines

A table's text is its lines (`table_eq_ok`), and each line is a line, holding no line feed, as
long as no opcode code does: identifiers and quoted names never do (`tableLines_isLine`). Then the
text determines its lines (`unlines_injective`), the lines determine the descriptors up to operand
names (`bodyLines_injective`), and, with the type definitions, the operand name table, read back
from the `as_str` of `OperandName` (`asStrArms_operandName`), and with it the names
(`table_determines_descriptors`).

A code is copied into its comment as it is. A code that holds line feeds can write lines of its
own, among them a whole block: one entry then renders as two (`forged_code_renders_as_two_blocks`).
-/

namespace OpcodeTable

theorem Except.toOption_eq_some_iff {ε α : Type} {x : Except ε α} {a : α} :
    x.toOption = some a ↔ x = .ok a := by
  cases x <;> simp [Except.toOption]

/-- Two computations that agree as options and succeed give one result. -/
theorem Except.exists_ok_of_toOption_eq {ε α : Type} {x y : Except ε α}
    (h : x.toOption = y.toOption) (hx : x.toOption.isSome) : ∃ a, x = .ok a ∧ y = .ok a := by
  obtain ⟨a, ha⟩ := Option.isSome_iff_exists.1 hx
  exact ⟨a, toOption_eq_some_iff.1 ha, toOption_eq_some_iff.1 (h ▸ ha)⟩

namespace Render

theorem tableLines_isLine {ds : List Descriptor} {o : Options} {names : NameTable}
    (hname : o.NameOk)
    (hds : ∀ d ∈ ds, IsLine d.code ∧ IsLine d.mnemonic ∧ ∀ p ∈ d.operands, IsLine p.ident)
    (hn : o.withTypes = true → ∀ v ∈ names, IsLine v.1) :
    ∀ l ∈ tableLines ds o names, IsLine l := by
  have htypes (hw : o.withTypes = true) : ∀ l ∈ typesLines ds names, IsLine l :=
    typesLines_isLine (fun d hd => (hds d hd).2.1) (hn hw)
  obtain ⟨name, withTypes⟩ := o
  intro l hl
  cases withTypes <;> cases name <;>
    simp only [tableLines, Bool.false_eq_true, if_false, if_true, List.nil_append,
      List.mem_append, List.mem_singleton] at hl
  · exact bodyLines_isLine hds 0 l hl
  · rename_i n
    rcases hl with (rfl | hl) | rfl
    · simp only [isLine_append, Ident.isLine_of_isValid (hname n rfl), and_true]
      simp [IsLine]
    · exact bodyLines_isLine hds 1 l hl
    · simp [IsLine]
  · rcases hl with (hl | rfl) | hl
    · exact htypes rfl l hl
    · exact isLine_empty
    · exact bodyLines_isLine hds 0 l hl
  · rename_i n
    rcases hl with (hl | rfl) | (rfl | hl) | rfl
    · exact htypes rfl l hl
    · exact isLine_empty
    · simp only [isLine_append, Ident.isLine_of_isValid (hname n rfl), and_true]
      simp [IsLine]
    · exact bodyLines_isLine hds 1 l hl
    · simp [IsLine]

/-- The type definitions determine the mnemonics and the operand name table. -/
theorem typesLines_append_injective {ds₁ ds₂ : List Descriptor} {n₁ n₂ : NameTable}
    {r₁ r₂ : List String} (hn₁ : ∀ v ∈ n₁, ' ' ∉ v.1.toList) (hn₂ : ∀ v ∈ n₂, ' ' ∉ v.1.toList)
    (h : typesLines ds₁ n₁ ++ r₁ = typesLines ds₂ n₂ ++ r₂) :
    n₁ = n₂ ∧ r₁ = r₂ := by
  have hm : mnemonics ds₁ = mnemonics ds₂ := by
    have := declaredVariants_mnemonic ds₁ n₁ r₁
    rwa [h, declaredVariants_mnemonic, Option.some.injEq, eq_comm] at this
  have hn : n₁ = n₂ := by
    have := @asStrArms_operandName ds₁ n₁ r₁ hn₁
    rw [h, asStrArms_operandName r₂ hn₂, Option.some.injEq] at this
    -- an identifier and its quoted name determine the entry
    refine List.map_injective_iff.2 (fun a b hab => ?_) this.symm
    simp only [Prod.mk.injEq] at hab
    exact Prod.ext hab.1 (Text.quote_injective hab.2)
  have htypes : typesLines ds₁ n₁ = typesLines ds₂ n₂ := by
    simp only [typesLines, hm, hn]
  exact ⟨hn, List.append_cancel_left (htypes ▸ h)⟩

/-- **A table's lines determine the descriptors up to operand names, and, with the type
definitions, the operand name table.** -/
theorem tableLines_injective {ds₁ ds₂ : List Descriptor} {o : Options} {n₁ n₂ : NameTable}
    (h₁ : ∀ d ∈ ds₁, ∀ p ∈ d.operands, ',' ∉ p.ident.toList)
    (h₂ : ∀ d ∈ ds₂, ∀ p ∈ d.operands, ',' ∉ p.ident.toList)
    (hn₁ : o.withTypes = true → ∀ v ∈ n₁, ' ' ∉ v.1.toList)
    (hn₂ : o.withTypes = true → ∀ v ∈ n₂, ' ' ∉ v.1.toList)
    (h : tableLines ds₁ o n₁ = tableLines ds₂ o n₂) :
    ds₁.map Descriptor.eraseNames = ds₂.map Descriptor.eraseNames ∧
      (o.withTypes = true → n₁ = n₂) := by
  obtain ⟨name, withTypes⟩ := o
  cases withTypes <;> cases name <;>
    simp only [tableLines, Bool.false_eq_true, if_false, if_true, List.nil_append,
      List.append_assoc] at h
  · exact ⟨bodyLines_injective h₁ h₂ h, fun h => by simp at h⟩
  · simp only [List.singleton_append, List.cons.injEq, true_and, List.append_cancel_right_eq] at h
    exact ⟨bodyLines_injective h₁ h₂ h, fun h => by simp at h⟩
  · -- the types, then an empty line
    obtain ⟨hn, hrest⟩ := typesLines_append_injective (hn₁ rfl) (hn₂ rfl) h
    simp only [List.singleton_append, List.cons.injEq, true_and] at hrest
    exact ⟨bodyLines_injective h₁ h₂ hrest, fun _ => hn⟩
  · obtain ⟨hn, hrest⟩ := typesLines_append_injective (hn₁ rfl) (hn₂ rfl) h
    simp only [List.singleton_append, List.cons.injEq, true_and, List.append_cancel_right_eq]
      at hrest
    exact ⟨bodyLines_injective h₁ h₂ hrest, fun _ => hn⟩

/-! ## Operand names from the name table -/

/-- Operands that agree up to names are equal when every two of them written with one identifier
have one name. -/
theorem operands_eq_of_eraseName_eq {os₁ os₂ : List Operand}
    (hnames : ∀ p₁ ∈ os₁, ∀ p₂ ∈ os₂, p₁.ident = p₂.ident → p₁.name = p₂.name)
    (h : os₁.map Operand.eraseName = os₂.map Operand.eraseName) : os₁ = os₂ := by
  induction os₁ generalizing os₂ with
  | nil => cases os₂ <;> simp_all
  | cons p₁ os₁ ih =>
    cases os₂ with
    | nil => simp at h
    | cons p₂ os₂ =>
      simp only [List.map_cons, List.cons.injEq] at h
      have hp := Operand.eraseName_eq_iff.1 h.1
      have hname := hnames p₁ List.mem_cons_self p₂ List.mem_cons_self hp.1
      rw [ih (fun a ha b hb => hnames a (List.mem_cons_of_mem _ ha) b (List.mem_cons_of_mem _ hb))
        h.2]
      obtain ⟨n₁, i₁, m₁, b₁, inc₁, dec₁⟩ := p₁
      obtain ⟨n₂, i₂, m₂, b₂, inc₂, dec₂⟩ := p₂
      simp_all

/-- Descriptors that agree up to operand names are equal when every two operands written with
one identifier have one name. -/
theorem eq_of_eraseNames_eq {ds₁ ds₂ : List Descriptor}
    (hnames : ∀ p₁ ∈ Descriptor.allOperands ds₁, ∀ p₂ ∈ Descriptor.allOperands ds₂,
      p₁.ident = p₂.ident → p₁.name = p₂.name)
    (h : ds₁.map Descriptor.eraseNames = ds₂.map Descriptor.eraseNames) : ds₁ = ds₂ := by
  induction ds₁ generalizing ds₂ with
  | nil => cases ds₂ <;> simp_all
  | cons d₁ ds₁ ih =>
    cases ds₂ with
    | nil => simp at h
    | cons d₂ ds₂ =>
      simp only [List.map_cons, List.cons.injEq] at h
      simp only [Descriptor.allOperands, List.flatMap_cons, List.mem_append] at hnames
      have hd := Descriptor.eraseNames_eq_iff.1 h.1
      have hoperands := operands_eq_of_eraseName_eq
        (fun a ha b hb => hnames a (.inl ha) b (.inl hb)) hd.2.2.2.2.1
      rw [ih (fun a ha b hb => hnames a (.inr ha) b (.inr hb)) h.2]
      obtain ⟨c₁, m₁, l₁, cc₁, os₁, imm₁, fe₁⟩ := d₁
      obtain ⟨c₂, m₂, l₂, cc₂, os₂, imm₂, fe₂⟩ := d₂
      simp_all

/-- Two lists of descriptors with one name table give every identifier one name. -/
theorem names_agree_of_nameTable {ds₁ ds₂ : List Descriptor} {n : NameTable}
    (h₁ : Descriptor.nameTable ds₁ = .ok n) (h₂ : Descriptor.nameTable ds₂ = .ok n) :
    ∀ p₁ ∈ Descriptor.allOperands ds₁, ∀ p₂ ∈ Descriptor.allOperands ds₂,
      p₁.ident = p₂.ident → p₁.name = p₂.name := by
  obtain ⟨hrec₁, hfree₁⟩ := Descriptor.nameTable_records h₁
  obtain ⟨hrec₂, hfree₂⟩ := Descriptor.nameTable_records h₂
  intro p₁ hp₁ p₂ hp₂ hi
  obtain ⟨v₁, hv₁, hvp₁⟩ := List.mem_map.1 (hrec₁.mem_keys.2 (List.mem_map_of_mem hp₁))
  obtain ⟨v₂, hv₂, hvp₂⟩ := List.mem_map.1 (hrec₂.mem_keys.2 (List.mem_map_of_mem hp₂))
  -- the table holds each identifier once
  have hsame : v₁ = v₂ := List.inj_on_of_nodup_map hrec₁.keys_nodup hv₁ hv₂
    (hvp₁.trans (hi.trans hvp₂.symm))
  rw [hrec₁.name_eq hfree₁ hv₁ hp₁ hvp₁.symm, hsame, ← hrec₂.name_eq hfree₂ hv₂ hp₂ hvp₂.symm]

/-- What the lines of a checked dataset's descriptors hold: codes as the dataset has them, and
identifiers. -/
theorem gives_lines_isLine {d : Dataset} {ds : List Descriptor} (hg : d.Gives ds)
    (hc : ∀ c ∈ d.codes, IsLine c) :
    ∀ x ∈ ds, IsLine x.code ∧ IsLine x.mnemonic ∧ ∀ p ∈ x.operands, IsLine p.ident := by
  intro x hx
  obtain ⟨hm, hi⟩ := hg.identsValid x hx
  exact ⟨hc _ (hg.codes ▸ List.mem_map_of_mem hx), Ident.isLine_of_isValid hm,
    fun p hp => Ident.isLine_of_isValid (hi p hp)⟩

/-! ## A table determines its descriptors -/

/-- **A table determines its descriptors.** Two checked datasets whose codes hold no line feed
and that render to the same table have descriptors that agree in everything but operand names;
with the type definitions written, the descriptors are equal. -/
theorem table_determines_descriptors {d₁ d₂ : Dataset} {ds₁ ds₂ : List Descriptor} {o : Options}
    {s : String} (hd₁ : Descriptor.ofDataset d₁ = .ok ds₁) (hd₂ : Descriptor.ofDataset d₂ = .ok ds₂)
    (hc₁ : ∀ c ∈ d₁.codes, IsLine c) (hc₂ : ∀ c ∈ d₂.codes, IsLine c)
    (ht₁ : table ds₁ o = .ok s) (ht₂ : table ds₂ o = .ok s) :
    ds₁.map Descriptor.eraseNames = ds₂.map Descriptor.eraseNames ∧
      (o.withTypes = true → ds₁ = ds₂) := by
  obtain ⟨hg₁, -⟩ := (Descriptor.ofDataset_ok_iff d₁ ds₁).1 hd₁
  obtain ⟨hg₂, -⟩ := (Descriptor.ofDataset_ok_iff d₂ ds₂).1 hd₂
  obtain ⟨hname, n₁, hn₁, rfl⟩ := table_eq_ok ht₁
  obtain ⟨-, n₂, hn₂, hs⟩ := table_eq_ok ht₂
  have hv₁ (hw : o.withTypes = true) :=
    nameTable_keys_valid (hn₁ hw) fun x hx => (hg₁.identsValid x hx).2
  have hv₂ (hw : o.withTypes = true) :=
    nameTable_keys_valid (hn₂ hw) fun x hx => (hg₂.identsValid x hx).2
  -- the text is the lines, the lines are the descriptors and the name table
  have hlines := unlines_injective
    (tableLines_isLine hname (gives_lines_isLine hg₁ hc₁)
      fun hw v hv => Ident.isLine_of_isValid (hv₁ hw v hv))
    (tableLines_isLine hname (gives_lines_isLine hg₂ hc₂)
      fun hw v hv => Ident.isLine_of_isValid (hv₂ hw v hv)) hs
  obtain ⟨herase, hn⟩ := tableLines_injective
    (fun x hx p hp => Ident.comma_not_mem_of_isValid ((hg₁.identsValid x hx).2 p hp))
    (fun x hx p hp => Ident.comma_not_mem_of_isValid ((hg₂.identsValid x hx).2 p hp))
    (fun hw v hv => Ident.space_not_mem_of_isValid (hv₁ hw v hv))
    (fun hw v hv => Ident.space_not_mem_of_isValid (hv₂ hw v hv)) hlines
  refine ⟨herase, fun hwith => eq_of_eraseNames_eq ?_ herase⟩
  exact names_agree_of_nameTable (hn₁ hwith) (hn hwith ▸ hn₂ hwith)

/-! ## Tables of one opcode -/

/-- `RLC` with one operand, as a dataset writes it. -/
def rlcEntry (operand : String) : Entry :=
  ⟨"RLC", 2, [8], [⟨operand, true, none, none, none⟩], true, ⟨"Z", "0", "0", "C"⟩⟩

/-- The descriptor of `rlcEntry operand` under `code`, its operand written `ident`. -/
def rlcDescriptor (code operand ident : String) : Descriptor :=
  ⟨code, "RLC", 2, [8], [⟨operand, ident, true, none, none, none⟩], true,
    ⟨.dataDependent, .cleared, .cleared, .dataDependent⟩⟩

/-- Without the type definitions a table keeps no operand names: operands named `0` and `_0`
are both written `OperandName::_0`, and their descriptors agree only up to names. -/
theorem digit_operand_names_render_alike :
    (∃ s, table [rlcDescriptor "0x00" "0" "_0"] ⟨none, false⟩ = .ok s ∧
      table [rlcDescriptor "0x00" "_0" "_0"] ⟨none, false⟩ = .ok s) ∧
    [rlcDescriptor "0x00" "0" "_0"].map Descriptor.eraseNames =
      [rlcDescriptor "0x00" "_0" "_0"].map Descriptor.eraseNames ∧
    rlcDescriptor "0x00" "0" "_0" ≠ rlcDescriptor "0x00" "_0" "_0" := by
  have hd₁ : Descriptor.ofDataset ⟨[("0x00", rlcEntry "0")]⟩ = .ok [rlcDescriptor "0x00" "0" "_0"] :=
    Except.toOption_eq_some_iff.1 (by decide +kernel)
  have hd₂ : Descriptor.ofDataset ⟨[("0x00", rlcEntry "_0")]⟩ =
      .ok [rlcDescriptor "0x00" "_0" "_0"] :=
    Except.toOption_eq_some_iff.1 (by decide +kernel)
  obtain ⟨s, hs₁, hs₂⟩ := Except.exists_ok_of_toOption_eq
    (x := table [rlcDescriptor "0x00" "0" "_0"] ⟨none, false⟩)
    (y := table [rlcDescriptor "0x00" "_0" "_0"] ⟨none, false⟩) (by decide +kernel) (by decide +kernel)
  exact ⟨⟨s, hs₁, hs₂⟩,
    (table_determines_descriptors hd₁ hd₂ (by decide) (by decide) hs₁ hs₂).1, by decide⟩

/-- A code that writes the end of a block, an empty line and the comment of the next. -/
def forgedCode : String :=
  "A\nOpcode \x7b\n    mnemonic: Mnemonic::RLC,\n    bytes: 2,\n    cycles: &[8],\n" ++
  "    operands: &[\n        Operand::new(OperandName::B, true),\n    ],\n" ++
  "    immediate: true,\n    flags: FlagBehaviors \x7b\n" ++
  "        z: FlagBehavior::DataDependent,\n        n: FlagBehavior::Cleared,\n" ++
  "        h: FlagBehavior::Cleared,\n        c: FlagBehavior::DataDependent,\n" ++
  "    \x7d,\n\x7d,\n\n// B"

/-- A code that holds line feeds is copied into its comment and can write a block of its own: a
dataset of one entry renders as one of two. -/
theorem forged_code_renders_as_two_blocks :
    Descriptor.ofDataset ⟨[(forgedCode, rlcEntry "B")]⟩ = .ok [rlcDescriptor forgedCode "B" "B"] ∧
    Descriptor.ofDataset ⟨[("A", rlcEntry "B"), ("B", rlcEntry "B")]⟩ =
      .ok [rlcDescriptor "A" "B" "B", rlcDescriptor "B" "B" "B"] ∧
    ∃ s, table [rlcDescriptor forgedCode "B" "B"] ⟨none, false⟩ = .ok s ∧
      table [rlcDescriptor "A" "B" "B", rlcDescriptor "B" "B" "B"] ⟨none, false⟩ = .ok s :=
  ⟨Except.toOption_eq_some_iff.1 (by decide +kernel),
    Except.toOption_eq_some_iff.1 (by decide +kernel),
    Except.exists_ok_of_toOption_eq (by decide +kernel) (by decide +kernel)⟩

end Render

end OpcodeTable
