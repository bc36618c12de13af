import OpcodeTable.Proofs.SourceLines
/-!
# The layout of a table

`Render.table` writes the blocks of its descriptors through the depth-tracking writer, one level
deeper when they are wrapped in a named constant. Here the same text is described without the
writer: the type definitions and an empty line when they are asked for, then the blocks of the
descriptors as each is written at the top level, separated by empty lines (`blocks`), and inside
a named constant those same blocks with every line that has text indented one level
(`indentText`).

The writer is a machine that steps from depth to depth. `Step.lineAt_add` is its step lemma and
`Writer.lines_add` its run lemma: a run started `k` levels deeper writes the same lines, each
indented `k` levels more, as long as no closing step has to stop at the top
(`Writer.closingDepths`), which the steps of a descriptor never do (`closingDepths_steps`). Read
as text (`textLines_unlines`) this is `Writer.text_add`; `table_layout` follows when no code,
mnemonic or operand identifier holds a line feed. A line feed inside one of them leaves the text
after it where the writer put it, unindented (`text_blockSteps_ne_of_code_line_feed`).
-/

namespace OpcodeTable.Render

/-! ## Lines of a text -/

/-- The lines of a text: the pieces between its line feeds, so that a text ending in a line feed
ends with an empty piece. -/
def textLines (s : String) : List String :=
  (s.toList.splitOn '\n').map String.ofList

/-- A text with every line that has text indented by `k` levels; empty lines stay empty. -/
def indentText (k : Nat) (s : String) : String :=
  "\n".intercalate ((textLines s).map (indented k))

theorem textLines_empty : textLines "" = [""] := rfl

theorem textLines_line_append {l : String} (hl : IsLine l) (s : String) :
    textLines (l ++ "\n" ++ s) = l :: textLines s := by
  have hsplit : (l ++ "\n" ++ s).toList = l.toList ++ '\n' :: s.toList := by simp
  simp only [textLines, hsplit, List.splitOn_append_cons_self_of_not_mem hl, List.map_cons,
    String.ofList_toList]

/-- Text made of lines splits back into them, with an empty piece after the last line feed. -/
theorem textLines_unlines {ls : List String} (h : ∀ l ∈ ls, IsLine l) :
    textLines (unlines ls) = ls ++ [""] := by
  induction ls with
  | nil => exact textLines_empty
  | cons l ls ih =>
    rw [unlines_cons, textLines_line_append (h l List.mem_cons_self),
      ih fun x hx => h x (List.mem_cons_of_mem _ hx), List.cons_append]

theorem intercalate_append_empty (ls : List String) : "\n".intercalate (ls ++ [""]) = unlines ls := by
  induction ls with
  | nil => rfl
  | cons l ls ih =>
    rw [List.cons_append, String.intercalate_cons_of_ne_nil (by simp), ih, unlines_cons]

@[simp] theorem indented_empty (k : Nat) : indented k "" = "" := rfl

/-- Indenting text made of lines indents each line. -/
theorem indentText_unlines {ls : List String} (h : ∀ l ∈ ls, IsLine l) (k : Nat) :
    indentText k (unlines ls) = unlines (ls.map (indented k)) := by
  rw [indentText, textLines_unlines h, List.map_append, List.map_singleton, indented_empty,
    intercalate_append_empty]

theorem textLines_ne_nil (s : String) : textLines s ≠ [] := by
  simp [textLines, List.splitOn_ne_nil]

/-- Indenting a text whose first line is `l` indents `l`, then the rest of the text. -/
theorem indentText_line_append {l : String} (hl : IsLine l) (k : Nat) (s : String) :
    indentText k (l ++ "\n" ++ s) = indented k l ++ "\n" ++ indentText k s := by
  rw [indentText, textLines_line_append hl, List.map_cons,
    String.intercalate_cons_of_ne_nil (by simpa using textLines_ne_nil s), indentText]

/-! ## Indentation composes -/

theorem indent_add (d k : Nat) : indent (d + k) = indent k ++ indent d := by
  apply String.toList_injective
  rw [String.toList_append, toList_indent, toList_indent, toList_indent, ← List.replicate_add]
  congr 1
  omega

theorem indented_indented (d k : Nat) (t : String) : indented k (indented d t) = indented (d + k) t := by
  by_cases ht : t = ""
  · simp [ht]
  · have hd : indent d ++ t ≠ "" := fun h => ht (String.append_eq_empty_iff.1 h).2
    rw [indented_of_ne ht, indented_of_ne hd, indented_of_ne ht, indent_add, String.append_assoc]

/-! ## A run, deeper -/

/-- Whether a step closes a level. -/
def Step.isClosing : Step → Bool
  | .closing _ => true
  | _ => false

namespace Writer

/-- The depths the closing steps come back from, in order, for a run started at depth `d`. -/
def closingDepths : Nat → List Step → List Nat
  | _, [] => []
  | d, s :: ss => (if s.isClosing then [d] else []) ++ closingDepths (s.next d) ss

@[simp] theorem closingDepths_nil (d : Nat) : closingDepths d [] = [] := rfl

@[simp] theorem closingDepths_cons (d : Nat) (s : Step) (ss : List Step) :
    closingDepths d (s :: ss) = (if s.isClosing then [d] else []) ++ closingDepths (s.next d) ss :=
  rfl

theorem closingDepths_append (d : Nat) (ss ts : List Step) :
    closingDepths d (ss ++ ts) = closingDepths d ss ++ closingDepths (depthAfter d ss) ts := by
  induction ss generalizing d with
  | nil => rfl
  | cons s ss ih => simp [ih]

theorem closingDepths_map_line (d : Nat) (texts : List String) :
    closingDepths d (texts.map .line) = [] := by
  induction texts with
  | nil => rfl
  | cons t ts ih => simpa [Step.isClosing] using ih

end Writer

/-- **A step, deeper.** A step taken `k` levels deeper writes its line indented `k` levels more
and ends `k` levels deeper, unless it is a closing step at the top, which stops there. -/
theorem Step.lineAt_add (s : Step) {d : Nat} (h : s.isClosing = true → 0 < d) (k : Nat) :
    s.lineAt (d + k) = indented k (s.lineAt d) ∧ s.next (d + k) = s.next d + k := by
  cases s with
  | line t => simp [indented_indented]
  | opening t =>
    refine ⟨by simp [indented_indented], ?_⟩
    simp only [next_opening]
    omega
  | closing t =>
    have hd : 0 < d := h rfl
    have hsub : d + k - 1 = d - 1 + k := by omega
    simp [indented_indented, hsub]
  | blank => simp

namespace Writer

/-- **A run, deeper.** A run started `k` levels deeper writes the same lines, each indented `k`
levels more, as long as none of its closing steps comes back from the top. -/
theorem lines_add {d : Nat} {ss : List Step} (h : ∀ x ∈ closingDepths d ss, 0 < x) (k : Nat) :
    lines (d + k) ss = (lines d ss).map (indented k) := by
  induction ss generalizing d with
  | nil => rfl
  | cons s ss ih =>
    have hs : s.isClosing = true → 0 < d := fun hc => h d (by simp [hc])
    have hrest : ∀ x ∈ closingDepths (s.next d) ss, 0 < x := fun x hx => h x (by simp [hx])
    obtain ⟨hline, hnext⟩ := s.lineAt_add hs k
    rw [lines_cons, lines_cons, hline, hnext, ih hrest, List.map_cons]

/-- The text of a run started `k` levels deep is the text of the run from the top with every line
that has text indented `k` levels, when no closing step comes back from the top and every line
written is a line. -/
theorem text_add {ss : List Step} (h : ∀ x ∈ closingDepths 0 ss, 0 < x)
    (hl : ∀ l ∈ lines 0 ss, IsLine l) (k : Nat) : text k ss = indentText k (text 0 ss) := by
  rw [text_eq, text_eq, indentText_unlines hl, ← lines_add h k, Nat.zero_add]

end Writer

/-! ## The steps of a descriptor never close at the top -/

theorem closingDepths_operandSteps (j : Nat) (o : Operand) :
    Writer.closingDepths j (operandSteps o) = if o.hasAttributes then [j + 1] else [] := by
  have hattr : attributeLines o = (attributeTexts o).map .line := by
    simp [attributeLines, attributeTexts, Function.comp_def]
  have hdepth := (Writer.lines_map_line (j + 1) (attributeTexts o)).2
  unfold operandSteps
  split
  · simp [Writer.closingDepths_append, hattr, Writer.closingDepths_map_line, hdepth,
      Step.isClosing]
  · simp [Step.isClosing]

theorem closingDepths_flatMap_operandSteps (j : Nat) (os : List Operand) :
    ∀ x ∈ Writer.closingDepths j (os.flatMap operandSteps), x = j + 1 := by
  induction os with
  | nil => simp
  | cons o os ih =>
    rw [List.flatMap_cons, Writer.closingDepths_append, (lines_operandSteps j o).2,
      closingDepths_operandSteps]
    intro x hx
    simp only [List.mem_append] at hx
    rcases hx with hx | hx
    · split at hx <;> simp_all
    · exact ih x hx

theorem closingDepths_operandListSteps (j : Nat) (os : List Operand) :
    ∀ x ∈ Writer.closingDepths j (operandListSteps os), j < x := by
  cases os with
  | nil => simp [operandListSteps, Step.isClosing]
  | cons o os =>
    have hd := (lines_flatMap_operandSteps (j + 1) (o :: os)).2
    have hc := closingDepths_flatMap_operandSteps (j + 1) (o :: os)
    -- the list is kept whole so that `hd` and `hc` apply to it
    simp only [operandListSteps, Writer.closingDepths_append, Writer.depthAfter_append,
      Writer.closingDepths_cons, Writer.closingDepths_nil, Writer.depthAfter_cons,
      Writer.depthAfter_nil, next_opening, hd,
      Step.isClosing, if_false, Bool.false_eq_true, if_true, List.nil_append, List.append_nil,
      List.mem_append, List.mem_singleton]
    rintro x (hx | rfl)
    · have := hc x hx
      omega
    · omega

theorem closingDepths_flagSteps (j : Nat) (e : FlagEffects) :
    Writer.closingDepths j (flagSteps e) = [j + 1] := by
  simp [flagSteps, Step.isClosing]

/-- Every closing step of a descriptor written at depth `k` comes back from below `k`. -/
theorem closingDepths_steps (k : Nat) (d : Descriptor) :
    ∀ x ∈ Writer.closingDepths k (Descriptor.steps d), k < x := by
  have hod := (lines_operandListSteps (k + 1) d.operands).2
  have hoc := closingDepths_operandListSteps (k + 1) d.operands
  have hfd := (lines_flagSteps (k + 1) d.flagEffects).2
  simp only [Descriptor.steps, Writer.closingDepths_append, Writer.depthAfter_append]
  simp only [Writer.closingDepths_cons, Writer.depthAfter_cons, Writer.closingDepths_nil,
    Writer.depthAfter_nil, next_line, next_opening, hod, hfd, closingDepths_flagSteps,
    Step.isClosing, Bool.false_eq_true, if_false, if_true, List.nil_append, List.append_nil,
    List.mem_append, List.mem_singleton]
  rintro x ((hx | rfl) | rfl)
  · have := hoc x hx
    omega
  · omega
  · omega

theorem closingDepths_blockSteps (k : Nat) (ds : List Descriptor) :
    ∀ x ∈ Writer.closingDepths k (blockSteps ds), k < x := by
  have hrest : ∀ ds : List Descriptor,
      ∀ x ∈ Writer.closingDepths k (ds.flatMap fun d => .blank :: Descriptor.steps d), k < x := by
    intro ds
    induction ds with
    | nil => simp
    | cons d ds ih =>
      rw [List.flatMap_cons, Writer.closingDepths_append, Writer.depthAfter_cons]
      simp only [Writer.closingDepths_cons, next_blank, Step.isClosing, Bool.false_eq_true,
        if_false, List.nil_append, (lines_steps k d).2, List.mem_append]
      rintro x (hx | hx)
      · exact closingDepths_steps k d x hx
      · exact ih x hx
  cases ds with
  | nil => simp [blockSteps]
  | cons d ds =>
    rw [blockSteps, Writer.closingDepths_append, (lines_steps k d).2]
    intro x hx
    rcases List.mem_append.1 hx with hx | hx
    · exact closingDepths_steps k d x hx
    · exact hrest ds x hx

/-! ## The layout of a table -/

/-- The blocks of descriptors, each as written at the top level, separated by empty lines. -/
def blocks (ds : List Descriptor) : String :=
  "\n".intercalate (ds.map Descriptor.render)

theorem intercalate_cons_eq_join (sep a : String) (as : List String) :
    sep.intercalate (a :: as) = a ++ String.join (as.map (sep ++ ·)) := by
  induction as generalizing a with
  | nil => simp
  | cons b bs ih => rw [String.intercalate_cons_cons, ih, List.map_cons, String.join_cons,
      String.append_assoc, String.append_assoc]

theorem render_eq_unlines (d : Descriptor) : Descriptor.render d = unlines (blockLines 0 d) := by
  rw [Descriptor.render, Writer.text_eq, (lines_steps 0 d).1]

/-- Written from the top, the blocks are the descriptors' own texts with an empty line between
two. -/
theorem text_blockSteps_zero (ds : List Descriptor) : Writer.text 0 (blockSteps ds) = blocks ds := by
  have hrest : ∀ ds : List Descriptor,
      unlines (ds.flatMap fun d => "" :: blockLines 0 d) =
        String.join (ds.map fun d => "\n" ++ Descriptor.render d) := by
    intro ds
    induction ds with
    | nil => rfl
    | cons d ds ih =>
      rw [List.flatMap_cons, List.cons_append, unlines_cons, unlines_append, ih, List.map_cons,
        String.join_cons, render_eq_unlines]
      simp [String.append_assoc]
  rw [Writer.text_eq, (lines_blockSteps 0 ds).1]
  cases ds with
  | nil => rfl
  | cons d ds =>
    rw [bodyLines, unlines_append, hrest, blocks, List.map_cons, intercalate_cons_eq_join,
      render_eq_unlines, List.map_map, Function.comp_def]

/-! ## A line feed inside a code -/

/-- The writer indents the comment line of a descriptor as one line: when the code holds a line
feed, the text after it starts the next line, unindented. -/
theorem text_blockSteps_code_line_feed {d : Descriptor} {a b : String}
    (hcode : d.code = a ++ "\n" ++ b) (k : Nat) (ds : List Descriptor) :
    ∃ t, Writer.text k (blockSteps (d :: ds)) =
      indented k ("// " ++ a) ++ "\n" ++ (b ++ "\n" ++ t) := by
  obtain ⟨rest, hrest⟩ : ∃ rest, bodyLines k (d :: ds) = indented k ("// " ++ d.code) :: rest :=
    ⟨_, rfl⟩
  rw [Writer.text_eq, (lines_blockSteps k (d :: ds)).1, hrest, unlines_cons, hcode,
    indented_of_ne (by simp), indented_of_ne (by simp)]
  exact ⟨unlines rest, by simp only [String.append_assoc]⟩

/-- A code that holds a line feed, with text after it, breaks the layout one level deep: the
writer leaves that text unindented where the layout indents it. -/
theorem text_blockSteps_ne_of_code_line_feed {d : Descriptor} {a b : String}
    (hcode : d.code = a ++ "\n" ++ b) (ha : IsLine a) (hb : IsLine b) (hne : b ≠ "")
    (ds : List Descriptor) :
    Writer.text 1 (blockSteps (d :: ds)) ≠ indentText 1 (blocks (d :: ds)) := by
  intro heq
  obtain ⟨t, ht⟩ := text_blockSteps_code_line_feed hcode 1 ds
  obtain ⟨t₀, ht₀⟩ := text_blockSteps_code_line_feed hcode 0 ds
  have hcomment : IsLine ("// " ++ a) := isLine_append.2 ⟨by decide, ha⟩
  rw [← text_blockSteps_zero, ht₀, indented_zero, indentText_line_append hcomment,
    indentText_line_append hb, ht, String.append_right_inj] at heq
  -- the line after the line feed: `b` as written, `b` indented as laid out
  have hlines := congrArg textLines heq
  rw [textLines_line_append hb, textLines_line_append (isLine_indented.2 hb)] at hlines
  have hlen := congrArg String.length (List.cons.inj hlines).1
  rw [indented_of_ne hne, String.length_append] at hlen
  have hindent : (indent 1).length = 4 := rfl
  omega

/-- **The layout of a table.** When no code, mnemonic or operand identifier holds a line feed, a
table that is written is: the type definitions and an empty line, when they are asked for; then
the blocks of the descriptors, each as written at the top level, separated by empty lines, and
inside a named constant, between its opening and its closing line, the same blocks with every
line that has text indented one level and the empty lines left empty. Started `k` levels deep,
the writer writes the blocks with every line that has text indented `k` levels. -/
theorem table_layout {ds : List Descriptor} {o : Options} {s : String} (ht : table ds o = .ok s)
    (hlines : ∀ d ∈ ds, IsLine d.code ∧ IsLine d.mnemonic ∧ ∀ p ∈ d.operands, IsLine p.ident) :
    (∃ front, (o.withTypes = true → ∃ t, types ds = .ok t ∧ front = t ++ "\n") ∧
      (o.withTypes = false → front = "") ∧
      s = front ++ o.tableName.elim (blocks ds)
        fun n => constantHead n ++ indentText 1 (blocks ds) ++ constantTail) ∧
    ∀ k, Writer.text k (blockSteps ds) = indentText k (blocks ds) := by
  have hdeep (k : Nat) : Writer.text k (blockSteps ds) = indentText k (blocks ds) := by
    rw [Writer.text_add (fun x hx => closingDepths_blockSteps 0 ds x hx)
      (by rw [(lines_blockSteps 0 ds).1]; exact bodyLines_isLine hlines 0), text_blockSteps_zero]
  refine ⟨?_, hdeep⟩
  have hname : o.NameOk := ((table_ok_iff ds o).1 ⟨s, ht⟩).1
  rw [table_of_nameOk hname] at ht
  obtain ⟨name, withTypes⟩ := o
  -- the front is the types or nothing; the body is the blocks, wrapped when there is a name
  cases withTypes with
  | false =>
    refine ⟨"", nofun, fun _ => rfl, ?_⟩
    cases name <;>
      simp only [Bool.false_eq_true, if_false, bind, Except.bind, pure, Except.pure,
        Except.ok.injEq] at ht <;>
      simp [← ht, hdeep 1, text_blockSteps_zero]
  | true =>
    obtain ⟨front, hfront, ht⟩ := Except.bind_eq_ok_iff.1 ht
    simp only [Functor.map, Except.map] at hfront
    split at hfront
    · cases hfront
    · rename_i t htypes
      cases hfront
      refine ⟨t ++ "\n", fun _ => ⟨t, htypes, rfl⟩, nofun, ?_⟩
      cases name <;>
        simp only [pure, Except.pure, Except.ok.injEq] at ht <;>
        simp [← ht, hdeep 1, text_blockSteps_zero, String.append_assoc]

/-- `SWAP A` under `code`, as a descriptor. -/
def swapDescriptor (code : String) : Descriptor :=
  ⟨code, "SWAP", 2, [8], [⟨"A", "A", false, none, none, none⟩], false,
    ⟨.dataDependent, .cleared, .cleared, .cleared⟩⟩

/-- A table named `CB`, with its types, of two descriptors whose texts are lines: the blocks
stand one blank line apart, indented one level inside the constant. -/
theorem swap_table_layout :
    ∃ s, table [swapDescriptor "0x37", swapDescriptor "0x30"] ⟨some "CB", true⟩ = .ok s ∧
      (∃ front,
        (true = true →
          ∃ t, types [swapDescriptor "0x37", swapDescriptor "0x30"] = .ok t ∧ front = t ++ "\n") ∧
        (true = false → front = "") ∧
        s = front ++ (some "CB").elim (blocks [swapDescriptor "0x37", swapDescriptor "0x30"])
          fun n => constantHead n ++
            indentText 1 (blocks [swapDescriptor "0x37", swapDescriptor "0x30"]) ++ constantTail) ∧
      ∀ k, Writer.text k (blockSteps [swapDescriptor "0x37", swapDescriptor "0x30"]) =
        indentText k (blocks [swapDescriptor "0x37", swapDescriptor "0x30"]) := by
  obtain ⟨s, hs⟩ := (table_ok_iff [swapDescriptor "0x37", swapDescriptor "0x30"] ⟨some "CB", true⟩).2
    ⟨fun n hn => by cases hn; decide, fun _ => (Descriptor.nameTable_ok_iff _).2 (by
      unfold Operand.ClashFree
      decide)⟩
  exact ⟨s, hs, table_layout hs (by decide)⟩

/-- A code that holds a line feed breaks the layout: inside a named constant, the text after the
line feed is left where the writer put it, unindented. -/
theorem table_layout_fails_on_line_feed :
    ∃ s, table [swapDescriptor "A\nB"] ⟨some "T", false⟩ = .ok s ∧
      s ≠ constantHead "T" ++ indentText 1 (blocks [swapDescriptor "A\nB"]) ++ constantTail := by
  have hname : (⟨some "T", false⟩ : Options).NameOk := fun n hn => by cases hn; decide
  refine ⟨"" ++ constantHead "T" ++ Writer.text 1 (blockSteps [swapDescriptor "A\nB"]) ++
    constantTail, by rw [table_of_nameOk hname]; rfl, fun heq => ?_⟩
  simp only [String.empty_append, String.append_left_inj, String.append_right_inj] at heq
  have hcode : (swapDescriptor "A\nB").code = "A" ++ "\n" ++ "B" := rfl
  exact text_blockSteps_ne_of_code_line_feed hcode (by decide) (by decide) (by decide) [] heq

end OpcodeTable.Render
