import Mathlib.Data.List.Nodup
import OpcodeTable.Proofs.SourceLines
/-!
# The enums of names agree with the literals

The type definitions end with two enums, `Mnemonic` and `OperandName`, each with an `as_str` that
maps a variant back to the name it stands for. Here the enums are read back from the lines of the
text, with no reference to how they were written:

* `declaredVariants name ls`: the variants the enum `name` declares, the lines after its first
  `pub enum name {` up to the closing brace;
* `asStrArms name ls`: the arms of `as_str` in its `impl`, each variant with the literal it
  returns.

`types_declare_each_name_once` says that for descriptors whose mnemonics and operand identifiers
are identifiers, the type definitions, read as lines, declare the distinct mnemonics and the
distinct operand identifiers in order of first appearance (`EnumsAgree`), and that each arm's
literal denotes (`Text.Denotes`) the mnemonic, or the name of every operand written with that
identifier. So every `Mnemonic::m` and `OperandName::x` a descriptor's block writes names a variant
declared exactly once.
-/

namespace OpcodeTable

theorem Ident.space_not_mem_of_isValid {s : String} (h : isValid s = true) : ' ' ∉ s.toList :=
  fun hs => by simpa [isPart] using isPart_of_mem h ' ' hs

namespace Render

/-! ## Reading an enum back from its lines -/

/-- The variant a line of an enum's body declares: the text after one level of indentation, up to
the final comma. -/
def readVariant (l : String) : Option String := do
  let rest ← l.toList.dropPrefix? (indent 1).toList
  let v ← rest.dropSuffix? [',']
  return String.ofList v

/-- The variants declared by the lines of an enum's body, up to the line that closes it. -/
def readVariants : List String → Option (List String)
  | [] => none
  | l :: ls =>
    if l = "\x7d" then some []
    else do
      let v ← readVariant l
      let vs ← readVariants ls
      return v :: vs

/-- The variants the enum `name` declares: the body after the first line that opens it. -/
def declaredVariants (name : String) : List String → Option (List String)
  | [] => none
  | l :: ls =>
    if l = "pub enum " ++ name ++ " \x7b" then readVariants ls else declaredVariants name ls

/-- An arm of `as_str`, at depth 3: the variant after `Self::`, up to the first blank, and the
literal after the arrow, up to the final comma. -/
def readArm (l : String) : Option (String × String) := do
  let rest ← l.toList.dropPrefix? (indent 3 ++ "Self::").toList
  let lit ← (rest.dropWhile (· != ' ')).dropPrefix? " => ".toList
  let lit ← lit.dropSuffix? [',']
  return (String.ofList (rest.takeWhile (· != ' ')), String.ofList lit)

/-- The arms of a `match`, up to the line that closes it at depth 2. -/
def readArms : List String → Option (List (String × String))
  | [] => none
  | l :: ls =>
    if l = indent 2 ++ "\x7d" then some []
    else do
      let a ← readArm l
      let as ← readArms ls
      return a :: as

/-- The arms of `as_str` after the line that opens the `impl`: its signature, then a `match` on
`self` that is empty or followed by its arms. -/
def readAsStr : List String → Option (List (String × String))
  | sig :: m :: rest =>
    if sig = indent 1 ++ "pub const fn as_str(self) -> &'static str \x7b" then
      if m = indent 2 ++ "match self \x7b\x7d" then some []
      else if m = indent 2 ++ "match self \x7b" then readArms rest
      else none
    else none
  | _ => none

/-- The arms of `as_str` in the `impl` of `name`, after the first line that opens it. -/
def asStrArms (name : String) : List String → Option (List (String × String))
  | [] => none
  | l :: ls => if l = "impl " ++ name ++ " \x7b" then readAsStr ls else asStrArms name ls

/-! ## Lines that cannot be mistaken for one another -/

theorem ne_of_head?_ne {s t : String} (h : s.toList.head? ≠ t.toList.head?) : s ≠ t :=
  fun hst => h (by rw [hst])

/-- Past depth `d`, a line with text differs from every line at depth `d` whose text does not
start with a blank. -/
theorem indented_add_ne {d e : Nat} {t s : String} (ht : t ≠ "")
    (hs : s.toList.head? ≠ some ' ') : indented (d + (e + 1)) t ≠ indented d s := by
  intro h
  by_cases hs0 : s = ""
  · subst hs0
    have := congrArg String.toList h
    simp [indented, ht] at this
  · have hl := congrArg String.toList h
    simp only [indented_of_ne ht, indented_of_ne hs0, String.toList_append, toList_indent,
      Nat.mul_add, List.replicate_add, List.append_assoc] at hl
    have hrest := List.append_cancel_left hl
    apply hs
    rw [← hrest, ← List.append_assoc, ← List.replicate_add,
      show 4 * e + 4 * 1 = (4 * e + 3) + 1 by omega, List.replicate_succ]
    rfl

theorem indented_succ_ne {d : Nat} {text s : String} (htext : text ≠ "")
    (hs : s.toList.head? ≠ some ' ') : indented (d + 1) text ≠ s := by
  simpa [indented_zero] using indented_add_ne (d := 0) (e := d) htext hs

/-! ## Reading what was written -/

theorem dropSuffix?_append_self (l s : List Char) : (l ++ s).dropSuffix? s = some l :=
  List.dropSuffix?_eq_some_iff.2 ⟨s, rfl, beq_self_eq_true s⟩

theorem dropPrefix?_append_self (p l : List Char) : (p ++ l).dropPrefix? p = some l :=
  List.dropPrefix?_append_of_beq l (beq_self_eq_true p)

theorem readVariant_line (v : String) : readVariant (indented 1 (v ++ ",")) = some v := by
  have hl : (indented 1 (v ++ ",")).toList = (indent 1).toList ++ (v.toList ++ [',']) := by
    rw [indented_of_ne (by simp), String.toList_append, String.toList_append]
    rfl
  simp only [readVariant, hl, dropPrefix?_append_self, dropSuffix?_append_self,
    Option.bind_eq_bind, Option.bind_some, Option.pure_def, String.ofList_toList]

/-- The lines of a body read back as its variants. -/
theorem readVariants_lines (vs : List String) (rest : List String) :
    readVariants (vs.map (fun v => indented 1 (v ++ ",")) ++ "\x7d" :: rest) = some vs := by
  induction vs with
  | nil => simp [readVariants]
  | cons v vs ih =>
    have hne : indented 1 (v ++ ",") ≠ "\x7d" := indented_succ_ne (by simp) (by simp)
    simp [readVariants, hne, readVariant_line, ih]

theorem readArm_line {x : String} (hx : ' ' ∉ x.toList) (lit : String) :
    readArm (indented 3 ("Self::" ++ x ++ " => " ++ lit ++ ",")) = some (x, lit) := by
  have hl : (indented 3 ("Self::" ++ x ++ " => " ++ lit ++ ",")).toList =
      (indent 3 ++ "Self::").toList ++ (x.toList ++ (' ' :: "=> ".toList ++ (lit.toList ++ [',']))) := by
    rw [indented_of_ne (by simp)]
    simp [String.append_assoc]
  have hall : ∀ c ∈ x.toList, (c != ' ') = true := fun c hc => by
    simpa using fun h : c = ' ' => hx (h ▸ hc)
  have htake : (x.toList ++ (' ' :: "=> ".toList ++ (lit.toList ++ [',']))).takeWhile
      (· != ' ') = x.toList := by
    rw [List.takeWhile_append_of_pos hall]
    simp
  have hdrop : (x.toList ++ (' ' :: "=> ".toList ++ (lit.toList ++ [',']))).dropWhile
      (· != ' ') = " => ".toList ++ (lit.toList ++ [',']) := by
    rw [List.dropWhile_append_of_pos hall]
    simp
  simp only [readArm, hl, dropPrefix?_append_self, hdrop, dropSuffix?_append_self, htake,
    Option.bind_eq_bind, Option.bind_some, Option.pure_def, String.ofList_toList]

/-- The arm lines of a `match` read back as its arms. -/
theorem readArms_lines {vs : List (String × String)} (hvs : ∀ v ∈ vs, ' ' ∉ v.1.toList)
    (rest : List String) :
    readArms (vs.map (fun v => indented 3 ("Self::" ++ v.1 ++ " => " ++ Text.quote v.2 ++ ",")) ++
      indented 2 "\x7d" :: rest) = some (vs.map fun v => (v.1, Text.quote v.2)) := by
  induction vs with
  | nil => simp [readArms, indented_of_ne]
  | cons v vs ih =>
    have hne : indented 3 ("Self::" ++ v.1 ++ " => " ++ Text.quote v.2 ++ ",") ≠
        indent 2 ++ "\x7d" := by
      rw [← indented_of_ne (by simp)]
      exact indented_add_ne (d := 2) (e := 0) (by simp) (by simp)
    simp only [List.map_cons, List.cons_append, readArms, hne, if_false,
      readArm_line (hvs v List.mem_cons_self),
      ih fun v' hv' => hvs v' (List.mem_cons_of_mem _ hv')]
    rfl

/-! ## Finding an enum among other lines -/

theorem declaredVariants_append {name : String} {pre : List String}
    (hpre : ∀ l ∈ pre, l ≠ "pub enum " ++ name ++ " \x7b") (ls : List String) :
    declaredVariants name (pre ++ ls) = declaredVariants name ls := by
  induction pre with
  | nil => rfl
  | cons l pre ih =>
    rw [List.cons_append, declaredVariants, if_neg (hpre l List.mem_cons_self)]
    exact ih fun l' hl' => hpre l' (List.mem_cons_of_mem _ hl')

theorem asStrArms_append {name : String} {pre : List String}
    (hpre : ∀ l ∈ pre, l ≠ "impl " ++ name ++ " \x7b") (ls : List String) :
    asStrArms name (pre ++ ls) = asStrArms name ls := by
  induction pre with
  | nil => rfl
  | cons l pre ih =>
    rw [List.cons_append, asStrArms, if_neg (hpre l List.mem_cons_self)]
    exact ih fun l' hl' => hpre l' (List.mem_cons_of_mem _ hl')

/-- An enum declares the identifiers it is written with. -/
theorem declaredVariants_enumLines (name : String) (vs : List (String × String))
    (post : List String) :
    declaredVariants name (enumLines name vs ++ post) = some (vs.map (·.1)) := by
  have hvs : vs.map (fun v => indented 1 (v.1 ++ ",")) =
      (vs.map (·.1)).map fun v => indented 1 (v ++ ",") := by
    simp [Function.comp_def]
  simp only [enumLines, indented_zero, List.append_assoc, List.cons_append, List.nil_append]
  rw [declaredVariants, if_neg (ne_of_head?_ne (by simp)), declaredVariants,
    if_neg (ne_of_head?_ne (by simp)), declaredVariants, if_pos rfl, hvs]
  exact readVariants_lines _ _

/-- The lines of an enum before its `impl`. -/
theorem enumLines_eq (name : String) (vs : List (String × String)) :
    enumLines name vs =
      ([indented 0 "#[allow(non_camel_case_types, clippy::upper_case_acronyms)]",
        indented 0 "#[derive(Debug, Clone, Copy, PartialEq, Eq, Hash)]",
        indented 0 ("pub enum " ++ name ++ " \x7b")] ++
        vs.map (fun v => indented 1 (v.1 ++ ",")) ++ [indented 0 "\x7d", ""]) ++
      indented 0 ("impl " ++ name ++ " \x7b") ::
        indented 1 "pub const fn as_str(self) -> &'static str \x7b" ::
        (armLines vs ++ [indented 1 "\x7d", indented 0 "\x7d"]) := by
  simp [enumLines]

theorem readAsStr_armLines {vs : List (String × String)} (hvs : ∀ v ∈ vs, ' ' ∉ v.1.toList)
    (post : List String) :
    readAsStr (indented 1 "pub const fn as_str(self) -> &'static str \x7b" :: (armLines vs ++ post)) =
      some (vs.map fun v => (v.1, Text.quote v.2)) := by
  rw [indented_of_ne (by simp)]
  cases vs with
  | nil => simp [readAsStr, armLines, indented_of_ne]
  | cons v vs =>
    have hm : indent 2 ++ "match self \x7b" ≠ indent 2 ++ "match self \x7b\x7d" := by
      simp
    simp only [armLines, List.append_assoc, List.cons_append, List.nil_append]
    rw [readAsStr, if_pos rfl, indented_of_ne (by simp), if_neg hm, if_pos rfl]
    exact readArms_lines hvs _

/-- An enum's `as_str` maps each identifier it is written with to the quoted name. -/
theorem asStrArms_enumLines (name : String) {vs : List (String × String)}
    (hvs : ∀ v ∈ vs, ' ' ∉ v.1.toList) (post : List String) :
    asStrArms name (enumLines name vs ++ post) = some (vs.map fun v => (v.1, Text.quote v.2)) := by
  -- the lines before the `impl`: attributes, the declaration, and blanks at depth 1
  let pre := [indented 0 "#[allow(non_camel_case_types, clippy::upper_case_acronyms)]",
    indented 0 "#[derive(Debug, Clone, Copy, PartialEq, Eq, Hash)]",
    indented 0 ("pub enum " ++ name ++ " \x7b")] ++ vs.map (fun v => indented 1 (v.1 ++ ",")) ++
    [indented 0 "\x7d", ""]
  have hpre : ∀ l ∈ pre, l ≠ "impl " ++ name ++ " \x7b" := by
    simp only [pre, List.mem_append, List.mem_cons, List.not_mem_nil, or_false, List.mem_map,
      indented_zero]
    rintro l (((rfl | rfl | rfl) | ⟨v, -, rfl⟩) | (rfl | rfl))
    · exact ne_of_head?_ne (by simp)
    · exact ne_of_head?_ne (by simp)
    · exact ne_of_head?_ne (by simp)
    · exact indented_succ_ne (by simp) (by simp)
    · exact ne_of_head?_ne (by simp)
    · exact ne_of_head?_ne (by simp)
  have hsplit : enumLines name vs ++ post = pre ++
      indented 0 ("impl " ++ name ++ " \x7b") ::
        indented 1 "pub const fn as_str(self) -> &'static str \x7b" ::
        (armLines vs ++ ([indented 1 "\x7d", indented 0 "\x7d"] ++ post)) := by
    rw [enumLines_eq]
    simp [pre]
  rw [hsplit, asStrArms_append hpre, asStrArms, indented_zero, if_pos rfl]
  exact readAsStr_armLines hvs _

/-! ## Telling the two enums apart -/

theorem preludeLines_isLine : ∀ l ∈ preludeLines, IsLine l := by
  simp [preludeLines, IsLine]

/-- The prelude neither declares nor implements an enum of names. -/
theorem preludeLines_ne : ∀ l ∈ preludeLines,
    (l ≠ "pub enum " ++ "Mnemonic" ++ " \x7b" ∧ l ≠ "impl " ++ "Mnemonic" ++ " \x7b") ∧
      l ≠ "pub enum " ++ "OperandName" ++ " \x7b" ∧ l ≠ "impl " ++ "OperandName" ++ " \x7b" := by
  simp [preludeLines]

theorem armLines_ne {vs : List (String × String)} {s : String} (hs : s.toList.head? ≠ some ' ') :
    ∀ l ∈ armLines vs, l ≠ s := by
  cases vs with
  | nil =>
    simp only [armLines, List.mem_singleton]
    rintro l rfl
    exact indented_succ_ne (by simp) hs
  | cons v vs =>
    simp only [armLines, List.mem_append, List.mem_singleton, List.mem_map]
    rintro l ((rfl | ⟨v', -, rfl⟩) | rfl)
    · exact indented_succ_ne (by simp) hs
    · exact indented_succ_ne (by simp) hs
    · exact indented_succ_ne (by simp) hs

/-- The lines of one enum neither declare nor implement an enum of another name. -/
theorem enumLines_ne {name name' : String} (hne : name ≠ name') (vs : List (String × String)) :
    ∀ l ∈ enumLines name vs,
      l ≠ "pub enum " ++ name' ++ " \x7b" ∧ l ≠ "impl " ++ name' ++ " \x7b" := by
  have hdecl : "pub enum " ++ name ++ " \x7b" ≠ "pub enum " ++ name' ++ " \x7b" := by
    simpa [String.append_assoc, String.append_right_inj, String.append_left_inj] using hne
  have himpl : "impl " ++ name ++ " \x7b" ≠ "impl " ++ name' ++ " \x7b" := by
    simpa [String.append_assoc, String.append_right_inj, String.append_left_inj] using hne
  simp only [enumLines, List.mem_append, List.mem_cons, List.not_mem_nil, or_false,
    List.mem_map, indented_zero]
  rintro l (((((rfl | rfl | rfl) | ⟨v, -, rfl⟩) | (rfl | rfl | rfl | rfl)) | hl) | (rfl | rfl))
  · exact ⟨ne_of_head?_ne (by simp), ne_of_head?_ne (by simp)⟩
  · exact ⟨ne_of_head?_ne (by simp), ne_of_head?_ne (by simp)⟩
  · exact ⟨hdecl, ne_of_head?_ne (by simp)⟩
  · exact ⟨indented_succ_ne (by simp) (by simp), indented_succ_ne (by simp) (by simp)⟩
  · exact ⟨ne_of_head?_ne (by simp), ne_of_head?_ne (by simp)⟩
  · exact ⟨ne_of_head?_ne (by simp), ne_of_head?_ne (by simp)⟩
  · exact ⟨ne_of_head?_ne (by simp), himpl⟩
  · exact ⟨indented_succ_ne (by simp) (by simp), indented_succ_ne (by simp) (by simp)⟩
  · exact ⟨armLines_ne (by simp) l hl, armLines_ne (by simp) l hl⟩
  · exact ⟨indented_succ_ne (by simp) (by simp), indented_succ_ne (by simp) (by simp)⟩
  · exact ⟨ne_of_head?_ne (by simp), ne_of_head?_ne (by simp)⟩

theorem typesLines_isLine {ds : List Descriptor} {names : NameTable}
    (hm : ∀ d ∈ ds, IsLine d.mnemonic) (hn : ∀ v ∈ names, IsLine v.1) :
    ∀ l ∈ typesLines ds names, IsLine l := by
  have hms : ∀ v ∈ (mnemonics ds).map (fun m => (m, m)), IsLine v.1 := by
    simp only [mnemonics, List.mem_map, List.mem_eraseDups]
    rintro _ ⟨m, ⟨d, hd, rfl⟩, rfl⟩
    exact hm d hd
  simp only [typesLines, List.mem_append, List.mem_singleton]
  rintro l ((((hl | rfl) | hl) | rfl) | hl)
  · exact preludeLines_isLine l hl
  · exact isLine_empty
  · exact enumLines_isLine (by simp [IsLine]) hms l hl
  · exact isLine_empty
  · exact enumLines_isLine (by simp [IsLine]) hn l hl

/-! ## The enums of the type definitions -/

section TypesLines

variable (ds : List Descriptor) (names : NameTable) (post : List String)

theorem typesLines_split_mnemonic : typesLines ds names ++ post = (preludeLines ++ [""]) ++
    (enumLines "Mnemonic" ((mnemonics ds).map fun m => (m, m)) ++
      ([""] ++ enumLines "OperandName" names ++ post)) := by
  simp [typesLines]

theorem typesLines_split_operandName : typesLines ds names ++ post =
    (preludeLines ++ [""] ++ enumLines "Mnemonic" ((mnemonics ds).map fun m => (m, m)) ++ [""]) ++
      (enumLines "OperandName" names ++ post) := by
  simp [typesLines]

theorem before_mnemonic_ne : ∀ l ∈ preludeLines ++ [""],
    l ≠ "pub enum " ++ "Mnemonic" ++ " \x7b" ∧ l ≠ "impl " ++ "Mnemonic" ++ " \x7b" := by
  simp only [List.mem_append, List.mem_singleton]
  rintro l (hl | rfl)
  · exact (preludeLines_ne l hl).1
  · exact ⟨ne_of_head?_ne (by simp), ne_of_head?_ne (by simp)⟩

theorem before_operandName_ne : ∀ l ∈ preludeLines ++ [""] ++
    enumLines "Mnemonic" ((mnemonics ds).map fun m => (m, m)) ++ [""],
    l ≠ "pub enum " ++ "OperandName" ++ " \x7b" ∧ l ≠ "impl " ++ "OperandName" ++ " \x7b" := by
  simp only [List.mem_append, List.mem_singleton]
  rintro l (((hl | rfl) | hl) | rfl)
  · exact (preludeLines_ne l hl).2
  · exact ⟨ne_of_head?_ne (by simp), ne_of_head?_ne (by simp)⟩
  · exact enumLines_ne (by decide) _ l hl
  · exact ⟨ne_of_head?_ne (by simp), ne_of_head?_ne (by simp)⟩

/-- The type definitions declare the mnemonics, each once, in order of first appearance. -/
theorem declaredVariants_mnemonic :
    declaredVariants "Mnemonic" (typesLines ds names ++ post) = some (mnemonics ds) := by
  rw [typesLines_split_mnemonic, declaredVariants_append fun l hl => (before_mnemonic_ne l hl).1,
    declaredVariants_enumLines]
  simp [Function.comp_def]

/-- The type definitions declare the identifiers of the name table, in its order. -/
theorem declaredVariants_operandName :
    declaredVariants "OperandName" (typesLines ds names ++ post) = some (names.map (·.1)) := by
  rw [typesLines_split_operandName,
    declaredVariants_append fun l hl => (before_operandName_ne ds l hl).1,
    declaredVariants_enumLines]

variable {ds names}

/-- The `as_str` of the mnemonics maps each to its quoted self. -/
theorem asStrArms_mnemonic (hms : ∀ m ∈ mnemonics ds, ' ' ∉ m.toList) :
    asStrArms "Mnemonic" (typesLines ds names ++ post) =
      some ((mnemonics ds).map fun m => (m, Text.quote m)) := by
  have hvs : ∀ v ∈ (mnemonics ds).map (fun m => (m, m)), ' ' ∉ v.1.toList := by
    simp only [List.mem_map]
    rintro _ ⟨m, hm, rfl⟩
    exact hms m hm
  rw [typesLines_split_mnemonic, asStrArms_append fun l hl => (before_mnemonic_ne l hl).2,
    asStrArms_enumLines _ hvs]
  simp [Function.comp_def]

/-- The `as_str` of the operand names maps each identifier of the table to its quoted name. -/
theorem asStrArms_operandName (hn : ∀ v ∈ names, ' ' ∉ v.1.toList) :
    asStrArms "OperandName" (typesLines ds names ++ post) =
      some (names.map fun v => (v.1, Text.quote v.2)) := by
  rw [typesLines_split_operandName,
    asStrArms_append fun l hl => (before_operandName_ne ds l hl).2, asStrArms_enumLines _ hn]

end TypesLines

/-! ## The enums agree with the literals -/

/-- What the lines `ls` of the type definitions of `ds` say about names: the enums declare the
distinct mnemonics and the distinct operand identifiers of `ds` in order of first appearance, the
arms of `as_str` return literals that denote the names, and so each name a block writes is a
variant declared once. -/
structure EnumsAgree (ds : List Descriptor) (ls : List String) : Prop where
  mnemonics : declaredVariants "Mnemonic" ls = some (ds.map (·.mnemonic)).eraseDups
  operandNames :
    declaredVariants "OperandName" ls = some ((Descriptor.allOperands ds).map (·.ident)).eraseDups
  mnemonicArms : ∃ arms, asStrArms "Mnemonic" ls = some arms ∧
    arms.map (·.1) = (ds.map (·.mnemonic)).eraseDups ∧ ∀ a ∈ arms, Text.Denotes a.2 a.1
  operandNameArms : ∃ arms, asStrArms "OperandName" ls = some arms ∧
    arms.map (·.1) = ((Descriptor.allOperands ds).map (·.ident)).eraseDups ∧
    ∀ p ∈ Descriptor.allOperands ds, ∃ lit, (p.ident, lit) ∈ arms ∧ Text.Denotes lit p.name
  declaredOnce : ∀ d ∈ ds, (ds.map (·.mnemonic)).eraseDups.count d.mnemonic = 1 ∧
    ∀ p ∈ d.operands, ((Descriptor.allOperands ds).map (·.ident)).eraseDups.count p.ident = 1

/-- The keys of a name table are identifiers when the operand identifiers are. -/
theorem nameTable_keys_valid {ds : List Descriptor} {n : NameTable}
    (hn : Descriptor.nameTable ds = .ok n)
    (hi : ∀ x ∈ ds, ∀ p ∈ x.operands, Ident.isValid p.ident = true) :
    ∀ v ∈ n, Ident.isValid v.1 = true := by
  intro v hv
  obtain ⟨p, hp, hpv⟩ := List.mem_map.1
    ((Descriptor.nameTable_records hn).1.mem_keys.1 (List.mem_map_of_mem hv))
  obtain ⟨x, hx, hpx⟩ := List.mem_flatMap.1 hp
  exact hpv ▸ hi x hx p hpx

/-- **The enums of names agree with the literals.** For descriptors whose mnemonics and operand
identifiers are identifiers, the type definitions, read as their lines, declare each mnemonic and
each operand identifier once, in order of first appearance, and map each back by a literal that
denotes the mnemonic, or the name of every operand written with the identifier. -/
theorem types_declare_each_name_once {ds : List Descriptor} {t : String}
    (hvalid : ∀ d ∈ ds, Ident.isValid d.mnemonic = true ∧
      ∀ p ∈ d.operands, Ident.isValid p.ident = true)
    (h : types ds = .ok t) :
    ∃ ls, t = unlines ls ∧ (∀ l ∈ ls, IsLine l) ∧ EnumsAgree ds ls := by
  obtain ⟨names, hnames, rfl⟩ := (types_eq_ok_iff ds t).1 h
  obtain ⟨hrec, hfree⟩ := Descriptor.nameTable_records hnames
  have hkeys := nameTable_keys_valid hnames fun d hd => (hvalid d hd).2
  have hms : ∀ m ∈ mnemonics ds, ' ' ∉ m.toList := by
    simp only [mnemonics, List.mem_eraseDups, List.mem_map]
    rintro _ ⟨d, hd, rfl⟩
    exact Ident.space_not_mem_of_isValid (hvalid d hd).1
  -- the enums are read from the lines alone, with nothing after them
  have hlines : typesLines ds names = typesLines ds names ++ [] := (List.append_nil _).symm
  refine ⟨typesLines ds names, rfl,
    typesLines_isLine (fun d hd => Ident.isLine_of_isValid (hvalid d hd).1)
      (fun v hv => Ident.isLine_of_isValid (hkeys v hv)), ⟨?_, ?_, ?_, ?_, ?_⟩⟩
  · rw [hlines, declaredVariants_mnemonic]
    rfl
  · rw [hlines, declaredVariants_operandName, hrec.keys]
  · refine ⟨_, by rw [hlines, asStrArms_mnemonic _ hms], by simp [mnemonics, Function.comp_def], ?_⟩
    simp only [List.mem_map]
    rintro _ ⟨m, -, rfl⟩
    exact Text.denotes_quote m
  · refine ⟨_, by rw [hlines, asStrArms_operandName _
      fun v hv => Ident.space_not_mem_of_isValid (hkeys v hv)],
      by simp [hrec.keys.symm, Function.comp_def], ?_⟩
    intro p hp
    -- the table's entry for the identifier carries the operand's name
    obtain ⟨v, hv, hvp⟩ := List.mem_map.1 (hrec.mem_keys.2 (List.mem_map_of_mem hp))
    have hname : p.name = v.2 := hrec.name_eq hfree hv hp hvp.symm
    exact ⟨Text.quote p.name, List.mem_map.2 ⟨v, hv, by rw [hvp, hname]⟩,
      Text.denotes_quote p.name⟩
  · intro d hd
    refine ⟨List.count_eq_one_of_mem (List.nodup_eraseDups _)
      (List.mem_eraseDups.2 (List.mem_map_of_mem hd)), fun p hp => ?_⟩
    have hp' : p ∈ Descriptor.allOperands ds := List.mem_flatMap.2 ⟨d, hd, hp⟩
    exact List.count_eq_one_of_mem (List.nodup_eraseDups _)
      (List.mem_eraseDups.2 (List.mem_map_of_mem hp'))

/-- Two opcodes that share the mnemonic `RLC`, with an operand `a"b` written as `AB` and an
operand `0` written as `_0`. -/
def sampleDescriptors : List Descriptor :=
  [⟨"0x00", "RLC", 2, [8], [⟨"B", "B", true, none, none, none⟩], true,
    ⟨.dataDependent, .cleared, .cleared, .dataDependent⟩⟩,
   ⟨"0x01", "RLC", 2, [8, 12],
    [⟨"a\"b", "AB", false, some 1, none, some true⟩, ⟨"0", "_0", true, none, none, none⟩], false,
    ⟨.unaffected, .set, .cleared, .unaffected⟩⟩]

theorem sampleDescriptors_declare_each_name_once :
    (∀ d ∈ sampleDescriptors, Ident.isValid d.mnemonic = true ∧
      ∀ p ∈ d.operands, Ident.isValid p.ident = true) ∧
    ∃ t, types sampleDescriptors = .ok t ∧
      ∃ ls, t = unlines ls ∧ (∀ l ∈ ls, IsLine l) ∧ EnumsAgree sampleDescriptors ls := by
  have hvalid : ∀ d ∈ sampleDescriptors, Ident.isValid d.mnemonic = true ∧
      ∀ p ∈ d.operands, Ident.isValid p.ident = true := by
    decide
  have hfree : Operand.ClashFree (Descriptor.allOperands sampleDescriptors) := by
    unfold Operand.ClashFree
    decide
  obtain ⟨t, ht⟩ := (types_ok_iff _).2 ((Descriptor.nameTable_ok_iff _).2 hfree)
  exact ⟨hvalid, t, ht, types_declare_each_name_once hvalid ht⟩

end Render

end OpcodeTable
