import OpcodeTable.Proofs.NameEnums
/-!
# A block's lines determine its descriptor

A block shows everything of a descriptor except the names of its operands: they appear only in
the type definitions. `Descriptor.eraseNames` forgets them. Each part of a block determines what
it shows and where it ends, in a longer list of lines (`operandLines_append_injective`,
`operandListLines_append_injective`, `blockLines_append_injective`): the first line of an operand
tells its form, the attribute lines stop at the line of its constructor, the operand list closes
one level up, and the other lines are fixed in number. So the body of a table determines the
descriptors up to operand names (`bodyLines_injective`), provided operand identifiers hold no
comma, which identifiers never do.
-/

namespace OpcodeTable

/-- An operand without its name. -/
def Operand.eraseName (o : Operand) : Operand := { o with name := "" }

/-- A descriptor without the names of its operands: what a block shows of it. -/
def Descriptor.eraseNames (d : Descriptor) : Descriptor :=
  { d with operands := d.operands.map Operand.eraseName }

theorem Operand.eraseName_eq_iff {o₁ o₂ : Operand} :
    o₁.eraseName = o₂.eraseName ↔ o₁.ident = o₂.ident ∧ o₁.immediate = o₂.immediate ∧
      o₁.bytes = o₂.bytes ∧ o₁.increment = o₂.increment ∧ o₁.decrement = o₂.decrement := by
  cases o₁
  cases o₂
  simp [Operand.eraseName]

theorem Descriptor.eraseNames_eq_iff {d₁ d₂ : Descriptor} :
    d₁.eraseNames = d₂.eraseNames ↔ d₁.code = d₂.code ∧ d₁.mnemonic = d₂.mnemonic ∧
      d₁.byteLength = d₂.byteLength ∧ d₁.cycleCounts = d₂.cycleCounts ∧
      d₁.operands.map Operand.eraseName = d₂.operands.map Operand.eraseName ∧
      d₁.isImmediate = d₂.isImmediate ∧ d₁.flagEffects = d₂.flagEffects := by
  cases d₁
  cases d₂
  simp [Descriptor.eraseNames]

theorem Ident.comma_not_mem_of_isValid {s : String} (h : isValid s = true) : ',' ∉ s.toList :=
  fun hs => by simpa [isPart] using isPart_of_mem h ',' hs

namespace Render

/-! ## Cutting lists of lines -/

/-- Two lists cut where a separator starts, when neither prefix holds it and each rest is empty
or starts with it. -/
theorem append_inj_of_sep {α : Type} {x : α} {a b r s : List α} (ha : x ∉ a) (hb : x ∉ b)
    (hr : r = [] ∨ ∃ r', r = x :: r') (hs : s = [] ∨ ∃ s', s = x :: s') (h : a ++ r = b ++ s) :
    a = b ∧ r = s := by
  rcases hr with rfl | ⟨r, rfl⟩ <;> rcases hs with rfl | ⟨s, rfl⟩
  · simpa using h
  · have hx : x ∈ a ++ [] := h ▸ List.mem_append_right b List.mem_cons_self
    exact absurd (by simpa using hx) ha
  · have hx : x ∈ b ++ [] := h ▸ List.mem_append_right a List.mem_cons_self
    exact absurd (by simpa using hx) hb
  · obtain ⟨rfl, rfl⟩ := List.append_cons_inj_of_not_mem ha hb h
    exact ⟨rfl, rfl⟩

/-- A line that may be missing, of a kind that no following line is, determines its value and
the lines after it. -/
theorem option_lines_append_injective {α : Type} {f : α → String} (hf : Function.Injective f)
    {c : Char} (hc : ∀ a, (f a).toList.head? = some c) {a b : Option α} {r s : List String}
    (hr : ∀ l ∈ r, l.toList.head? ≠ some c) (hs : ∀ l ∈ s, l.toList.head? ≠ some c)
    (h : a.toList.map f ++ r = b.toList.map f ++ s) : a = b ∧ r = s := by
  cases a <;> cases b <;>
    simp only [Option.toList_none, Option.toList_some, List.map_nil, List.map_cons,
      List.nil_append, List.cons_append, List.cons.injEq] at h
  · exact ⟨rfl, h⟩
  · exact absurd (hc _) (hr _ (h ▸ List.mem_cons_self))
  · exact absurd (hc _) (hs _ (h ▸ List.mem_cons_self))
  · exact ⟨by rw [hf h.1], h.2⟩

/-! ## Texts that determine what they show -/

theorem indented_injective (d : Nat) {a b : String} (h : indented d a = indented d b) : a = b := by
  by_cases ha : a = "" <;> by_cases hb : b = ""
  · rw [ha, hb]
  · have := congrArg String.toList h
    simp [indented, ha, hb] at this
  · have := congrArg String.toList h
    simp [indented, ha, hb] at this
  · rwa [indented_of_ne ha, indented_of_ne hb, String.append_right_inj] at h

theorem toString_nat_injective {m n : Nat} (h : toString m = toString n) : m = n := by
  have hd := congrArg (fun s : String => Nat.ofDigitChars 10 s.toList 0) h
  simpa [Nat.toString_eq_ofList_toDigits] using hd

theorem toString_bool_injective {a b : Bool} (h : toString a = toString b) : a = b := by
  cases a <;> cases b <;> first | rfl | exact absurd h (by decide)

theorem FlagEffect.name_injective {a b : FlagEffect} (h : a.name = b.name) : a = b := by
  have := congrArg FlagEffect.ofName? h
  simpa [FlagEffect.ofName?_name] using this

theorem ne_empty_of_toString_nat (n : Nat) : toString n ≠ "" := by
  intro h
  have := congrArg String.toList h
  simp [Nat.toDigits_ne_nil] at this

theorem comma_not_mem_toString_nat (n : Nat) : ',' ∉ (toString n).toList := by
  intro h
  rw [Nat.toString_eq_ofList_toDigits, String.toList_ofList] at h
  have := Nat.isDigit_of_mem_toDigits (by decide) (by decide) h
  simp at this

/-- Texts joined by `, `, as the first text and the separated rest. -/
theorem toList_intercalate_comma_cons (z : String) (zs : List String) :
    (", ".intercalate (z :: zs)).toList =
      z.toList ++ (zs.map fun w => ", ".toList ++ w.toList).flatten := by
  induction zs generalizing z with
  | nil => simp
  | cons w zs ih => simp [String.intercalate_cons_cons, ih]

/-- The separated rest of joined texts is empty or starts with the comma. -/
theorem separated_eq_nil_or_comma (zs : List String) :
    (zs.map fun w => ", ".toList ++ w.toList).flatten = [] ∨
      ∃ r, (zs.map fun w => ", ".toList ++ w.toList).flatten = ',' :: r := by
  cases zs with
  | nil => simp
  | cons w zs => exact .inr ⟨_, rfl⟩

/-- The separated rest of joined texts that is not empty is the separator, then the joined texts. -/
theorem separated_cons (z : String) (zs : List String) :
    ((z :: zs).map fun w => ", ".toList ++ w.toList).flatten =
      ", ".toList ++ (", ".intercalate (z :: zs)).toList := by
  rw [toList_intercalate_comma_cons, List.map_cons, List.flatten_cons, List.append_assoc]

/-- Texts without a comma, joined by `, `, determine the texts, when none is empty. -/
theorem intercalate_comma_injective {xs ys : List String}
    (hx : ∀ x ∈ xs, x ≠ "" ∧ ',' ∉ x.toList) (hy : ∀ y ∈ ys, y ≠ "" ∧ ',' ∉ y.toList)
    (h : ", ".intercalate xs = ", ".intercalate ys) : xs = ys := by
  induction xs generalizing ys with
  | nil =>
    cases ys with
    | nil => rfl
    | cons y ys =>
      have := congrArg String.toList h
      rw [toList_intercalate_comma_cons] at this
      simp [(hy y List.mem_cons_self).1] at this
  | cons x xs ih =>
    cases ys with
    | nil =>
      have := congrArg String.toList h
      rw [toList_intercalate_comma_cons] at this
      simp [(hx x List.mem_cons_self).1] at this
    | cons y ys =>
      have hl := congrArg String.toList h
      rw [toList_intercalate_comma_cons, toList_intercalate_comma_cons] at hl
      -- the first texts end at the first comma
      obtain ⟨hxy, htail⟩ := append_inj_of_sep (hx x List.mem_cons_self).2
        (hy y List.mem_cons_self).2 (separated_eq_nil_or_comma xs) (separated_eq_nil_or_comma ys) hl
      rw [String.toList_injective hxy]
      congr 1
      cases xs with
      | nil =>
        cases ys with
        | nil => rfl
        | cons y' ys => simp at htail
      | cons x' xs =>
        cases ys with
        | nil => simp at htail
        | cons y' ys =>
          apply ih (fun z hz => hx z (List.mem_cons_of_mem _ hz))
            (fun z hz => hy z (List.mem_cons_of_mem _ hz))
          apply String.toList_injective
          rw [separated_cons, separated_cons] at htail
          exact List.append_cancel_left htail

theorem joinNumbers_injective {ms ns : List UInt8} (h : joinNumbers ms = joinNumbers ns) :
    ms = ns := by
  have hdigits : ∀ ks : List UInt8, ∀ x ∈ ks.map (fun n => toString n.toNat),
      x ≠ "" ∧ ',' ∉ x.toList := by
    intro ks x hx
    obtain ⟨n, -, rfl⟩ := List.mem_map.1 hx
    exact ⟨ne_empty_of_toString_nat _, comma_not_mem_toString_nat _⟩
  have htexts := intercalate_comma_injective (hdigits ms) (hdigits ns) h
  refine List.map_injective_iff.2 (fun a b hab => ?_) htexts
  exact UInt8.toNat_inj.1 (toString_nat_injective hab)

/-- The constructor call of an operand determines its identifier, when that holds no comma, and
whether it is immediate. -/
theorem operandBase_injective {o₁ o₂ : Operand} (h₁ : ',' ∉ o₁.ident.toList)
    (h₂ : ',' ∉ o₂.ident.toList) (h : operandBase o₁ = operandBase o₂) :
    o₁.ident = o₂.ident ∧ o₁.immediate = o₂.immediate := by
  -- unfolded by hand: `simp` on `operandBase` itself does not come back
  unfold operandBase at h
  have hl := congrArg String.toList h
  simp only [String.toList_append, List.append_assoc] at hl
  have hl' := List.append_cancel_left hl
  simp only [show ", ".toList = [',', ' '] from rfl, List.cons_append, List.nil_append] at hl'
  obtain ⟨hident, hrest⟩ := List.append_cons_inj_of_not_mem h₁ h₂ hl'
  simp only [List.cons.injEq, true_and] at hrest
  exact ⟨String.toList_injective hident,
    toString_bool_injective (String.toList_injective (List.append_cancel_right hrest))⟩

/-! ## Operands -/

/-- The texts of the attributes determine them: each kind of attribute has a line of its own
first letter, and the kinds come in a fixed order. -/
theorem attributeTexts_injective {o₁ o₂ : Operand} (h : attributeTexts o₁ = attributeTexts o₂) :
    o₁.bytes = o₂.bytes ∧ o₁.increment = o₂.increment ∧ o₁.decrement = o₂.decrement := by
  have hbytes : Function.Injective fun b : UInt8 => "bytes: Some(" ++ toString b.toNat ++ ")," :=
    fun a b hab => by
      simp only [String.append_left_inj, String.append_right_inj] at hab
      exact UInt8.toNat_inj.1 (toString_nat_injective hab)
  have hflag (name : String) : Function.Injective fun b : Bool => name ++ toString b ++ ")," :=
    fun a b hab => by
      simp only [String.append_left_inj, String.append_right_inj] at hab
      exact toString_bool_injective hab
  -- what follows the bytes starts with `i` or `d`, what follows the increment with `d`
  have hafter : ∀ o : Operand,
      ∀ l ∈ (o.increment.toList.map fun b => "increment: Some(" ++ toString b ++ "),") ++
        (o.decrement.toList.map fun b => "decrement: Some(" ++ toString b ++ "),"),
      l.toList.head? ≠ some 'b' := by
    intro o l hl
    simp only [List.mem_append, List.mem_map, Option.mem_toList] at hl
    rcases hl with ⟨b, -, rfl⟩ | ⟨b, -, rfl⟩ <;> simp
  have hdec : ∀ o : Operand,
      ∀ l ∈ o.decrement.toList.map fun b => "decrement: Some(" ++ toString b ++ "),",
      l.toList.head? ≠ some 'i' := by
    intro o l hl
    simp only [List.mem_map, Option.mem_toList] at hl
    obtain ⟨b, -, rfl⟩ := hl
    simp
  simp only [attributeTexts, List.append_assoc] at h
  obtain ⟨hb, h⟩ := option_lines_append_injective hbytes (fun _ => by simp)
    (hafter o₁) (hafter o₂) h
  obtain ⟨hi, h⟩ := option_lines_append_injective (hflag "increment: Some(") (fun _ => by simp)
    (hdec o₁) (hdec o₂) h
  obtain ⟨hd, -⟩ := option_lines_append_injective (hflag "decrement: Some(") (c := 'd')
    (fun _ => by simp) (r := []) (s := []) (by simp) (by simp) (by simpa using h)
  exact ⟨hb, hi, hd⟩

/-- An operand's lines start with a line of its own depth. -/
theorem operandLines_eq_cons (j : Nat) (o : Operand) :
    ∃ t ts, operandLines j o = indented j t :: ts ∧ t ≠ "" := by
  unfold operandLines
  split
  · exact ⟨_, _, rfl, by simp⟩
  · exact ⟨_, _, rfl, by simp⟩

theorem attributeTexts_head (o : Operand) :
    ∀ a ∈ attributeTexts o, a.toList.head? ≠ some '.' := by
  simp only [attributeTexts, List.mem_append, List.mem_map, Option.mem_toList]
  rintro a ((⟨b, -, rfl⟩ | ⟨b, -, rfl⟩) | ⟨b, -, rfl⟩) <;> simp

theorem operandBase_comma_ne (o : Operand) : operandBase o ++ "," ≠ "Operand \x7b" := by
  unfold operandBase
  intro h
  have := congrArg String.toList h
  simp at this

/-- **An operand's lines determine it, its name aside, and where they end.** -/
theorem operandLines_append_injective {j : Nat} {o₁ o₂ : Operand} {r₁ r₂ : List String}
    (h₁ : ',' ∉ o₁.ident.toList) (h₂ : ',' ∉ o₂.ident.toList)
    (h : operandLines j o₁ ++ r₁ = operandLines j o₂ ++ r₂) :
    o₁.eraseName = o₂.eraseName ∧ r₁ = r₂ := by
  unfold operandLines at h
  split at h <;> split at h
  · -- both with attributes: they end at the line of the constructor
    simp only [List.cons_append, List.append_assoc, List.cons.injEq, true_and] at h
    have hnot : ∀ (o : Operand), ∀ z ∈ (attributeTexts o).map (indented (j + 1)),
        ¬ ∃ t, z = indented (j + 1) (".." ++ t) := by
      rintro o z hz ⟨t, rfl⟩
      obtain ⟨a, ha, hat⟩ := List.mem_map.1 hz
      have := attributeTexts_head o a ha
      rw [indented_injective _ hat] at this
      simp at this
    obtain ⟨hattr, hbase, hrest⟩ := List.append_cons_inj_of_forall_not (hnot o₁) (hnot o₂)
      ⟨_, rfl⟩ ⟨_, rfl⟩ h
    have hattr' := attributeTexts_injective
      (List.map_injective_iff.2 (fun _ _ => indented_injective (j + 1)) hattr)
    have hbase' := operandBase_injective h₁ h₂
      ((String.append_right_inj _).1 (indented_injective _ hbase))
    simp only [List.cons.injEq, true_and] at hrest
    exact ⟨Operand.eraseName_eq_iff.2 ⟨hbase'.1, hbase'.2, hattr'⟩, hrest⟩
  · simp only [List.cons_append, List.cons.injEq] at h
    exact absurd (indented_injective _ h.1).symm (operandBase_comma_ne o₂)
  · simp only [List.cons_append, List.cons.injEq] at h
    exact absurd (indented_injective _ h.1) (operandBase_comma_ne o₁)
  · -- both plain: one line each, and no attributes
    rename_i ha₁ ha₂
    simp only [List.singleton_append, List.cons.injEq] at h
    have hbase' := operandBase_injective h₁ h₂
      ((String.append_left_inj _).1 (indented_injective _ h.1))
    simp only [Operand.hasAttributes, Bool.or_eq_true, Option.isSome_iff_ne_none, not_or,
      ne_eq, not_not] at ha₁ ha₂
    exact ⟨Operand.eraseName_eq_iff.2 ⟨hbase'.1, hbase'.2, by rw [ha₁.1.1, ha₂.1.1],
      by rw [ha₁.1.2, ha₂.1.2], by rw [ha₁.2, ha₂.2]⟩, h.2⟩

/-- Operands followed by a line that starts no operand determine them, their names aside. -/
theorem operands_append_injective {j : Nat} {os₁ os₂ : List Operand} {x : String}
    {r₁ r₂ : List String} (h₁ : ∀ o ∈ os₁, ',' ∉ o.ident.toList)
    (h₂ : ∀ o ∈ os₂, ',' ∉ o.ident.toList) (hx : ∀ t, t ≠ "" → indented j t ≠ x)
    (h : os₁.flatMap (operandLines j) ++ x :: r₁ = os₂.flatMap (operandLines j) ++ x :: r₂) :
    os₁.map Operand.eraseName = os₂.map Operand.eraseName ∧ r₁ = r₂ := by
  induction os₁ generalizing os₂ with
  | nil =>
    cases os₂ with
    | nil => simpa using h
    | cons o os₂ =>
      obtain ⟨t, ts, hlines, ht⟩ := operandLines_eq_cons j o
      simp only [List.flatMap_nil, List.nil_append, List.flatMap_cons, hlines, List.cons_append,
        List.append_assoc, List.cons.injEq] at h
      exact absurd h.1.symm (hx t ht)
  | cons o os₁ ih =>
    cases os₂ with
    | nil =>
      obtain ⟨t, ts, hlines, ht⟩ := operandLines_eq_cons j o
      simp only [List.flatMap_nil, List.nil_append, List.flatMap_cons, hlines, List.cons_append,
        List.append_assoc, List.cons.injEq] at h
      exact absurd h.1 (hx t ht)
    | cons o' os₂ =>
      simp only [List.flatMap_cons, List.append_assoc] at h
      obtain ⟨ho, hrest⟩ := operandLines_append_injective (h₁ o List.mem_cons_self)
        (h₂ o' List.mem_cons_self) h
      obtain ⟨hos, hr⟩ := ih (fun p hp => h₁ p (List.mem_cons_of_mem _ hp))
        (fun p hp => h₂ p (List.mem_cons_of_mem _ hp)) hrest
      exact ⟨by simp [ho, hos], hr⟩

/-- **An operand list's lines determine it, names aside, and where they end.** -/
theorem operandListLines_append_injective {j : Nat} {os₁ os₂ : List Operand}
    {r₁ r₂ : List String} (h₁ : ∀ o ∈ os₁, ',' ∉ o.ident.toList)
    (h₂ : ∀ o ∈ os₂, ',' ∉ o.ident.toList)
    (h : operandListLines j os₁ ++ r₁ = operandListLines j os₂ ++ r₂) :
    os₁.map Operand.eraseName = os₂.map Operand.eraseName ∧ r₁ = r₂ := by
  -- the closing line is one level up from every operand line
  have hclose : ∀ t, t ≠ "" → indented (j + 1) t ≠ indented j "]," := fun t ht =>
    indented_add_ne (e := 0) ht (by simp)
  cases os₁ <;> cases os₂ <;>
    simp only [operandListLines, List.cons_append, List.append_assoc, List.cons.injEq] at h
  · exact ⟨rfl, h.2⟩
  · exact absurd (indented_injective _ h.1) (by simp)
  · exact absurd (indented_injective _ h.1) (by simp)
  · exact operands_append_injective h₁ h₂ hclose h.2

theorem flagLines_append_injective {j : Nat} {e₁ e₂ : FlagEffects} {r₁ r₂ : List String}
    (h : flagLines j e₁ ++ r₁ = flagLines j e₂ ++ r₂) : e₁ = e₂ ∧ r₁ = r₂ := by
  simp only [flagLines, List.cons_append, List.nil_append, List.cons.injEq, true_and] at h
  obtain ⟨hz, hn, hh, hc, hr⟩ := h
  have heffect {a b : FlagEffect} {field : String}
      (he : indented (j + 1) (field ++ a.name ++ ",") = indented (j + 1) (field ++ b.name ++ ",")) :
      a = b := by
    have he' := indented_injective _ he
    simp only [String.append_left_inj, String.append_right_inj] at he'
    exact FlagEffect.name_injective he'
  obtain ⟨z₁, n₁, h₁, c₁⟩ := e₁
  obtain ⟨z₂, n₂, h₂, c₂⟩ := e₂
  obtain rfl := heffect hz
  obtain rfl := heffect hn
  obtain rfl := heffect hh
  obtain rfl := heffect hc
  exact ⟨rfl, hr⟩

/-- **A block's lines determine its descriptor, operand names aside, and where they end.** -/
theorem blockLines_append_injective {k : Nat} {d₁ d₂ : Descriptor} {r₁ r₂ : List String}
    (h₁ : ∀ p ∈ d₁.operands, ',' ∉ p.ident.toList) (h₂ : ∀ p ∈ d₂.operands, ',' ∉ p.ident.toList)
    (h : blockLines k d₁ ++ r₁ = blockLines k d₂ ++ r₂) :
    d₁.eraseNames = d₂.eraseNames ∧ r₁ = r₂ := by
  simp only [blockLines, List.append_assoc, List.cons_append, List.nil_append,
    List.cons.injEq, true_and] at h
  obtain ⟨hcode, hmnemonic, hbytes, hcycles, hrest⟩ := h
  obtain ⟨hops, hrest⟩ := operandListLines_append_injective h₁ h₂ hrest
  simp only [List.cons.injEq] at hrest
  obtain ⟨himm, hrest⟩ := hrest
  obtain ⟨hflags, hrest⟩ := flagLines_append_injective hrest
  simp only [List.cons.injEq, true_and] at hrest
  replace hcode := indented_injective _ hcode
  replace hmnemonic := indented_injective _ hmnemonic
  replace hbytes := indented_injective _ hbytes
  replace hcycles := indented_injective _ hcycles
  replace himm := indented_injective _ himm
  simp only [String.append_left_inj, String.append_right_inj] at hcode hmnemonic hbytes hcycles himm
  exact ⟨Descriptor.eraseNames_eq_iff.2 ⟨hcode, hmnemonic,
    UInt8.toNat_inj.1 (toString_nat_injective hbytes), joinNumbers_injective hcycles, hops,
    toString_bool_injective himm, hflags⟩, hrest⟩

/-- Blocks each after an empty line determine their descriptors, operand names aside. -/
theorem blocks_injective {k : Nat} {ds₁ ds₂ : List Descriptor}
    (h₁ : ∀ d ∈ ds₁, ∀ p ∈ d.operands, ',' ∉ p.ident.toList)
    (h₂ : ∀ d ∈ ds₂, ∀ p ∈ d.operands, ',' ∉ p.ident.toList)
    (h : ds₁.flatMap (fun d => "" :: blockLines k d) = ds₂.flatMap (fun d => "" :: blockLines k d)) :
    ds₁.map Descriptor.eraseNames = ds₂.map Descriptor.eraseNames := by
  induction ds₁ generalizing ds₂ with
  | nil =>
    cases ds₂ with
    | nil => rfl
    | cons d ds₂ => simp at h
  | cons d ds₁ ih =>
    cases ds₂ with
    | nil => simp at h
    | cons d' ds₂ =>
      simp only [List.flatMap_cons, List.cons_append, List.cons.injEq, true_and] at h
      obtain ⟨hd, hrest⟩ := blockLines_append_injective (h₁ d List.mem_cons_self)
        (h₂ d' List.mem_cons_self) h
      rw [List.map_cons, List.map_cons, hd, ih (fun x hx => h₁ x (List.mem_cons_of_mem _ hx))
        (fun x hx => h₂ x (List.mem_cons_of_mem _ hx)) hrest]

/-- **The body of a table determines the descriptors, operand names aside.** -/
theorem bodyLines_injective {k : Nat} {ds₁ ds₂ : List Descriptor}
    (h₁ : ∀ d ∈ ds₁, ∀ p ∈ d.operands, ',' ∉ p.ident.toList)
    (h₂ : ∀ d ∈ ds₂, ∀ p ∈ d.operands, ',' ∉ p.ident.toList)
    (h : bodyLines k ds₁ = bodyLines k ds₂) :
    ds₁.map Descriptor.eraseNames = ds₂.map Descriptor.eraseNames := by
  cases ds₁ with
  | nil =>
    cases ds₂ with
    | nil => rfl
    | cons d ds₂ => simp [bodyLines, blockLines] at h
  | cons d ds₁ =>
    cases ds₂ with
    | nil => simp [bodyLines, blockLines] at h
    | cons d' ds₂ =>
      simp only [bodyLines] at h
      obtain ⟨hd, hrest⟩ := blockLines_append_injective (h₁ d List.mem_cons_self)
        (h₂ d' List.mem_cons_self) h
      rw [List.map_cons, List.map_cons, hd,
        blocks_injective (fun x hx => h₁ x (List.mem_cons_of_mem _ hx))
          (fun x hx => h₂ x (List.mem_cons_of_mem _ hx)) hrest]

end Render

end OpcodeTable
