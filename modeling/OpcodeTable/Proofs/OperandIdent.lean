import OpcodeTable.Ident
/-!
# Which operand names can be written

An operand name is written as `Ident.ofOperandName`: itself, or behind the mark `_` when it
starts with a digit. Whether that identifier is usable is a question about the name alone
(`isValid_ofOperandName_iff`): the name is not empty, has only ASCII letters, digits and `_`,
is not `_`, and is not a reserved word. The mark is what lets a leading digit through: `_` may
open an identifier, and every reserved word starts with a letter (`keyword_head`), so the
marked name is never `_` alone and never a reserved word, and neither is a name that starts
with a digit.
-/

namespace OpcodeTable.Ident

/-- An identifier, character by character. -/
theorem isValid_cons {s : String} {c : Char} {cs : List Char} (hs : s.toList = c :: cs) :
    isValid s = true ↔
      s ≠ "_" ∧ isStart c = true ∧ (∀ x ∈ cs, isPart x = true) ∧ s ∉ keywords := by
  simp [isValid, hs, and_assoc]

/-- Every reserved word starts with an ASCII letter. -/
theorem keyword_head : ∀ w ∈ keywords, w.toList.head?.any Char.isAlpha = true := by
  decide

theorem not_mem_keywords_of_head {s : String} {c : Char} {cs : List Char}
    (hs : s.toList = c :: cs) (hc : c.isAlpha = false) : s ∉ keywords := by
  intro hk
  have := keyword_head s hk
  simp [hs, hc] at this

theorem isAlpha_of_isDigit {c : Char} (h : c.isDigit = true) : c.isAlpha = false := by
  simp only [Char.isDigit, Bool.and_eq_true, decide_eq_true_eq, UInt32.le_iff_toNat_le] at h
  -- a letter is an upper or a lower case letter, spelled out here as the definitions do
  change (decide (c.val ≥ 'A'.val ∧ c.val ≤ 'Z'.val) ||
    (decide (c.val ≥ 'a'.val) && decide (c.val ≤ 'z'.val))) = false
  simp only [Bool.or_eq_false_iff, Bool.and_eq_false_iff, decide_eq_false_iff_not, ge_iff_le,
    UInt32.le_iff_toNat_le]
  have h9 : ('9' : Char).val.toNat = 57 := rfl
  have hA : ('A' : Char).val.toNat = 65 := rfl
  have ha : ('a' : Char).val.toNat = 97 := rfl
  omega

/-- A part that is no digit is a start. -/
theorem isStart_eq_isPart {c : Char} (h : c.isDigit = false) : isStart c = isPart c := by
  simp [isStart, isPart, Char.isAlphanum, h]

theorem isPart_iff (c : Char) :
    isPart c = true ↔ c.isAlpha = true ∨ c.isDigit = true ∨ c = '_' := by
  simp [isPart, Char.isAlphanum, or_assoc]

theorem ofOperandName_eq (n : String) :
    ofOperandName n = if n.toList.head?.any Char.isDigit then "_" ++ n else n := by
  unfold ofOperandName startsWithDigit
  split <;> simp_all [digitMark]

/-- **Which operand names can be written.** The identifier of an operand name is usable exactly
when the name is not empty, has only ASCII letters, digits and `_`, is not `_` alone and is not
a reserved word; the identifier is the name behind `_` when the name starts with an ASCII digit,
and the name itself otherwise. -/
theorem isValid_ofOperandName_iff (n : String) :
    (isValid (ofOperandName n) = true ↔
      n ≠ "" ∧ (∀ c ∈ n.toList, c.isAlpha = true ∨ c.isDigit = true ∨ c = '_') ∧ n ≠ "_" ∧
        n ∉ keywords) ∧
    ofOperandName n = if n.toList.head?.any Char.isDigit then "_" ++ n else n := by
  refine ⟨?_, ofOperandName_eq n⟩
  simp only [← isPart_iff]
  rw [ofOperandName_eq]
  match hn : n.toList with
  | [] =>
    have hempty : n = "" := String.toList_inj.1 (by simpa using hn)
    simp [hempty, isValid]
  | d :: ds =>
    have hne : n ≠ "" := fun h => by simp [h] at hn
    have hparts : (∀ c ∈ d :: ds, isPart c = true) ↔ isPart d = true ∧ ∀ c ∈ ds, isPart c = true :=
      List.forall_mem_cons
    cases hd : d.isDigit with
    | true =>
      -- the mark opens the identifier, and the name after it is all parts
      have hmarked : ("_" ++ n).toList = '_' :: d :: ds := by simp [hn]
      have hnot_mark : "_" ++ n ≠ "_" := fun h => by simp [h] at hmarked
      have hnot_under : n ≠ "_" := by
        rintro rfl
        obtain ⟨rfl, -⟩ := List.cons.inj (show ['_'] = d :: ds from hn)
        exact absurd hd (by decide)
      simp only [List.head?_cons, Option.any_some, hd, if_true, isValid_cons hmarked, hparts]
      have hstart : isStart '_' = true := rfl
      have hkw := not_mem_keywords_of_head hmarked (by decide)
      have hnkw := not_mem_keywords_of_head hn (isAlpha_of_isDigit hd)
      simp [hnot_mark, hstart, hkw, hne, hnot_under, hnkw]
    | false =>
      -- the name is the identifier, and its first part is a start since it is no digit
      simp only [List.head?_cons, Option.any_some, hd, Bool.false_eq_true, if_false,
        isValid_cons hn, isStart_eq_isPart hd, hparts]
      constructor
      · rintro ⟨hunder, hfirst, hrest, hkw⟩
        exact ⟨hne, ⟨hfirst, hrest⟩, hunder, hkw⟩
      · rintro ⟨-, ⟨hfirst, hrest⟩, hunder, hkw⟩
        exact ⟨hunder, hfirst, hrest, hkw⟩

example : isValid (ofOperandName "0") = true ∧ isValid (ofOperandName "HL+") = false := by decide

end OpcodeTable.Ident
