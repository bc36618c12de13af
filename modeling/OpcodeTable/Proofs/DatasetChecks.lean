import OpcodeTable.Proofs.NameTable
import OpcodeTable.Descriptor.OfDataset
/-!
# Which fault a dataset is refused with

`Descriptor.ofDataset d` checks the entries of `d` one after another and stops at the first that
fails; only when every entry passes does it build the operand name table, whose clash is then
the fault. `ofDataset_spec` says all of it at once:

* the result is the descriptors the entries give, position by position (`Dataset.Gives`),
  exactly when every entry passes and no identifier stands for two names;
* a fault is the fault of the first failing entry (`Dataset.FirstEntryFault`), and only when all
  entries pass is it the clash of the name table, so an entry fault anywhere wins over a clash;
* when every entry passes, a clash happens exactly when two operands are named `s` and `_s`
  for some `s` that starts with a digit (`Ident.ofOperandName_eq_iff`): the identifier of a
  name differs from the name only by the mark in front of a digit.
-/

namespace Except

variable {ε α β : Type}

theorem bind_eq_ok_iff {x : Except ε α} {g : α → Except ε β} {b : β} :
    x >>= g = .ok b ↔ ∃ a, x = .ok a ∧ g a = .ok b := by
  cases x <;> simp [bind, Except.bind]

theorem bind_eq_error_iff {x : Except ε α} {g : α → Except ε β} {e : ε} :
    x >>= g = .error e ↔ x = .error e ∨ ∃ a, x = .ok a ∧ g a = .error e := by
  cases x <;> simp [bind, Except.bind]

theorem exists_error_iff (x : Except ε α) : (∃ e, x = .error e) ↔ ¬ ∃ a, x = .ok a := by
  cases x <;> simp

end Except

namespace List

variable {ε α β : Type}

/-- A traversal succeeds exactly when every element succeeds, giving the results in order. -/
theorem mapM_except_ok_iff (f : α → Except ε β) (xs : List α) (ys : List β) :
    xs.mapM f = .ok ys ↔ Forall₂ (fun x y => f x = .ok y) xs ys := by
  induction xs generalizing ys with
  | nil => cases ys <;> simp [pure, Except.pure]
  | cons x xs ih =>
    rw [mapM_cons]
    cases ys with
    | nil => simp [Except.bind_eq_ok_iff, pure, Except.pure]
    | cons y ys =>
      simp only [Except.bind_eq_ok_iff, forall₂_cons, ← ih, pure, Except.pure, Except.ok.injEq,
        cons.injEq]
      constructor
      · rintro ⟨b, hb, bs, hbs, rfl, rfl⟩
        exact ⟨hb, hbs⟩
      · rintro ⟨hy, hys⟩
        exact ⟨y, hy, ys, hys, rfl, rfl⟩

/-- One step of a failing traversal: the head fails, or it passes and the rest fails. -/
theorem mapM_cons_error_iff (f : α → Except ε β) (a : α) (xs : List α) (e : ε) :
    (a :: xs).mapM f = .error e ↔ f a = .error e ∨ (∃ b, f a = .ok b) ∧ xs.mapM f = .error e := by
  rw [mapM_cons]
  cases f a <;> cases xs.mapM f <;> simp [bind, Except.bind, pure, Except.pure]

/-- A traversal fails with the failure of the first element that fails. -/
theorem mapM_except_error_iff (f : α → Except ε β) (xs : List α) (e : ε) :
    xs.mapM f = .error e ↔
      ∃ pre x post, xs = pre ++ x :: post ∧ (∀ y ∈ pre, ∃ b, f y = .ok b) ∧ f x = .error e := by
  induction xs with
  | nil => simp [pure, Except.pure]
  | cons a xs ih =>
    rw [mapM_cons_error_iff, ih]
    constructor
    · rintro (ha | ⟨hok, pre, x, post, rfl, hpre, hx⟩)
      · exact ⟨[], a, xs, rfl, by simp, ha⟩
      · refine ⟨a :: pre, x, post, rfl, ?_, hx⟩
        simp only [mem_cons, forall_eq_or_imp]
        exact ⟨hok, hpre⟩
    · rintro ⟨pre, x, post, hxs, hpre, hx⟩
      -- the first failure is the head's or lies in the rest
      cases pre with
      | nil =>
        obtain ⟨rfl, -⟩ := cons.inj hxs
        exact .inl hx
      | cons p pre =>
        obtain ⟨rfl, rfl⟩ := cons.inj hxs
        exact .inr ⟨hpre _ mem_cons_self, pre, x, post, rfl,
          fun y hy => hpre y (mem_cons_of_mem _ hy), hx⟩

end List

namespace OpcodeTable

namespace Ident

theorem startsWithDigit_mark (s : String) : startsWithDigit ("_" ++ s) = false := by
  simp [startsWithDigit]

/-- Two names are written as one identifier exactly when they are equal or one is the other
behind the mark, the unmarked one starting with a digit. -/
theorem ofOperandName_eq_iff (a b : String) :
    ofOperandName a = ofOperandName b ↔
      a = b ∨ (startsWithDigit a = true ∧ b = "_" ++ a) ∨ (startsWithDigit b = true ∧ a = "_" ++ b) := by
  have hmark : String.singleton digitMark = "_" := rfl
  unfold ofOperandName
  rw [hmark]
  by_cases ha : startsWithDigit a = true <;> by_cases hb : startsWithDigit b = true
  · simp only [ha, hb, if_true, String.append_right_inj, true_and]
    constructor
    · exact .inl
    · rintro (h | rfl | rfl) <;> simp_all [startsWithDigit_mark]
  · simp only [ha, hb, if_true, Bool.false_eq_true, if_false, true_and, false_and, or_false]
    constructor
    · exact fun h => .inr h.symm
    · rintro (rfl | h)
      · exact absurd ha hb
      · exact h.symm
  · simp only [ha, hb, Bool.false_eq_true, if_false, if_true, true_and, false_and, false_or]
    constructor
    · exact .inr
    · rintro (rfl | h)
      · exact absurd hb ha
      · exact h
  · simp only [ha, hb, Bool.false_eq_true, if_false, false_and, or_false]

end Ident

/-! ## One entry -/

namespace Operand

/-- A passing operand keeps its name and is written as its identifier, which is valid. -/
theorem ofEntry_ok {code : String} {i : Nat} {o : EntryOperand} {p : Operand}
    (h : ofEntry code i o = .ok p) :
    p.name = o.name ∧ p.ident = Ident.ofOperandName p.name ∧ Ident.isValid p.ident = true := by
  simp only [ofEntry] at h
  split at h
  · rename_i hvalid
    cases h
    exact ⟨rfl, rfl, hvalid⟩
  · cases h

/-- The operands of an entry keep their names, in order, and are written as the identifiers of
their names, which are valid. -/
theorem ofEntries_names {code : String} {i : Nat} {os : List EntryOperand} {ps : List Operand}
    (h : ofEntries code i os = .ok ps) :
    ps.map (·.name) = os.map (·.name) ∧
      ∀ p ∈ ps, p.ident = Ident.ofOperandName p.name ∧ Ident.isValid p.ident = true := by
  induction os generalizing i ps with
  | nil =>
    cases h
    simp
  | cons o os ih =>
    obtain ⟨p, hp, h⟩ := Except.bind_eq_ok_iff.1 h
    obtain ⟨ps', hps', h⟩ := Except.bind_eq_ok_iff.1 h
    cases h
    obtain ⟨hname, hident, hvalid⟩ := ofEntry_ok hp
    obtain ⟨hnames, hidents⟩ := ih hps'
    refine ⟨by simp [hname, hnames], ?_⟩
    simp only [List.mem_cons, forall_eq_or_imp]
    exact ⟨⟨hident, hvalid⟩, hidents⟩

end Operand

/-- What a passing entry gives: its code, a valid mnemonic, and operands named as the entry names
them and written as the identifiers of their names, which are valid. -/
theorem Descriptor.ofEntry_ok {code : String} {e : Entry} {d : Descriptor}
    (h : ofEntry code e = .ok d) :
    d.code = code ∧ d.operands.map (·.name) = e.operands.map (·.name) ∧
      Ident.isValid d.mnemonic = true ∧
      ∀ p ∈ d.operands, p.ident = Ident.ofOperandName p.name ∧ Ident.isValid p.ident = true := by
  simp only [ofEntry] at h
  split at h
  · cases h
  rename_i hmnemonic
  split at h
  · cases h
  split at h
  · cases h
  obtain ⟨ps, hps, h⟩ := Except.bind_eq_ok_iff.1 h
  obtain ⟨fl, -, h⟩ := Except.bind_eq_ok_iff.1 h
  cases h
  obtain ⟨hnames, hidents⟩ := Operand.ofEntries_names hps
  exact ⟨rfl, hnames, by simpa using hmnemonic, hidents⟩

/-! ## The whole dataset -/

namespace Dataset

/-- Every entry passes its checks, giving the descriptor at the same position. -/
def Gives (d : Dataset) (ds : List Descriptor) : Prop :=
  List.Forall₂ (fun (ke : String × Entry) desc => Descriptor.ofEntry ke.1 ke.2 = .ok desc) d.entries ds

/-- The entries before some entry pass their checks, and that entry fails with `f`. -/
def FirstEntryFault (d : Dataset) (f : Fault) : Prop :=
  ∃ pre code e post, d.entries = pre ++ (code, e) :: post ∧
    (∀ ke ∈ pre, ∃ desc, Descriptor.ofEntry ke.1 ke.2 = .ok desc) ∧ Descriptor.ofEntry code e = .error f

/-- The names of the operands of all entries, in order. -/
def operandNames (d : Dataset) : List String :=
  d.entries.flatMap fun ke => ke.2.operands.map (·.name)

variable {d : Dataset} {ds : List Descriptor}

theorem ofEntries_ok_iff : Descriptor.ofEntries d.entries = .ok ds ↔ d.Gives ds :=
  List.mapM_except_ok_iff _ _ _

theorem ofEntries_error_iff {f : Fault} : Descriptor.ofEntries d.entries = .error f ↔ d.FirstEntryFault f := by
  simp only [Descriptor.ofEntries, List.mapM_except_error_iff, FirstEntryFault]
  constructor
  · rintro ⟨pre, ⟨code, e⟩, post, h, hpre, hx⟩
    exact ⟨pre, code, e, post, h, hpre, hx⟩
  · rintro ⟨pre, code, e, post, h, hpre, hx⟩
    exact ⟨pre, (code, e), post, h, hpre, hx⟩

theorem Gives.codes (h : d.Gives ds) : ds.map (·.code) = d.codes := by
  obtain ⟨entries⟩ := d
  simp only [Gives, codes] at h ⊢
  induction h with
  | nil => rfl
  | cons hd _ ih => simp [(Descriptor.ofEntry_ok hd).1, ih]

/-- The descriptors an entry list gives have the entries' operand names, written as their
identifiers. -/
theorem Gives.operands (h : d.Gives ds) :
    (Descriptor.allOperands ds).map (·.name) = d.operandNames ∧
      ∀ p ∈ Descriptor.allOperands ds, p.ident = Ident.ofOperandName p.name := by
  obtain ⟨entries⟩ := d
  simp only [Gives, operandNames, Descriptor.allOperands] at h ⊢
  induction h with
  | nil => simp
  | cons hd _ ih =>
    obtain ⟨-, hnames, -, hidents⟩ := Descriptor.ofEntry_ok hd
    refine ⟨by simp [hnames, ih.1], ?_⟩
    simp only [List.flatMap_cons, List.mem_append]
    rintro p (hp | hp)
    · exact (hidents p hp).1
    · exact ih.2 p hp

/-- The descriptors an entry list gives write identifiers only: valid mnemonics and operand
identifiers. -/
theorem Gives.identsValid (h : d.Gives ds) :
    ∀ x ∈ ds, Ident.isValid x.mnemonic = true ∧ ∀ p ∈ x.operands, Ident.isValid p.ident = true := by
  obtain ⟨entries⟩ := d
  simp only [Gives] at h
  induction h with
  | nil => simp
  | cons hd _ ih =>
    obtain ⟨-, -, hmnemonic, hidents⟩ := Descriptor.ofEntry_ok hd
    simp only [List.mem_cons, forall_eq_or_imp]
    exact ⟨⟨hmnemonic, fun p hp => (hidents p hp).2⟩, ih⟩

/-- Among the operands the entries give, two identifiers clash exactly when the entries name two
operands `s` and `_s`, with `s` starting with a digit. -/
theorem Gives.clash_iff (h : d.Gives ds) :
    ¬ Operand.ClashFree (Descriptor.allOperands ds) ↔
      ∃ s ∈ d.operandNames, Ident.startsWithDigit s = true ∧ "_" ++ s ∈ d.operandNames := by
  obtain ⟨hnames, hidents⟩ := h.operands
  have hmem : ∀ n, n ∈ d.operandNames ↔ ∃ p ∈ Descriptor.allOperands ds, p.name = n := by
    intro n
    rw [← hnames, List.mem_map]
  constructor
  · intro hclash
    simp only [Operand.ClashFree, not_forall] at hclash
    obtain ⟨p, hp, q, hq, hpq, hne⟩ := hclash
    rw [hidents p hp, hidents q hq, Ident.ofOperandName_eq_iff] at hpq
    rcases hpq with h | ⟨hdigit, hqp⟩ | ⟨hdigit, hpq⟩
    · exact absurd h hne
    · exact ⟨p.name, (hmem _).2 ⟨p, hp, rfl⟩, hdigit, (hmem _).2 ⟨q, hq, hqp⟩⟩
    · exact ⟨q.name, (hmem _).2 ⟨q, hq, rfl⟩, hdigit, (hmem _).2 ⟨p, hp, hpq⟩⟩
  · rintro ⟨s, hs, hdigit, hmarked⟩ hfree
    obtain ⟨p, hp, rfl⟩ := (hmem _).1 hs
    obtain ⟨q, hq, hqn⟩ := (hmem _).1 hmarked
    have hident : p.ident = q.ident := by
      rw [hidents p hp, hidents q hq, hqn, Ident.ofOperandName_eq_iff]
      exact .inr (.inl ⟨hdigit, rfl⟩)
    have hlen := congrArg String.length (hfree p hp q hq hident)
    rw [hqn, String.length_append] at hlen
    simp at hlen

end Dataset

/-- The descriptors come out exactly when every entry passes and no identifier stands for two
names. -/
theorem Descriptor.ofDataset_ok_iff (d : Dataset) (ds : List Descriptor) :
    ofDataset d = .ok ds ↔ d.Gives ds ∧ Operand.ClashFree (allOperands ds) := by
  simp only [ofDataset, Except.bind_eq_ok_iff, Dataset.ofEntries_ok_iff, ← nameTable_ok_iff]
  constructor
  · rintro ⟨ds', hds', t, ht, h⟩
    cases h
    exact ⟨hds', t, ht⟩
  · rintro ⟨hds, t, ht⟩
    exact ⟨ds, hds, t, ht, rfl⟩

/-- **The checks of a dataset.** The descriptors come out exactly when every entry passes and no
identifier stands for two names, one descriptor per entry with the entry's code; a fault is the
first failing entry's, and the name table's clash only when all entries pass; and then a clash
means two operands named `s` and `_s`, with `s` starting with a digit. -/
theorem ofDataset_spec (d : Dataset) :
    (∀ ds, Descriptor.ofDataset d = .ok ds ↔
      d.Gives ds ∧ Operand.ClashFree (Descriptor.allOperands ds)) ∧
    (∀ ds, d.Gives ds → ds.map (·.code) = d.codes) ∧
    (∀ f, Descriptor.ofDataset d = .error f ↔
      d.FirstEntryFault f ∨ ∃ ds, d.Gives ds ∧ Descriptor.nameTable ds = .error f) ∧
    (∀ ds, d.Gives ds →
      ((∃ f, Descriptor.nameTable ds = .error f) ↔
        ∃ s ∈ d.operandNames, Ident.startsWithDigit s = true ∧ "_" ++ s ∈ d.operandNames)) := by
  refine ⟨Descriptor.ofDataset_ok_iff d, fun ds h => h.codes, fun f => ?_, fun ds h => ?_⟩
  · simp only [Descriptor.ofDataset, Except.bind_eq_error_iff, Dataset.ofEntries_error_iff,
      Dataset.ofEntries_ok_iff]
    constructor
    · rintro (h | ⟨ds, hds, h | ⟨t, -, h⟩⟩)
      · exact .inl h
      · exact .inr ⟨ds, hds, h⟩
      · cases h
    · rintro (h | ⟨ds, hds, h⟩)
      · exact .inl h
      · exact .inr ⟨ds, hds, .inl h⟩
  · rw [Except.exists_error_iff, Descriptor.nameTable_ok_iff]
    exact h.clash_iff

end OpcodeTable
