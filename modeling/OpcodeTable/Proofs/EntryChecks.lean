import OpcodeTable.Proofs.DatasetChecks
/-!
# The checks of one entry, in order

`Descriptor.ofEntry code e` makes its checks one after another and stops at the first that
fails. `Entry.firstFault` lists them as one plain decision: the mnemonic, the length, the number
of cycle counts, the first operand whose name gives no identifier (`EntryOperand.firstBad?`), and
the first flag, in the order `Z`, `N`, `H`, `C`, whose symbol spells no effect
(`FlagSymbols.firstBad?`). `Entry.Describes` says what a passing entry gives: its fields as they
are, each operand written as the identifier of its name, each flag the effect its symbol spells.

`ofEntry_checks_in_order` says the two agree: an entry fails exactly with its first fault, and it
passes exactly when it has none, giving the descriptor it describes. The operands are checked by
a recursion that carries the index (`Operand.ofEntries_eq`), the flags by four binds
(`FlagSymbols.effects_eq_ok_iff`, `effects_eq_error_iff`).
-/

namespace OpcodeTable

/-- Whether the name of an operand can be written: the identifier it is written as is valid. -/
def EntryOperand.nameWritable (o : EntryOperand) : Bool :=
  Ident.isValid (Ident.ofOperandName o.name)

/-- The operand a descriptor gets for an entry operand: its fields copied, written as the
identifier of its name. -/
def EntryOperand.toOperand (o : EntryOperand) : Operand :=
  ⟨o.name, Ident.ofOperandName o.name, o.immediate, o.bytes, o.increment, o.decrement⟩

/-- The first operand whose name cannot be written, with its index, the first operand at `k`. -/
def EntryOperand.firstBad? (k : Nat) (os : List EntryOperand) : Option (EntryOperand × Nat) :=
  (os.zipIdx k).find? fun p => !p.1.nameWritable

/-- The first flag, in the order `Z`, `N`, `H`, `C`, whose symbol spells no effect. -/
def FlagSymbols.firstBad? (s : FlagSymbols) : Option Flag :=
  Flag.all.find? fun f => (f.effectOf? (s.get f)).isNone

/-- The first check an entry fails under `code`, in the order the checks are made. -/
def Entry.firstFault (code : String) (e : Entry) : Option Fault :=
  if !Ident.isValid e.mnemonic then some (.malformed (.badMnemonic code e.mnemonic))
  else if e.bytes = 0 then some (.malformed (.zeroLength code))
  else if e.cycles.length ∉ [1, 2] then some (.malformed (.cycleCount code e.cycles.length))
  else (EntryOperand.firstBad? 0 e.operands).elim
    (e.flags.firstBad?.map fun f => .badFlagSymbol code f (e.flags.get f))
    fun p => some (.malformed (.badOperandName code p.2 p.1.name))

/-- What a passing entry gives under `code`: the code, and the mnemonic, length, cycle counts and
immediacy of the entry; its operands in order, each written as the identifier of its name; and
for each flag the effect its symbol spells. -/
structure Entry.Describes (code : String) (e : Entry) (d : Descriptor) : Prop where
  code : d.code = code
  mnemonic : d.mnemonic = e.mnemonic
  byteLength : d.byteLength = e.bytes
  cycleCounts : d.cycleCounts = e.cycles
  operands : d.operands = e.operands.map EntryOperand.toOperand
  isImmediate : d.isImmediate = e.immediate
  flagEffects : ∀ f, f.effectOf? (e.flags.get f) = some (d.flagEffects.get f)

/-! ## Flags -/

namespace Flag

theorem effect_eq_ok_iff {code : String} {f : Flag} {s : String} {x : FlagEffect} :
    f.effect code s = .ok x ↔ f.effectOf? s = some x := by
  unfold effect
  cases f.effectOf? s <;> simp

theorem effect_eq_error_iff {code : String} {f : Flag} {s : String} {e : Fault} :
    f.effect code s = .error e ↔ f.effectOf? s = none ∧ e = .badFlagSymbol code f s := by
  unfold effect
  cases f.effectOf? s <;> simp [eq_comm]

end Flag

/-- Effects agree when they agree on every flag. -/
theorem FlagEffects.ext_get {x y : FlagEffects} (h : ∀ f, x.get f = y.get f) : x = y := by
  obtain ⟨z, n, h', c⟩ := x
  obtain ⟨z', n', h'', c'⟩ := y
  have hz := h .z
  have hn := h .n
  have hh := h .h
  have hc := h .c
  simp only [get] at hz hn hh hc
  rw [hz, hn, hh, hc]

namespace FlagSymbols

/-- The four symbols give effects exactly when each spells one, and then each flag gets the
effect its symbol spells. -/
theorem effects_eq_ok_iff {code : String} {s : FlagSymbols} {x : FlagEffects} :
    s.effects code = .ok x ↔ ∀ f, f.effectOf? (s.get f) = some (x.get f) := by
  simp only [effects, Except.bind_eq_ok_iff, Flag.effect_eq_ok_iff, pure, Except.pure,
    Except.ok.injEq]
  constructor
  · rintro ⟨z, hz, n, hn, h, hh, c, hc, rfl⟩ f
    cases f <;> assumption
  · intro hx
    exact ⟨_, hx .z, _, hx .n, _, hx .h, _, hx .c, FlagEffects.ext_get fun f => by cases f <;> rfl⟩

/-- The four symbols fail exactly at the first flag whose symbol spells no effect. -/
theorem effects_eq_error_iff {code : String} {s : FlagSymbols} {e : Fault} :
    s.effects code = .error e ↔ s.firstBad?.map (fun f => .badFlagSymbol code f (s.get f)) = some e := by
  -- one case per flag, in the order the binds take them
  simp only [effects, firstBad?, Flag.all]
  cases hz : Flag.z.effectOf? s.z <;> cases hn : Flag.n.effectOf? s.n <;>
    cases hh : Flag.h.effectOf? s.h <;> cases hc : Flag.c.effectOf? s.c <;>
    simp [Flag.effect, get, hz, hn, hh, hc, bind, Except.bind, pure, Except.pure, eq_comm]

end FlagSymbols

/-! ## Operands -/

namespace Operand

theorem ofEntry_eq (code : String) (i : Nat) (o : EntryOperand) :
    ofEntry code i o =
      if o.nameWritable then .ok o.toOperand else .error (.malformed (.badOperandName code i o.name)) :=
  rfl

/-- The operands of an entry, the first at index `k`, are checked in order: the first whose name
cannot be written is the fault, and otherwise each is copied. -/
theorem ofEntries_eq (code : String) (k : Nat) (os : List EntryOperand) :
    ofEntries code k os = (EntryOperand.firstBad? k os).elim (.ok (os.map EntryOperand.toOperand))
      fun p => .error (.malformed (.badOperandName code p.2 p.1.name)) := by
  induction os generalizing k with
  | nil => rfl
  | cons o os ih =>
    simp only [ofEntries, EntryOperand.firstBad?, List.zipIdx_cons, List.find?_cons, ofEntry_eq]
    by_cases ho : o.nameWritable = true
    · -- the head passes; the rest decides, from the next index on
      simp only [ho, Bool.not_true, if_true, ih, EntryOperand.firstBad?]
      cases (os.zipIdx (k + 1)).find? fun p => !p.1.nameWritable <;> rfl
    · simp only [ho, Bool.not_false]
      rfl

end Operand

/-! ## One entry -/

/-- The cycle check reads as: one or two cycle counts. -/
theorem cycleCheck_iff (cs : List UInt8) :
    (cs.isEmpty || decide (cs.length > maxCycleCounts)) = true ↔ cs.length ∉ [1, 2] := by
  simp only [Bool.or_eq_true, List.isEmpty_iff_length_eq_zero, decide_eq_true_eq, List.mem_cons,
    List.not_mem_nil, or_false]
  have : maxCycleCounts = 2 := rfl
  omega

/-- The checks of an entry as one decision: the mnemonic, the length, the cycle counts, then the
operands and the flags. -/
theorem Descriptor.ofEntry_eq (code : String) (e : Entry) :
    ofEntry code e =
      if !Ident.isValid e.mnemonic then .error (.malformed (.badMnemonic code e.mnemonic))
      else if e.bytes = 0 then .error (.malformed (.zeroLength code))
      else if e.cycles.length ∉ [1, 2] then .error (.malformed (.cycleCount code e.cycles.length))
      else do
        let operands ← Operand.ofEntries code 0 e.operands
        let flagEffects ← e.flags.effects code
        return ⟨code, e.mnemonic, e.bytes, e.cycles, operands, e.immediate, flagEffects⟩ := by
  simp only [ofEntry, ← cycleCheck_iff]
  split_ifs <;> rfl

theorem Entry.firstFault_of_passing {code : String} {e : Entry}
    (hm : Ident.isValid e.mnemonic = true) (hb : e.bytes ≠ 0) (hc : e.cycles.length ∈ [1, 2]) :
    e.firstFault code = (EntryOperand.firstBad? 0 e.operands).elim
      (e.flags.firstBad?.map fun f => .badFlagSymbol code f (e.flags.get f))
      fun p => some (.malformed (.badOperandName code p.2 p.1.name)) := by
  simp [firstFault, hm, hb, hc]

/-- An entry that fails one of its own checks (its mnemonic, its length, its cycle counts) is
refused as malformed, with the fault of the first of them it fails. -/
theorem Descriptor.ofEntry_of_not_passing (code : String) {e : Entry}
    (h : ¬ (Ident.isValid e.mnemonic = true ∧ e.bytes ≠ 0 ∧ e.cycles.length ∈ [1, 2])) :
    ∃ m, ofEntry code e = .error (.malformed m) ∧ e.firstFault code = some (.malformed m) := by
  rw [ofEntry_eq]
  by_cases hm : Ident.isValid e.mnemonic = true
  · by_cases hb : e.bytes = 0
    · simp [Entry.firstFault, hm, hb]
    have hc : e.cycles.length ∉ [1, 2] := fun hc => h ⟨hm, hb, hc⟩
    simp [Entry.firstFault, hm, hb, hc]
  · simp [Entry.firstFault, hm]

theorem Descriptor.ofEntry_eq_error_iff (code : String) (e : Entry) (f : Fault) :
    ofEntry code e = .error f ↔ e.firstFault code = some f := by
  by_cases hpass : Ident.isValid e.mnemonic = true ∧ e.bytes ≠ 0 ∧ e.cycles.length ∈ [1, 2]
  · -- past the three checks of the entry itself: the operands, then the flags
    obtain ⟨hm, hb, hc⟩ := hpass
    rw [ofEntry_eq, Entry.firstFault_of_passing hm hb hc, Operand.ofEntries_eq]
    simp only [hm, Bool.not_true, hb, hc, not_true_eq_false, if_false]
    cases EntryOperand.firstBad? 0 e.operands with
    | some p => simp [bind, Except.bind, eq_comm]
    | none =>
      simp only [Option.elim, bind, Except.bind]
      rw [← FlagSymbols.effects_eq_error_iff]
      cases e.flags.effects code <;> simp [pure, Except.pure]
  · obtain ⟨m, hof, hff⟩ := ofEntry_of_not_passing code hpass
    rw [hof, hff]
    simp [eq_comm]

theorem Descriptor.ofEntry_eq_ok_iff (code : String) (e : Entry) (d : Descriptor) :
    ofEntry code e = .ok d ↔ e.firstFault code = none ∧ e.Describes code d := by
  by_cases hpass : Ident.isValid e.mnemonic = true ∧ e.bytes ≠ 0 ∧ e.cycles.length ∈ [1, 2]
  · obtain ⟨hm, hb, hc⟩ := hpass
    rw [ofEntry_eq, Entry.firstFault_of_passing hm hb hc, Operand.ofEntries_eq]
    simp only [hm, Bool.not_true, hb, hc, not_true_eq_false, if_false]
    cases hop : EntryOperand.firstBad? 0 e.operands with
    | some p => simp [bind, Except.bind]
    | none =>
      simp only [Option.elim, Bool.false_eq_true, if_false, Except.bind_eq_ok_iff,
        Except.ok.injEq, exists_eq_left', FlagSymbols.effects_eq_ok_iff, pure, Except.pure,
        Option.map_eq_none_iff]
      constructor
      · rintro ⟨x, hx, rfl⟩
        refine ⟨?_, ⟨rfl, rfl, rfl, rfl, rfl, rfl, hx⟩⟩
        -- every flag spells an effect, so none is the first that does not
        simp only [FlagSymbols.firstBad?, List.find?_eq_none]
        intro f _
        simp [hx f]
      · rintro ⟨-, hd⟩
        refine ⟨d.flagEffects, hd.flagEffects, ?_⟩
        obtain ⟨code', mnemonic, byteLength, cycleCounts, operands, isImmediate, flagEffects⟩ := d
        obtain ⟨h1, h2, h3, h4, h5, h6, -⟩ := hd
        simp only at h1 h2 h3 h4 h5 h6
        rw [h1, h2, h3, h4, h5, h6]
  · obtain ⟨m, hof, hff⟩ := ofEntry_of_not_passing code hpass
    rw [hof, hff]
    simp

/-- **The checks of an entry, in order.** An entry fails exactly with the first check it fails:
a mnemonic that is no identifier, a length of zero, a number of cycle counts other than one or
two, the first operand whose name gives no identifier, the first flag in the order `Z`, `N`, `H`,
`C` whose symbol spells no effect. It passes exactly when it fails none, and then gives the
descriptor it describes. -/
theorem ofEntry_checks_in_order (code : String) (e : Entry) :
    (∀ f, Descriptor.ofEntry code e = .error f ↔ e.firstFault code = some f) ∧
    (∀ d, Descriptor.ofEntry code e = .ok d ↔ e.firstFault code = none ∧ e.Describes code d) :=
  ⟨Descriptor.ofEntry_eq_error_iff code e, Descriptor.ofEntry_eq_ok_iff code e⟩

end OpcodeTable
