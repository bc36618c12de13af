import OpcodeTable.Proofs.DatasetChecks
import OpcodeTable.Render.Table
/-!
# Which fault rendering is refused with

`Render.table ds o` checks the table name first and writes the type definitions second, and
only these can fail: a name that is no identifier, then the clash of the operand name table that
the types need (`table_fault_iff`). `Render.generate` checks the dataset before either, and the
descriptors of a checked dataset already have a name table (`types_ok_of_ofDataset`), so from a
dataset the clash inside the types is never reached: a dataset fault wins, and otherwise only the
table name can fail (`render_faults`).
-/

namespace OpcodeTable.Render

theorem types_error_iff (ds : List Descriptor) (f : Fault) :
    types ds = .error f ↔ Descriptor.nameTable ds = .error f := by
  simp only [types]
  cases Descriptor.nameTable ds <;> simp [bind, Except.bind, pure, Except.pure]

theorem types_ok_iff (ds : List Descriptor) :
    (∃ s, types ds = .ok s) ↔ ∃ t, Descriptor.nameTable ds = .ok t := by
  simp only [types]
  cases Descriptor.nameTable ds <;> simp [bind, Except.bind, pure, Except.pure]

/-- The descriptors of a checked dataset always have their type definitions. -/
theorem types_ok_of_ofDataset {d : Dataset} {ds : List Descriptor}
    (h : Descriptor.ofDataset d = .ok ds) : ∃ s, types ds = .ok s := by
  rw [types_ok_iff, Descriptor.nameTable_ok_iff]
  exact ((Descriptor.ofDataset_ok_iff d ds).1 h).2

/-- The name a table is wrapped in is an identifier, when there is one. -/
def Options.NameOk (o : Options) : Prop :=
  ∀ n, o.tableName = some n → Ident.isValid n = true

/-- A table that is written is written from its type definitions (when asked for) and its
blocks. -/
theorem table_of_nameOk {ds : List Descriptor} {o : Options} (hname : o.NameOk) :
    table ds o = (do
      let front ← if o.withTypes then (· ++ "\n") <$> types ds else pure ""
      match o.tableName with
      | some name => return front ++ constantHead name ++ Writer.text 1 (blockSteps ds) ++ constantTail
      | none => return front ++ Writer.text 0 (blockSteps ds)) := by
  obtain ⟨name, withTypes⟩ := o
  cases name with
  | none => rfl
  | some n =>
    have hn : Ident.isValid n = true := hname n rfl
    simp [table, hn]

/-- **Rendering faults.** A table is refused exactly when its name is no identifier, with that
name, or else when types are asked for and the operand names clash, with the clash. -/
theorem table_fault_iff (ds : List Descriptor) (o : Options) (f : Fault) :
    table ds o = .error f ↔
      (∃ n, o.tableName = some n ∧ Ident.isValid n = false ∧ f = .badTableName n) ∨
      (o.NameOk ∧ o.withTypes = true ∧ Descriptor.nameTable ds = .error f) := by
  by_cases hname : o.NameOk
  · rw [table_of_nameOk hname]
    have hno : ¬ ∃ n, o.tableName = some n ∧ Ident.isValid n = false ∧ f = .badTableName n := by
      rintro ⟨n, hn, hbad, -⟩
      simp [hname n hn] at hbad
    simp only [hno, false_or, hname, true_and]
    -- only the type definitions can fail, and with the name table's fault
    obtain ⟨name, withTypes⟩ := o
    cases withTypes <;> cases name <;>
      simp [Except.bind_eq_error_iff, types_error_iff, pure, Except.pure]
  · -- the name is checked before anything else
    obtain ⟨n, hn, hbad⟩ : ∃ n, o.tableName = some n ∧ Ident.isValid n = false := by
      simp only [Options.NameOk, not_forall, Bool.not_eq_true] at hname
      obtain ⟨n, hn, hbad⟩ := hname
      exact ⟨n, hn, hbad⟩
    obtain ⟨name, withTypes⟩ := o
    simp only at hn
    subst hn
    have ht : table ds ⟨some n, withTypes⟩ = .error (.badTableName n) := by
      simp only [table, hbad, Bool.not_false, if_true]
      rfl
    rw [ht]
    simp only [Option.some.injEq, exists_eq_left', hbad, true_and, hname, false_and, or_false,
      Except.error.injEq]
    exact eq_comm

/-- Rendering succeeds exactly when neither check fails. -/
theorem table_ok_iff (ds : List Descriptor) (o : Options) :
    (∃ s, table ds o = .ok s) ↔
      o.NameOk ∧ (o.withTypes = true → ∃ t, Descriptor.nameTable ds = .ok t) := by
  rw [← not_iff_not, ← Except.exists_error_iff]
  simp only [table_fault_iff, not_and]
  constructor
  · rintro ⟨f, ⟨n, hn, hbad, -⟩ | ⟨hname, hwith, hf⟩⟩ hname'
    · simp [hname' n hn] at hbad
    · intro hok
      obtain ⟨t, ht⟩ := hok hwith
      rw [ht] at hf
      cases hf
  · intro h
    by_cases hname : o.NameOk
    · have hwith := h hname
      simp only [not_forall, not_exists] at hwith
      obtain ⟨hwt, hnot⟩ := hwith
      obtain ⟨f, hf⟩ := (Except.exists_error_iff _).2 fun ⟨t, ht⟩ => hnot t ht
      exact ⟨f, .inr ⟨hname, hwt, hf⟩⟩
    · simp only [Options.NameOk, not_forall, Bool.not_eq_true] at hname
      obtain ⟨n, hn, hbad⟩ := hname
      exact ⟨_, .inl ⟨n, hn, hbad, rfl⟩⟩

/-- **Faults of rendering and of generating.** `table` fails exactly when the name is no
identifier (checked first) or the types' name table clashes, with those faults, and succeeds
otherwise; `generate` fails exactly with the dataset's fault or, for a dataset that passes, with
the bad table name; and the clash inside the types is never reached from a dataset. -/
theorem render_faults :
    (∀ ds o f, table ds o = .error f ↔
      (∃ n, o.tableName = some n ∧ Ident.isValid n = false ∧ f = .badTableName n) ∨
      (o.NameOk ∧ o.withTypes = true ∧ Descriptor.nameTable ds = .error f)) ∧
    (∀ ds o, (∃ s, table ds o = .ok s) ↔
      o.NameOk ∧ (o.withTypes = true → ∃ t, Descriptor.nameTable ds = .ok t)) ∧
    (∀ d o f, generate d o = .error f ↔
      Descriptor.ofDataset d = .error f ∨
      ∃ ds n, Descriptor.ofDataset d = .ok ds ∧ o.tableName = some n ∧ Ident.isValid n = false ∧
        f = .badTableName n) ∧
    (∀ d ds, Descriptor.ofDataset d = .ok ds → ∃ s, types ds = .ok s) := by
  refine ⟨table_fault_iff, table_ok_iff, fun d o f => ?_, fun d ds h => types_ok_of_ofDataset h⟩
  simp only [generate, Except.bind_eq_error_iff]
  constructor
  · rintro (h | ⟨ds, hds, h⟩)
    · exact .inl h
    · right
      rcases (table_fault_iff ds o f).1 h with ⟨n, hn, hbad, rfl⟩ | ⟨-, -, hclash⟩
      · exact ⟨ds, n, hds, hn, hbad, rfl⟩
      · -- a checked dataset's name table does not clash
        obtain ⟨t, ht⟩ := (types_ok_iff ds).1 (types_ok_of_ofDataset hds)
        rw [ht] at hclash
        cases hclash
  · rintro (h | ⟨ds, n, hds, hn, hbad, rfl⟩)
    · exact .inl h
    · exact .inr ⟨ds, hds, (table_fault_iff ds o _).2 (.inl ⟨n, hn, hbad, rfl⟩)⟩

end OpcodeTable.Render
