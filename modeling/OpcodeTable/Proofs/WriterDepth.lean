import OpcodeTable.Proofs.TableLayout
/-!
# The writer comes back to where it started

A closing step goes one level up, but never above the top: at depth zero it stays there, and
the lines after it are written one level less deep than they should be. Here every run the
renderer makes is shown to be `Writer.Nested`: it ends at the depth it started at, and every
closing step is taken at least one level below the start, so none is ever stopped at the top.
This holds for a descriptor started at any depth (`nested_steps`), and for an enum of
identifiers written from the top, with or without variants (`nested_nameEnumSteps`);
`renderer_runs_nested` states the two together.

Both are read off the depths the closing steps come back from (`Writer.closingDepths`) and the
depth a run ends at (`Writer.depthAfter`): `Writer.nested_of_depths` turns those into the
statement about the writer's own runs.
-/

namespace OpcodeTable.Render

namespace Writer

/-- A run of `ss` from `w` that ends at the depth it started at and takes every closing step at
least one level below its start. -/
structure Nested (w : Writer) (ss : List Step) : Prop where
  /-- The run ends at the depth it started at. -/
  returns : (w.run ss).depth = w.depth
  /-- Every closing step is taken at least one level below the start. -/
  closesBelow : ∀ pre t post, ss = pre ++ .closing t :: post → w.depth + 1 ≤ (w.run pre).depth

theorem run_depth (w : Writer) (ss : List Step) : (w.run ss).depth = depthAfter w.depth ss := by
  rw [run_eq]

/-- A closing step is taken at one of the closing depths of the run. -/
theorem depthAfter_mem_closingDepths {d : Nat} {ss pre post : List Step} {t : String}
    (h : ss = pre ++ .closing t :: post) : depthAfter d pre ∈ closingDepths d ss := by
  subst h
  simp [closingDepths_append, Step.isClosing]

theorem nested_of_depths {w : Writer} {ss : List Step} (hd : depthAfter w.depth ss = w.depth)
    (hc : ∀ x ∈ closingDepths w.depth ss, w.depth < x) : w.Nested ss where
  returns := by rw [run_depth, hd]
  closesBelow pre t post h := by
    rw [run_depth]
    exact hc _ (depthAfter_mem_closingDepths h)

/-- Steps that each write a line at the current depth close nothing and keep the depth. -/
theorem depths_of_lines {ss : List Step} (h : ∀ s ∈ ss, ∃ t, s = .line t) (d : Nat) :
    closingDepths d ss = [] ∧ depthAfter d ss = d := by
  induction ss with
  | nil => simp
  | cons s ss ih =>
    obtain ⟨t, rfl⟩ := h s (by simp)
    simpa [Step.isClosing] using ih (fun s hs => h s (by simp [hs]))

end Writer

/-- **A descriptor is nested.** Written from any writer, at any depth, the steps of a descriptor
end at that depth and close every level they open, never above it. -/
theorem nested_steps (d : Descriptor) (w : Writer) : w.Nested (Descriptor.steps d) :=
  Writer.nested_of_depths (lines_steps w.depth d).2 (closingDepths_steps w.depth d)

/-- Each variant of an enum, and each arm of its `as_str`, is one line. -/
theorem variant_lines {α : Type} (vs : List α) (f : α → Step) (hf : ∀ v, ∃ t, f v = .line t) :
    ∀ s ∈ vs.map f, ∃ t, s = .line t := by
  intro s hs
  obtain ⟨v, -, rfl⟩ := List.mem_map.1 hs
  exact hf v

/-- **An enum is nested.** Written from the top, the steps of an enum of identifiers come back to
the top and take each closing step one level or more below it, for any list of variants. -/
theorem nested_nameEnumSteps (name : String) (vs : List (String × String)) :
    (Writer.start 0).Nested (nameEnumSteps name vs) := by
  -- the variants and the arms are lines: they close nothing and keep the depth
  have hv := Writer.depths_of_lines (variant_lines vs (fun v => Step.line (v.1 ++ ","))
    fun _ => ⟨_, rfl⟩)
  have ha := Writer.depths_of_lines (variant_lines vs
    (fun v => Step.line ("Self::" ++ v.1 ++ " => " ++ Text.quote v.2 ++ ",")) fun _ => ⟨_, rfl⟩)
  apply Writer.nested_of_depths <;> cases vs <;>
  simp only [Writer.start, nameEnumSteps, Writer.closingDepths_append, Writer.depthAfter_append,
    Writer.closingDepths_cons, Writer.depthAfter_cons, Writer.closingDepths_nil,
    Writer.depthAfter_nil, next_line, next_opening, next_closing, next_blank, Step.isClosing,
    Bool.false_eq_true, if_false, if_true, List.nil_append, List.append_nil, List.map_nil,
    (hv _).1, (hv _).2, (ha _).1, (ha _).2]
  -- what is left: the enum closes from depths 1, 2, 1, with 3 before them when it has variants
  all_goals simp

/-- **The renderer's runs are nested.** A descriptor written from a writer at any depth leaves it
at that depth and takes every closing step at least one level deeper, and an enum of identifiers
written from the top, whatever its variants, comes back to the top and takes every closing step
at depth one or more: no closing step is ever stopped at the top. -/
theorem renderer_runs_nested :
    (∀ (d : Descriptor) (w : Writer), w.Nested (Descriptor.steps d)) ∧
    ∀ (name : String) (vs : List (String × String)),
      (Writer.start 0).Nested (nameEnumSteps name vs) :=
  ⟨nested_steps, nested_nameEnumSteps⟩

end OpcodeTable.Render
