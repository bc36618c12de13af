import Mathlib.Data.List.Nodup
import Mathlib.Data.List.Induction
import OpcodeTable.Descriptor.Names
/-!
# The operand name table

`Descriptor.nameTable ds` reads the operands of `ds` in order (`operandSites`) and keeps every
identifier with the name it first stood for. Its fold carries `NameTable.Records t ps`: after
the operands `ps`, the table `t` holds each identifier of `ps` once, in order of first
appearance, with the name of an operand of `ps` written with it.

* `Descriptor.nameTable_ok_iff`: a table comes out exactly when no identifier stands for two
  names among all operands (`Operand.ClashFree`);
* `Descriptor.nameTable_records`: the table that comes out records all operands, so its
  identifiers are the distinct identifiers in order of first appearance, and the name it gives
  an identifier is the name of every operand written with it (`Records.name_eq`);
* `NameTable.foldlM_add_eq_error_iff`: otherwise the fold stops at the first operand whose
  identifier already stands for another name, and the fault names that operand's site;
* `nameTable_spec`: all of it at once, the table pinned down by its identifiers and the name of
  each identifier's first operand (`firstName?`, `NameTable.eq_of_keys_eq`).
-/

namespace List

variable {α : Type} [BEq α] [LawfulBEq α]

/-- Appending an element keeps the first occurrences: it is new only when not seen before. -/
theorem eraseDups_append_singleton (l : List α) (a : α) :
    (l ++ [a]).eraseDups = if a ∈ l then l.eraseDups else l.eraseDups ++ [a] := by
  rw [eraseDups_append]
  by_cases h : a ∈ l <;> simp [removeAll, eraseDups_cons, h]

theorem nodup_eraseDups (l : List α) : l.eraseDups.Nodup := by
  induction l using List.reverseRecOn with
  | nil => simp
  | append_singleton l a ih =>
    rw [eraseDups_append_singleton]
    split
    · exact ih
    · rename_i h
      exact ih.append (nodup_singleton a) (by simpa using h)

end List

namespace OpcodeTable

/-- The operands of all descriptors, in order. -/
def Descriptor.allOperands (ds : List Descriptor) : List Operand :=
  ds.flatMap (·.operands)

/-- No identifier stands for two different names among the operands `ps`. -/
def Operand.ClashFree (ps : List Operand) : Prop :=
  ∀ o ∈ ps, ∀ o' ∈ ps, o.ident = o'.ident → o.name = o'.name

namespace Operand

theorem clashFree_append_singleton {ps : List Operand} {o : Operand} :
    ClashFree (ps ++ [o]) ↔ ClashFree ps ∧ ∀ o' ∈ ps, o'.ident = o.ident → o'.name = o.name := by
  constructor
  · intro h
    exact ⟨fun a ha b hb => h a (by simp [ha]) b (by simp [hb]),
      fun o' ho' => h o' (by simp [ho']) o (by simp)⟩
  · rintro ⟨hps, ho⟩ a ha b hb hab
    simp only [List.mem_append, List.mem_singleton] at ha hb
    rcases ha with ha | rfl <;> rcases hb with hb | rfl
    · exact hps a ha b hb hab
    · exact ho a ha hab
    · exact (ho b hb hab.symm).symm
    · rfl

end Operand

namespace NameTable

/-- After reading the operands `ps`, the table `t` holds each identifier of `ps` once, in order
of first appearance, with the name of an operand of `ps` written with it. -/
structure Records (t : NameTable) (ps : List Operand) : Prop where
  keys : t.map (·.1) = (ps.map (·.ident)).eraseDups
  names : ∀ p ∈ t, ∃ o ∈ ps, o.ident = p.1 ∧ o.name = p.2

namespace Records

variable {t : NameTable} {ps : List Operand}

theorem nil : Records [] [] := ⟨rfl, by simp⟩

theorem mem_keys (h : Records t ps) {x : String} : x ∈ t.map (·.1) ↔ x ∈ ps.map (·.ident) := by
  rw [h.keys, List.mem_eraseDups]

theorem keys_nodup (h : Records t ps) : (t.map (·.1)).Nodup := by
  rw [h.keys]
  exact List.nodup_eraseDups _

/-- Once no identifier stands for two names, the name the table gives an identifier is the name
of every operand written with it. -/
theorem name_eq (h : Records t ps) (hfree : Operand.ClashFree ps) {p : String × String}
    (hp : p ∈ t) {o : Operand} (ho : o ∈ ps) (hi : o.ident = p.1) : o.name = p.2 := by
  obtain ⟨o', ho', hi', hn'⟩ := h.names p hp
  rw [← hn']
  exact hfree o ho o' ho' (hi.trans hi'.symm)

/-- What the table gives the identifier of a new operand: nothing when the identifier is new,
else the name of an earlier operand written with it. -/
theorem lookup_cases (h : Records t ps) (o : Operand) :
    (t.lookup o.ident = none ∧ o.ident ∉ ps.map (·.ident)) ∨
    ∃ o' ∈ ps, o'.ident = o.ident ∧ t.lookup o.ident = some o'.name := by
  cases hl : t.lookup o.ident with
  | none =>
    refine .inl ⟨rfl, fun hmem => ?_⟩
    obtain ⟨p, hp, hx⟩ := List.mem_map.1 (h.mem_keys.2 hmem)
    simp only [List.lookup_eq_none_iff, bne_iff_ne, ne_eq] at hl
    exact hl p hp hx.symm
  | some seen =>
    obtain ⟨l₁, l₂, rfl, -⟩ := List.lookup_eq_some_iff.1 hl
    obtain ⟨o', ho', hi, hn⟩ := h.names (o.ident, seen) (by simp)
    exact .inr ⟨o', ho', hi, by rw [hn]⟩

/-- An operand whose identifier agrees with every earlier operand of that identifier is
recorded. -/
theorem add_ok (h : Records t ps) (c : String) (i : Nat) {o : Operand}
    (hagree : ∀ o' ∈ ps, o'.ident = o.ident → o'.name = o.name) :
    ∃ t', add t (c, i, o) = .ok t' ∧ Records t' (ps ++ [o]) := by
  rcases h.lookup_cases o with ⟨hl, hnew⟩ | ⟨o', ho', hi, hl⟩
  · refine ⟨t ++ [(o.ident, o.name)], by simp [add, hl], ⟨?_, ?_⟩⟩
    · simp [h.keys, List.eraseDups_append_singleton, hnew]
    · intro p hp
      simp only [List.mem_append, List.mem_singleton] at hp
      rcases hp with hp | rfl
      · obtain ⟨o'', ho'', hx⟩ := h.names p hp
        exact ⟨o'', by simp [ho''], hx⟩
      · exact ⟨o, by simp, rfl, rfl⟩
  · have hseen : o'.name = o.name := hagree o' ho' hi
    refine ⟨t, by simp [add, hl, hseen], ⟨?_, ?_⟩⟩
    · have hold : o.ident ∈ ps.map (·.ident) := List.mem_map.2 ⟨o', ho', hi⟩
      simp [h.keys, List.eraseDups_append_singleton, hold]
    · intro p hp
      obtain ⟨o'', ho'', hx⟩ := h.names p hp
      exact ⟨o'', by simp [ho''], hx⟩

/-- An operand whose identifier already stands for another name is the clash, reported at its
own site with the name the identifier stands for. -/
theorem add_clash (h : Records t ps) (hfree : Operand.ClashFree ps) {c : String} {i : Nat}
    {o o' : Operand} (ho' : o' ∈ ps) (hi : o'.ident = o.ident) (hn : o'.name ≠ o.name) :
    add t (c, i, o) = .error (.malformed (.nameClash c i o.name o.ident o'.name)) := by
  rcases h.lookup_cases o with ⟨-, hnew⟩ | ⟨o'', ho'', hi'', hl⟩
  · exact absurd (List.mem_map.2 ⟨o', ho', hi⟩) hnew
  · have hsame : o''.name = o'.name := hfree o'' ho'' o' ho' (hi''.trans hi.symm)
    simp [add, hl, hsame, hn]

end Records

/-- A run over sites whose operands are clash-free records them all. -/
theorem foldlM_add_ok (sites : List (String × Nat × Operand))
    (hfree : Operand.ClashFree (sites.map (·.2.2))) :
    ∃ t, sites.foldlM add [] = .ok t ∧ Records t (sites.map (·.2.2)) := by
  induction sites using List.reverseRecOn with
  | nil => exact ⟨[], rfl, Records.nil⟩
  | append_singleton sites s ih =>
    obtain ⟨c, i, o⟩ := s
    simp only [List.map_append, List.map_cons, List.map_nil] at hfree ⊢
    obtain ⟨hpre, hagree⟩ := Operand.clashFree_append_singleton.1 hfree
    obtain ⟨t, ht, hrec⟩ := ih hpre
    obtain ⟨t', ht', hrec'⟩ := hrec.add_ok c i hagree
    refine ⟨t', ?_, hrec'⟩
    simp only [List.foldlM_append, ht, List.foldlM_cons, List.foldlM_nil, bind_pure]
    exact ht'

/-- A run over sites whose operands clash fails. -/
theorem foldlM_add_error (sites : List (String × Nat × Operand))
    (hclash : ¬ Operand.ClashFree (sites.map (·.2.2))) :
    ∃ f, sites.foldlM add [] = .error f := by
  induction sites using List.reverseRecOn with
  | nil => exact absurd (by simp [Operand.ClashFree]) hclash
  | append_singleton sites s ih =>
    obtain ⟨c, i, o⟩ := s
    simp only [List.map_append, List.map_cons, List.map_nil] at hclash ⊢
    by_cases hpre : Operand.ClashFree (sites.map (·.2.2))
    · -- the earlier operands agree, so the new one clashes with one of them
      obtain ⟨t, ht, hrec⟩ := foldlM_add_ok sites hpre
      have : ¬ ∀ o' ∈ sites.map (·.2.2), o'.ident = o.ident → o'.name = o.name :=
        fun hagree => hclash (Operand.clashFree_append_singleton.2 ⟨hpre, hagree⟩)
      push Not at this
      obtain ⟨o', ho', hi, hn⟩ := this
      refine ⟨.malformed (.nameClash c i o.name o.ident o'.name), ?_⟩
      simp only [List.foldlM_append, ht, List.foldlM_cons, List.foldlM_nil, bind_pure]
      exact hrec.add_clash hpre ho' hi hn
    · obtain ⟨f, hf⟩ := ih hpre
      exact ⟨f, by simp [List.foldlM_append, hf]; rfl⟩

/-- A run that comes out with a table has read operands that agree on their names, and the
table records them. -/
theorem foldlM_add_eq_ok {sites : List (String × Nat × Operand)} {t : NameTable}
    (h : sites.foldlM add [] = .ok t) :
    Operand.ClashFree (sites.map (·.2.2)) ∧ Records t (sites.map (·.2.2)) := by
  by_cases hfree : Operand.ClashFree (sites.map (·.2.2))
  · obtain ⟨t', ht', hrec⟩ := foldlM_add_ok sites hfree
    rw [ht'] at h
    cases h
    exact ⟨hfree, hrec⟩
  · obtain ⟨f, hf⟩ := foldlM_add_error sites hfree
    rw [hf] at h
    cases h

/-- **Where a run fails.** A run over sites fails exactly at the first site whose identifier
already stands for another name: the sites before it agree on their names, one of them is written
with the same identifier under another name, and the fault names the site, its name, its
identifier and that other name. -/
theorem foldlM_add_eq_error_iff (sites : List (String × Nat × Operand)) (f : Fault) :
    sites.foldlM add [] = .error f ↔
      ∃ pre s post, sites = pre ++ s :: post ∧ Operand.ClashFree (pre.map (·.2.2)) ∧
        ∃ o ∈ pre.map (·.2.2), o.ident = s.2.2.ident ∧ o.name ≠ s.2.2.name ∧
          f = .malformed (.nameClash s.1 s.2.1 s.2.2.name s.2.2.ident o.name) := by
  constructor
  · intro h
    induction sites using List.reverseRecOn with
    | nil => cases h
    | append_singleton sites s ih =>
      obtain ⟨c, i, o⟩ := s
      simp only [List.foldlM_append, List.foldlM_cons, List.foldlM_nil, bind_pure] at h
      cases hs : sites.foldlM add [] with
      | error f' =>
        -- the earlier sites already fail, and the last one is never read
        rw [hs] at h
        cases h
        obtain ⟨pre, s', post, rfl, hfree, o', ho', hi, hn, hf⟩ := ih hs
        exact ⟨pre, s', post ++ [(c, i, o)], by simp, hfree, o', ho', hi, hn, hf⟩
      | ok t =>
        -- the earlier sites pass, so the last one clashes with one of them
        obtain ⟨hfree, hrec⟩ := foldlM_add_eq_ok hs
        rw [hs] at h
        simp only [bind, Except.bind] at h
        rcases hrec.lookup_cases o with ⟨hl, -⟩ | ⟨o', ho', hi, hl⟩
        · simp [add, hl] at h
        · by_cases hn : o'.name = o.name
          · simp [add, hl, hn] at h
          · simp only [add, hl, hn, if_false, Except.error.injEq] at h
            exact ⟨sites, (c, i, o), [], by simp, hfree, o', ho', hi, hn, h.symm⟩
  · rintro ⟨pre, ⟨c, i, o⟩, post, rfl, hfree, o', ho', hi, hn, rfl⟩
    dsimp only at hi hn ⊢
    obtain ⟨t, ht, hrec⟩ := foldlM_add_ok pre hfree
    rw [List.foldlM_append, ht]
    show List.foldlM add t ((c, i, o) :: post) = _
    rw [List.foldlM_cons, hrec.add_clash hfree ho' hi hn]
    rfl

end NameTable

/-- Two tables with the same identifiers, each giving an identifier the name `g` gives it, are
one table. -/
theorem NameTable.eq_of_keys_eq {t m : NameTable} {g : String → Option String}
    (hk : t.map (·.1) = m.map (·.1)) (ht : ∀ p ∈ t, g p.1 = some p.2)
    (hm : ∀ p ∈ m, g p.1 = some p.2) : t = m := by
  induction t generalizing m with
  | nil =>
    cases m with
    | nil => rfl
    | cons q m => simp at hk
  | cons p t ih =>
    cases m with
    | nil => simp at hk
    | cons q m =>
      simp only [List.map_cons, List.cons.injEq] at hk
      have hpq : p.2 = q.2 := by
        have hp := ht p List.mem_cons_self
        rw [hk.1, hm q List.mem_cons_self, Option.some.injEq] at hp
        exact hp.symm
      rw [Prod.ext hk.1 hpq,
        ih hk.2 (fun p' hp' => ht p' (List.mem_cons_of_mem _ hp'))
          (fun q' hq' => hm q' (List.mem_cons_of_mem _ hq'))]

namespace Descriptor

theorem operandSites_operands (ds : List Descriptor) :
    (operandSites ds).map (·.2.2) = allOperands ds := by
  simp [operandSites, allOperands, List.map_flatMap, Function.comp_def, List.zipIdx_map_fst]

/-- The operand name table comes out exactly when no identifier stands for two names. -/
theorem nameTable_ok_iff (ds : List Descriptor) :
    (∃ t, nameTable ds = .ok t) ↔ Operand.ClashFree (allOperands ds) := by
  rw [← operandSites_operands]
  constructor
  · rintro ⟨t, ht⟩
    by_contra hclash
    obtain ⟨f, hf⟩ := NameTable.foldlM_add_error _ hclash
    rw [nameTable, hf] at ht
    cases ht
  · intro hfree
    obtain ⟨t, ht, -⟩ := NameTable.foldlM_add_ok _ hfree
    exact ⟨t, ht⟩

/-- The table that comes out records all operands, which then agree on their names. -/
theorem nameTable_records {ds : List Descriptor} {t : NameTable} (h : nameTable ds = .ok t) :
    NameTable.Records t (allOperands ds) ∧ Operand.ClashFree (allOperands ds) := by
  have hfree := (nameTable_ok_iff ds).1 ⟨t, h⟩
  rw [← operandSites_operands] at hfree ⊢
  obtain ⟨t', ht', hrec⟩ := NameTable.foldlM_add_ok _ hfree
  rw [nameTable, ht'] at h
  cases h
  exact ⟨hrec, hfree⟩

end Descriptor

/-- The name the first operand written with identifier `x` has, if any. -/
def firstName? (ps : List Operand) (x : String) : Option String :=
  (ps.find? (·.ident == x)).map (·.name)

/-- In a table that records clash-free operands, every identifier stands for the name of its
first operand. -/
theorem NameTable.Records.firstName?_eq {t : NameTable} {ps : List Operand} (h : NameTable.Records t ps)
    (hfree : Operand.ClashFree ps) : ∀ p ∈ t, firstName? ps p.1 = some p.2 := by
  intro p hp
  obtain ⟨o, ho, hi, -⟩ := h.names p hp
  -- the identifier has an operand, so a first one
  obtain ⟨o₁, hfind⟩ : ∃ o₁, ps.find? (·.ident == p.1) = some o₁ := by
    rw [← Option.isSome_iff_exists, List.find?_isSome]
    exact ⟨o, ho, by simp [hi]⟩
  have ho₁ := List.mem_of_find?_eq_some hfind
  have hi₁ : o₁.ident = p.1 := by simpa using List.find?_some hfind
  simp only [firstName?, hfind, Option.map_some, Option.some.injEq]
  exact h.name_eq hfree hp ho₁ hi₁

/-- **The operand name table.** A table comes out exactly when no identifier stands for two names
among all operands, in order; it is then the table that holds each identifier once, in order of
first appearance, with the name of its first operand. Otherwise the fault is at the first operand
whose identifier already stands for another name, at its descriptor's code and its index there,
with its name, its identifier and the name the identifier stands for. -/
theorem nameTable_spec (ds : List Descriptor) :
    (∀ m, Descriptor.nameTable ds = .ok m ↔
      Operand.ClashFree (Descriptor.allOperands ds) ∧
        m.map (·.1) = ((Descriptor.allOperands ds).map (·.ident)).eraseDups ∧
        ∀ p ∈ m, firstName? (Descriptor.allOperands ds) p.1 = some p.2) ∧
    (∀ f, Descriptor.nameTable ds = .error f ↔
      ∃ pre s post, Descriptor.operandSites ds = pre ++ s :: post ∧
        Operand.ClashFree (pre.map (·.2.2)) ∧
        ∃ o ∈ pre.map (·.2.2), o.ident = s.2.2.ident ∧ o.name ≠ s.2.2.name ∧
          f = .malformed (.nameClash s.1 s.2.1 s.2.2.name s.2.2.ident o.name)) := by
  refine ⟨fun m => ⟨fun h => ?_, fun ⟨hfree, hkeys, hnames⟩ => ?_⟩,
    fun f => NameTable.foldlM_add_eq_error_iff _ f⟩
  · obtain ⟨hrec, hfree⟩ := Descriptor.nameTable_records h
    exact ⟨hfree, hrec.keys, hrec.firstName?_eq hfree⟩
  · -- the table that comes out records the operands, hence is the one described
    obtain ⟨t, ht⟩ := (Descriptor.nameTable_ok_iff ds).2 hfree
    obtain ⟨hrec, -⟩ := Descriptor.nameTable_records ht
    rw [ht, NameTable.eq_of_keys_eq (hrec.keys.trans hkeys.symm) (hrec.firstName?_eq hfree) hnames]

end OpcodeTable
