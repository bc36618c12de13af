import OpcodeTable.Proofs.DatasetChecks
import OpcodeTable.Proofs.RenderInjective
import OpcodeTable.Dataset.Basic
/-!
# Loading a dataset

Loading a dataset text has two stages. The document is read first, giving the members of its
opcode table as they are written (`readDocument`): a code written twice comes twice. The table
keeps each code once, at the place it first has, with the value written last (`Table.ofMembers`,
by `Table.put`: `codes_ofMembers`, `lookup_ofMembers`). Then the entries are decoded in the
table's order, and the first that does not decode is the fault, named by its code
(`ofTable_ok_iff`, `ofTable_error_iff`). Since the table has each code once, both read as
statements about the codes in order and the value each is written with last
(`ofMembers_exists_ok_iff`, `ofMembers_ok`, `ofMembers_error_iff`).

`ofText_spec` puts the two together. A document with an opcode table loads exactly when the value
each code has last decodes, into the codes in order of first appearance, each with its decoded
entry; otherwise it fails with the first code, in that order, whose value does not decode. A
malformed value that a later one replaces is never decoded. A document without an opcode table
is the fault `missingTable`.
-/

namespace OpcodeTable

open Json

namespace Table

/-! ## Setting a code -/

/-- The codes of a table. -/
abbrev codes (t : Table) : List String := t.map (·.1)

theorem any_code_eq_true_iff (t : Table) (k : String) : t.any (·.1 == k) = true ↔ k ∈ t.codes := by
  simp [List.any_eq_true]

/-- Setting a code that is there keeps the codes; a new code goes at the end. -/
theorem codes_put (t : Table) (k : String) (v : Value) :
    (t.put k v).codes = if k ∈ t.codes then t.codes else t.codes ++ [k] := by
  unfold put
  by_cases hk : k ∈ t.codes
  · rw [if_pos ((any_code_eq_true_iff t k).2 hk), if_pos hk]
    simp [Function.comp_def]
  · rw [if_neg (mt (any_code_eq_true_iff t k).1 hk), if_neg hk]
    simp

/-- Giving every member with code `k` the value `v`. -/
theorem lookup_map_set (t : Table) (k x : String) (v : Value) :
    (t.map fun m => (m.1, if m.1 == k then v else m.2)).lookup x =
      if x = k then (t.lookup x).map fun _ => v else t.lookup x := by
  induction t with
  | nil => split <;> rfl
  | cons m t ih =>
    obtain ⟨a, w⟩ := m
    simp only [List.map_cons, List.lookup_cons]
    by_cases hxa : x = a
    · subst hxa
      by_cases hxk : x = k <;> simp [hxk]
    · have hne : (x == a) = false := beq_eq_false_iff_ne.2 hxa
      simp only [hne, ih]

theorem lookup_isSome_iff (t : Table) (x : String) : (t.lookup x).isSome ↔ x ∈ t.codes := by
  simp only [List.lookup_isSome_iff, beq_iff_eq, codes, List.mem_map]
  exact ⟨fun ⟨p, hp, h⟩ => ⟨p, hp, h.symm⟩, fun ⟨p, hp, h⟩ => ⟨p, hp, h.symm⟩⟩

/-- After setting `k` to `v`, `k` has the value `v` and every other code keeps its own. -/
theorem lookup_put (t : Table) (k : String) (v : Value) (x : String) :
    (t.put k v).lookup x = if x = k then some v else t.lookup x := by
  unfold put
  by_cases hk : k ∈ t.codes
  · rw [if_pos ((any_code_eq_true_iff t k).2 hk)]
    erw [lookup_map_set]
    split
    · rename_i hxk
      subst hxk
      obtain ⟨w, hw⟩ := Option.isSome_iff_exists.1 ((lookup_isSome_iff t x).2 hk)
      simp [hw]
    · rfl
  · rw [if_neg (mt (any_code_eq_true_iff t k).1 hk), List.lookup_append]
    by_cases hxk : x = k
    · subst hxk
      have hnone : t.lookup x = none :=
        Option.not_isSome_iff_eq_none.1 (mt (lookup_isSome_iff t x).1 hk)
      simp [hnone]
    · have hne : (x == k) = false := beq_eq_false_iff_ne.2 hxk
      simp [hxk, hne, List.lookup_cons]

/-- A code that comes once in a table has the value of its one member. -/
theorem mem_iff_lookup {t : Table} (h : t.codes.Nodup) (m : String × Value) :
    m ∈ t ↔ t.lookup m.1 = some m.2 := by
  induction t with
  | nil => simp
  | cons p t ih =>
    obtain ⟨a, w⟩ := p
    simp only [codes, List.map_cons, List.nodup_cons] at h
    simp only [List.mem_cons, List.lookup_cons]
    by_cases hma : m.1 = a
    · -- the code is the head's, so it is no code of the rest
      have hnot : m ∉ t := fun hm => h.1 (hma ▸ List.mem_map_of_mem hm)
      simp only [hma, beq_self_eq_true, hnot, or_false, Option.some.injEq]
      constructor
      · rintro rfl
        rfl
      · intro hw
        exact Prod.ext hma hw.symm
    · have hne : (m.1 == a) = false := beq_eq_false_iff_ne.2 hma
      have hmw : m ≠ (a, w) := fun hm => hma (hm ▸ rfl)
      simp only [hne, hmw, false_or]
      exact ih h.2

/-! ## Setting the members in order -/

theorem ofMembers_append_singleton (ms : List (String × Value)) (m : String × Value) :
    ofMembers (ms ++ [m]) = (ofMembers ms).put m.1 m.2 := by
  simp [ofMembers, List.foldl_append]

/-- **Codes in order of first appearance.** The table of members written in order has each code
once, where it first comes. -/
theorem codes_ofMembers (ms : List (String × Value)) :
    (ofMembers ms).codes = (ms.map (·.1)).eraseDups := by
  induction ms using List.reverseRecOn with
  | nil => rfl
  | append_singleton ms m ih =>
    rw [ofMembers_append_singleton, codes_put, ih, List.map_append, List.map_singleton,
      List.eraseDups_append_singleton]
    simp only [List.mem_eraseDups]

/-- **The value written last.** In the table of members written in order, a code has the value
of its last member. -/
theorem lookup_ofMembers (ms : List (String × Value)) (x : String) :
    (ofMembers ms).lookup x = ms.reverse.lookup x := by
  induction ms using List.reverseRecOn with
  | nil => rfl
  | append_singleton ms m ih =>
    obtain ⟨k, w⟩ := m
    rw [ofMembers_append_singleton, lookup_put, ih, List.reverse_append, List.reverse_singleton,
      List.singleton_append, List.lookup_cons]
    by_cases hxk : x = k
    · simp [hxk]
    · simp [hxk, beq_eq_false_iff_ne.2 hxk]

theorem codes_ofMembers_nodup (ms : List (String × Value)) : (ofMembers ms).codes.Nodup := by
  rw [codes_ofMembers]
  exact List.nodup_eraseDups _

end Table

/-! ## Decoding the entries -/

namespace Dataset

theorem decodeEntry_ok_iff (code : String) (v : Value) (ce : String × Entry) :
    decodeEntry code v = .ok ce ↔ ce.1 = code ∧ Entry.decode v = .ok ce.2 := by
  unfold decodeEntry
  split <;> rename_i h
  · obtain ⟨c, e⟩ := ce
    simp [h, eq_comm]
  · simp [h]

theorem decodeEntry_error_iff (code : String) (v : Value) (f : Fault) :
    decodeEntry code v = .error f ↔
      ∃ err, Entry.decode v = .error err ∧ f = .malformed (.badEntry code err) := by
  unfold decodeEntry
  split <;> rename_i h <;> simp [h, eq_comm]

theorem map_mk_eq_ok_iff (x : Except Fault (List (String × Entry))) (D : Dataset) :
    Dataset.mk <$> x = .ok D ↔ x = .ok D.entries := by
  obtain ⟨entries⟩ := D
  cases x <;> simp [Functor.map, Except.map]

theorem map_mk_eq_error_iff (x : Except Fault (List (String × Entry))) (f : Fault) :
    Dataset.mk <$> x = .error f ↔ x = .error f := by
  cases x <;> simp [Functor.map, Except.map]

/-- A table decodes into the entries of its codes, in order, when every value decodes. -/
theorem ofTable_ok_iff (t : Table) (D : Dataset) :
    ofTable t = .ok D ↔
      List.Forall₂ (fun m e => e.1 = m.1 ∧ Entry.decode m.2 = .ok e.2) t D.entries := by
  rw [ofTable, map_mk_eq_ok_iff, List.mapM_except_ok_iff]
  simp only [decodeEntry_ok_iff]

/-- A table fails to decode with the first code, in order, whose value does not decode. -/
theorem ofTable_error_iff (t : Table) (f : Fault) :
    ofTable t = .error f ↔
      ∃ pre k v err post, t = pre ++ (k, v) :: post ∧ (∀ m ∈ pre, ∃ e, Entry.decode m.2 = .ok e) ∧
        Entry.decode v = .error err ∧ f = .malformed (.badEntry k err) := by
  rw [ofTable, map_mk_eq_error_iff, List.mapM_except_error_iff]
  constructor
  · rintro ⟨pre, ⟨k, v⟩, post, rfl, hpre, hx⟩
    obtain ⟨err, herr, rfl⟩ := (decodeEntry_error_iff k v f).1 hx
    refine ⟨pre, k, v, err, post, rfl, ?_, herr, rfl⟩
    rintro ⟨a, w⟩ hm
    obtain ⟨b, hb⟩ := hpre (a, w) hm
    exact ⟨b.2, ((decodeEntry_ok_iff a w b).1 hb).2⟩
  · rintro ⟨pre, k, v, err, post, rfl, hpre, herr, rfl⟩
    refine ⟨pre, (k, v), post, rfl, ?_, (decodeEntry_error_iff k v _).2 ⟨err, herr, rfl⟩⟩
    rintro ⟨a, w⟩ hm
    obtain ⟨e, he⟩ := hpre (a, w) hm
    exact ⟨(a, e), (decodeEntry_ok_iff a w (a, e)).2 ⟨rfl, he⟩⟩

/-! ## The entries a table decodes into -/

section Decoded

-- entries decoded member by member from the table
variable {t : Table} {es : List (String × Entry)}
  (h : List.Forall₂ (fun m e => e.1 = m.1 ∧ Entry.decode m.2 = .ok e.2) t es)
include h

/-- Entries decoded member by member keep the codes of the table. -/
theorem codes_of_decoded : es.map (·.1) = t.codes := by
  induction h with
  | nil => rfl
  | cons hm _ ih => simp [hm.1, ih]

/-- Entries decoded member by member give each code the decoding of its value. -/
theorem lookup_of_decoded (k : String) (e : Entry) :
    es.lookup k = some e ↔ ∃ v, t.lookup k = some v ∧ Entry.decode v = .ok e := by
  induction h with
  | nil => simp
  | @cons m d t' es' hm _ ih =>
    obtain ⟨a, w⟩ := m
    obtain ⟨b, e'⟩ := d
    obtain ⟨rfl, hw⟩ := hm
    by_cases hka : k = b
    · subst hka
      simp [hw, eq_comm]
    · simp [List.lookup_cons, beq_eq_false_iff_ne.2 hka, ih]

theorem decodes_of_decoded : ∀ m ∈ t, ∃ e, Entry.decode m.2 = .ok e := by
  induction h with
  | nil => simp
  | @cons m d t' es' hm _ ih =>
    intro x hx
    rcases List.mem_cons.1 hx with rfl | hx
    · exact ⟨d.2, hm.2⟩
    · exact ih x hx

end Decoded

/-- A table decodes exactly when the value of each of its members does. -/
theorem ofTable_exists_ok_iff (t : Table) :
    (∃ D, ofTable t = .ok D) ↔ ∀ m ∈ t, ∃ e, Entry.decode m.2 = .ok e := by
  constructor
  · rintro ⟨D, hD⟩
    exact decodes_of_decoded ((ofTable_ok_iff t D).1 hD)
  · intro h
    cases hr : ofTable t with
    | ok D => exact ⟨D, rfl⟩
    | error f =>
      -- the member the fault names decodes after all
      obtain ⟨pre, k, v, err, post, rfl, -, hv, -⟩ := (ofTable_error_iff _ f).1 hr
      obtain ⟨e, he⟩ := h (k, v) (by simp)
      rw [he] at hv
      cases hv

section Codes

variable {t : Table} (hnd : t.codes.Nodup)
include hnd

/-- In a table with each code once, a property of every member is one of every code's value. -/
theorem forall_mem_iff_codes (P : String → Value → Prop) :
    (∀ m ∈ t, P m.1 m.2) ↔ ∀ k ∈ t.codes, ∃ v, t.lookup k = some v ∧ P k v := by
  constructor
  · intro h k hk
    obtain ⟨m, hm, rfl⟩ := List.mem_map.1 hk
    exact ⟨m.2, (Table.mem_iff_lookup hnd m).1 hm, h m hm⟩
  · intro h m hm
    obtain ⟨v, hv, hp⟩ := h m.1 (List.mem_map_of_mem hm)
    rw [(Table.mem_iff_lookup hnd m).1 hm, Option.some.injEq] at hv
    exact hv ▸ hp

/-- In a table with each code once, decoding fails with the first code whose value does not
decode. -/
theorem ofTable_error_iff_codes (f : Fault) :
    ofTable t = .error f ↔
      ∃ pre k post v err, t.codes = pre ++ k :: post ∧
        (∀ x ∈ pre, ∃ w e, t.lookup x = some w ∧ Entry.decode w = .ok e) ∧
        t.lookup k = some v ∧ Entry.decode v = .error err ∧ f = .malformed (.badEntry k err) := by
  rw [ofTable_error_iff]
  constructor
  · rintro ⟨pre, k, v, err, post, rfl, hpre, hv, rfl⟩
    have hlook : ∀ m ∈ pre ++ (k, v) :: post, (pre ++ (k, v) :: post).lookup m.1 = some m.2 :=
      fun m hm => (Table.mem_iff_lookup hnd m).1 hm
    refine ⟨pre.map (·.1), k, post.map (·.1), v, err, by simp, ?_, hlook (k, v) (by simp), hv, rfl⟩
    intro x hx
    obtain ⟨m, hm, rfl⟩ := List.mem_map.1 hx
    obtain ⟨e, he⟩ := hpre m hm
    exact ⟨m.2, e, hlook m (by simp [hm]), he⟩
  · rintro ⟨pre, k, post, v, err, hcodes, hpre, hk, hv, rfl⟩
    obtain ⟨pre', rest, rfl, rfl, hrest⟩ := List.map_eq_append_iff.1 hcodes
    obtain ⟨m, post', rfl, rfl, rfl⟩ := List.map_eq_cons_iff.1 hrest
    -- the member at the failing code holds the value the code is looked up with
    have hm : m.2 = v := by
      rw [(Table.mem_iff_lookup hnd m).1 (by simp)] at hk
      exact Option.some.inj hk
    refine ⟨pre', m.1, v, err, post', by rw [← hm], fun y hy => ?_, hv, rfl⟩
    obtain ⟨w, e, hw, he⟩ := hpre y.1 (List.mem_map_of_mem hy)
    rw [(Table.mem_iff_lookup hnd y).1 (by simp [hy]), Option.some.injEq] at hw
    exact ⟨e, hw ▸ he⟩

end Codes

/-! ## From the members written to the dataset -/

section Members

variable (ms : List (String × Value))

/-- The members written load exactly when the value each code is written with last decodes. -/
theorem ofMembers_exists_ok_iff :
    (∃ D, ofTable (Table.ofMembers ms) = .ok D) ↔
      ∀ k ∈ ms.map (·.1), ∃ v e, ms.reverse.lookup k = some v ∧ Entry.decode v = .ok e := by
  rw [ofTable_exists_ok_iff]
  refine (forall_mem_iff_codes (Table.codes_ofMembers_nodup ms)
    fun _ v => ∃ e, Entry.decode v = .ok e).trans ?_
  simp only [Table.codes_ofMembers, List.mem_eraseDups, Table.lookup_ofMembers, exists_and_left]

/-- The members written load into their codes in order of first appearance, each with the
decoding of the value it is written with last. -/
theorem ofMembers_ok {D : Dataset} (h : ofTable (Table.ofMembers ms) = .ok D) :
    D.codes = (ms.map (·.1)).eraseDups ∧
      ∀ k e, D.entries.lookup k = some e ↔
        ∃ v, ms.reverse.lookup k = some v ∧ Entry.decode v = .ok e := by
  have hd := (ofTable_ok_iff _ D).1 h
  refine ⟨?_, fun k e => ?_⟩
  · rw [Dataset.codes, codes_of_decoded hd, Table.codes_ofMembers]
  · rw [lookup_of_decoded hd]
    simp only [Table.lookup_ofMembers]

/-- The members written fail to load with the first code, in order of first appearance, whose
last value does not decode. -/
theorem ofMembers_error_iff (f : Fault) :
    ofTable (Table.ofMembers ms) = .error f ↔
      ∃ pre k post v err, (ms.map (·.1)).eraseDups = pre ++ k :: post ∧
        (∀ x ∈ pre, ∃ w e, ms.reverse.lookup x = some w ∧ Entry.decode w = .ok e) ∧
        ms.reverse.lookup k = some v ∧ Entry.decode v = .error err ∧
        f = .malformed (.badEntry k err) := by
  rw [ofTable_error_iff_codes (Table.codes_ofMembers_nodup ms), Table.codes_ofMembers]
  simp only [Table.lookup_ofMembers]

end Members

theorem ofText_of_members {text : String} {ms : List (String × Value)}
    (h : readDocument text = .ok (some ms)) : ofText text = ofTable (Table.ofMembers ms) := by
  rw [ofText, h]

theorem ofText_of_none {text : String} (h : readDocument text = .ok none) :
    ofText text = .error (.malformed .missingTable) := by
  rw [ofText, h]

/-- **Loading a dataset.** When the document has an opcode table, written as the members `ms`,
it loads exactly when the value each code is written with last decodes; the dataset then has
each code once, in order of first appearance, with the decoding of that last value. Otherwise
loading fails at `cbprefixed.k`, for the first code `k` in that order whose last value does not
decode. A document without an opcode table is refused as having none, at the place `dataset`. -/
theorem ofText_spec (text : String) :
    (∀ ms, readDocument text = .ok (some ms) →
      ((∃ D, ofText text = .ok D) ↔
          ∀ k ∈ ms.map (·.1), ∃ v e, ms.reverse.lookup k = some v ∧ Entry.decode v = .ok e) ∧
      (∀ D, ofText text = .ok D →
          D.codes = (ms.map (·.1)).eraseDups ∧
          ∀ k e, D.entries.lookup k = some e ↔
            ∃ v, ms.reverse.lookup k = some v ∧ Entry.decode v = .ok e) ∧
      ∀ f, ofText text = .error f ↔
          ∃ pre k post v err, (ms.map (·.1)).eraseDups = pre ++ k :: post ∧
            (∀ x ∈ pre, ∃ w e, ms.reverse.lookup x = some w ∧ Entry.decode w = .ok e) ∧
            ms.reverse.lookup k = some v ∧ Entry.decode v = .error err ∧
            f = .malformed (.badEntry k err) ∧
            (Malformation.badEntry k err).context = "cbprefixed." ++ k) ∧
    (readDocument text = .ok none →
      ofText text = .error (.malformed .missingTable) ∧
        Malformation.missingTable.context = "dataset" ∧
        Malformation.missingTable.reason = "missing `cbprefixed` table") := by
  refine ⟨fun ms h => ?_, fun h => ⟨ofText_of_none h, rfl, rfl⟩⟩
  rw [ofText_of_members h]
  refine ⟨ofMembers_exists_ok_iff ms, fun D => ofMembers_ok ms, fun f => ?_⟩
  rw [ofMembers_error_iff]
  simp only [Malformation.context, and_true]

/-! ## What the members decode to -/

/-- The members written, each value replaced by the entry it decodes to, when it does. Unlike
the values, these can be compared, so a document read in the kernel is checked through them. -/
def decodedMembers (ms : List (String × Value)) : List (String × Option Entry) :=
  ms.map fun m => (m.1, (Entry.decode m.2).toOption)

@[simp] theorem codes_decodedMembers (ms : List (String × Value)) :
    (decodedMembers ms).map (·.1) = ms.map (·.1) := by
  simp [decodedMembers, Function.comp_def]

theorem decodedMembers_reverse (ms : List (String × Value)) :
    decodedMembers ms.reverse = (decodedMembers ms).reverse :=
  List.map_reverse ..

theorem lookup_decodedMembers (ms : List (String × Value)) (k : String) :
    (decodedMembers ms).lookup k = (ms.lookup k).map fun v => (Entry.decode v).toOption := by
  induction ms with
  | nil => rfl
  | cons m ms ih =>
    obtain ⟨a, w⟩ := m
    by_cases hka : k = a
    · subst hka
      simp [decodedMembers]
    · have hne : (k == a) = false := beq_eq_false_iff_ne.2 hka
      simpa [decodedMembers, List.lookup_cons, hne] using ih

/-- The value a code is written with last, read off what the members decode to. -/
theorem lastValue_of_decodedMembers {ms : List (String × Value)} {k : String} {r : Option Entry}
    (h : (decodedMembers ms).reverse.lookup k = some r) :
    ∃ v, ms.reverse.lookup k = some v ∧ (Entry.decode v).toOption = r := by
  rwa [← decodedMembers_reverse, lookup_decodedMembers, Option.map_eq_some_iff] at h

theorem lastValue_decodes_of_decodedMembers {ms : List (String × Value)} {k : String} {e : Entry}
    (h : (decodedMembers ms).reverse.lookup k = some (some e)) :
    ∃ v, ms.reverse.lookup k = some v ∧ Entry.decode v = .ok e := by
  obtain ⟨v, hv, he⟩ := lastValue_of_decodedMembers h
  exact ⟨v, hv, Except.toOption_eq_some_iff.1 he⟩

theorem lastValue_fails_of_decodedMembers {ms : List (String × Value)} {k : String}
    (h : (decodedMembers ms).reverse.lookup k = some none) :
    ∃ v err, ms.reverse.lookup k = some v ∧ Entry.decode v = .error err := by
  obtain ⟨v, hv, he⟩ := lastValue_of_decodedMembers h
  cases hd : Entry.decode v with
  | error err => exact ⟨v, err, hv, hd⟩
  | ok e => simp [hd, Except.toOption] at he

/-- A document read to what its members decode to was read to members with those decodings. -/
theorem exists_read_of_decoded {text : String} {o : Option (List (String × Option Entry))}
    (h : (readDocument text).toOption.map (Option.map decodedMembers) = some o) :
    ∃ r, readDocument text = .ok r ∧ r.map decodedMembers = o := by
  cases hr : readDocument text with
  | error e => simp [hr, Except.toOption] at h
  | ok r => exact ⟨r, rfl, by simpa [hr, Except.toOption] using h⟩

/-- The entry of a `NOP`: one byte, four cycles, no operands, no flag touched. -/
def nopEntry : Entry := ⟨"NOP", 1, [4], [], false, ⟨"-", "-", "-", "-"⟩⟩

/-- A table whose code `0x01` is first written with the malformed value `1`, then `0x00` and
`0x01` with a `NOP`: `{"cbprefixed": {"0x01": 1, "0x00": NOP, "0x01": NOP}}`. -/
def repeatedCodeText : String :=
  "\x7b\"cbprefixed\":\x7b\"0x01\":1,\"0x00\":\x7b\"mnemonic\":\"NOP\",\"bytes\":1,\"cycles\":[4],\"operands\":[],\"immediate\":false,\"flags\":\x7b\"Z\":\"-\",\"N\":\"-\",\"H\":\"-\",\"C\":\"-\"\x7d\x7d,\"0x01\":\x7b\"mnemonic\":\"NOP\",\"bytes\":1,\"cycles\":[4],\"operands\":[],\"immediate\":false,\"flags\":\x7b\"Z\":\"-\",\"N\":\"-\",\"H\":\"-\",\"C\":\"-\"\x7d\x7d\x7d\x7d"

/-- A table whose code `0x03` is first written with `1` and last with a `NOP`, and whose codes
`0x02` and `0x01` have the malformed values `true` and `2`:
`{"cbprefixed": {"0x03": 1, "0x02": true, "0x03": NOP, "0x01": 2}}`. -/
def faultyCodesText : String :=
  "\x7b\"cbprefixed\":\x7b\"0x03\":1,\"0x02\":true,\"0x03\":\x7b\"mnemonic\":\"NOP\",\"bytes\":1,\"cycles\":[4],\"operands\":[],\"immediate\":false,\"flags\":\x7b\"Z\":\"-\",\"N\":\"-\",\"H\":\"-\",\"C\":\"-\"\x7d\x7d,\"0x01\":2\x7d\x7d"

/-- **Loading, on tables with members.** `repeatedCodeText` loads: its malformed first value
for `0x01` is replaced, the codes keep their first places, `0x01` before `0x00`, and `0x01` has
the `NOP` written last. `faultyCodesText` fails at `0x02`: not at `0x03`, whose malformed first
value is replaced, nor at `0x01`, which comes first by key but last by appearance. A `null`
table is missing. -/
theorem loading_keeps_first_places_and_last_values :
    (∃ D, ofText repeatedCodeText = .ok D ∧ D.codes = ["0x01", "0x00"] ∧
      D.entries.lookup "0x01" = some nopEntry) ∧
    (∃ err, ofText faultyCodesText = .error (.malformed (.badEntry "0x02" err))) ∧
    ofText "\x7b\"cbprefixed\":null\x7d" = .error (.malformed .missingTable) := by
  -- the documents are read in the kernel and compared through what their members decode to
  obtain ⟨r₁, hdoc₁, hr₁⟩ : ∃ r, readDocument repeatedCodeText = .ok r ∧
      r.map decodedMembers =
        some [("0x01", none), ("0x00", some nopEntry), ("0x01", some nopEntry)] :=
    exists_read_of_decoded (by decide +kernel)
  obtain ⟨ms₁, rfl, hdec₁⟩ := Option.map_eq_some_iff.1 hr₁
  obtain ⟨r₂, hdoc₂, hr₂⟩ : ∃ r, readDocument faultyCodesText = .ok r ∧
      r.map decodedMembers =
        some [("0x03", none), ("0x02", none), ("0x03", some nopEntry), ("0x01", none)] :=
    exists_read_of_decoded (by decide +kernel)
  obtain ⟨ms₂, rfl, hdec₂⟩ := Option.map_eq_some_iff.1 hr₂
  obtain ⟨r₃, hnull, hr₃⟩ :
      ∃ r, readDocument "\x7b\"cbprefixed\":null\x7d" = .ok r ∧ r.map decodedMembers = none :=
    exists_read_of_decoded (by decide +kernel)
  rw [Option.map_eq_none_iff] at hr₃
  subst hr₃
  refine ⟨?_, ?_, ((ofText_spec _).2 hnull).1⟩
  · -- every code of the first table is last written with a NOP
    obtain ⟨hok, hloaded, -⟩ := (ofText_spec _).1 ms₁ hdoc₁
    have hcodes : ms₁.map (·.1) = ["0x01", "0x00", "0x01"] := by
      rw [← codes_decodedMembers, hdec₁]
      rfl
    have hnop : ∀ k ∈ ms₁.map (·.1), ∃ v, ms₁.reverse.lookup k = some v ∧
        Entry.decode v = .ok nopEntry := by
      intro k hk
      have hlast : (decodedMembers ms₁).reverse.lookup k = some (some nopEntry) := by
        rw [hcodes] at hk
        rw [hdec₁]
        simp only [List.mem_cons, List.not_mem_nil, or_false] at hk
        rcases hk with rfl | rfl | rfl <;> rfl
      exact lastValue_decodes_of_decodedMembers hlast
    obtain ⟨D, hD⟩ := hok.2 fun k hk => by
      obtain ⟨v, hv, he⟩ := hnop k hk
      exact ⟨v, nopEntry, hv, he⟩
    obtain ⟨hDcodes, hlookup⟩ := hloaded D hD
    refine ⟨D, hD, by rw [hDcodes, hcodes]; decide, (hlookup "0x01" nopEntry).2 ?_⟩
    exact hnop "0x01" (by simp [hcodes])
  · -- `0x03` is last written with a NOP, and `0x02` is the first code whose last value fails
    obtain ⟨-, -, hfault⟩ := (ofText_spec _).1 ms₂ hdoc₂
    have hcodes : (ms₂.map (·.1)).eraseDups = ["0x03", "0x02", "0x01"] := by
      rw [← codes_decodedMembers, hdec₂]
      decide
    have hlast₃ : (decodedMembers ms₂).reverse.lookup "0x03" = some (some nopEntry) := by
      rw [hdec₂]
      rfl
    have hlast₂ : (decodedMembers ms₂).reverse.lookup "0x02" = some none := by
      rw [hdec₂]
      rfl
    obtain ⟨v₃, hv₃, he₃⟩ := lastValue_decodes_of_decodedMembers hlast₃
    obtain ⟨v₂, err, hv₂, herr⟩ := lastValue_fails_of_decodedMembers hlast₂
    refine ⟨err, (hfault _).2
      ⟨["0x03"], "0x02", ["0x01"], v₂, err, hcodes, ?_, hv₂, herr, rfl, rfl⟩⟩
    intro x hx
    rw [List.mem_singleton.1 hx]
    exact ⟨v₃, nopEntry, hv₃, he₃⟩

end Dataset

end OpcodeTable
