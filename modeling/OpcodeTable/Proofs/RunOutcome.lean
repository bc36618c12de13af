import OpcodeTable.Proofs.EntryChecks
import OpcodeTable.Proofs.RenderFaults
import OpcodeTable.Cli.Run
/-!
# How a run ends

`Cli.runIn` runs the program in a working directory. Once its log filter is read, a run checks
that the input exists, loads the dataset, generates the table and writes the text, and it stops
at the first step that fails. Here the end of a run is told from those steps alone:

* `Options.Generates`: the input exists, its dataset loads, and the table is generated as a
  given text, with the table name and the types the options ask for;
* `Options.Writes`: the text is written to the output file, or to standard output;
* `run_exit_status`: a run ends with status 0 exactly when all of these succeed, and then the
  text is in the output file and standard output is empty, or the text is on standard output;
  when a step before the writing fails, the status is not 0, standard output is empty and the
  directory is as it was. A log filter that the logging library cannot read stops the run before
  it reads anything (`runIn_stops`); with no filter written in the environment that never
  happens (`Filter.forRun_unset`).

A table name is checked when the arguments are read (`Reading.NamesValid`, kept by every step of
the reading, `readArgs_namesValid`), so generating never meets a bad table name
(`generate_ne_badTableName`).
-/

namespace OpcodeTable.Cli

/-! ## Table names on the command line -/

/-- A value passes its check unchanged, and a table name passes only when it is an
identifier. -/
theorem checkValue_ok {a : Arg} {v v' : String} (h : checkValue a v = .ok v') :
    v' = v ∧ (a = .tableName → Ident.isValid v = true) := by
  cases a with
  | tableName =>
    -- refused unless it is an identifier
    simp only [checkValue] at h
    split at h
    · rename_i hvalid
      cases h
      exact ⟨rfl, fun _ => hvalid⟩
    · cases h
  | input | output =>
    -- refused when empty
    simp only [checkValue] at h
    split at h
    · cases h
    · cases h
      exact ⟨rfl, nofun⟩
  | debug | verbose | withTypes | help | version =>
    simp only [checkValue, Except.ok.injEq] at h
    exact ⟨h.symm, nofun⟩

namespace Reading

/-- Every table name read so far is an identifier. -/
def NamesValid (r : Reading) : Prop :=
  ∀ v, (Arg.tableName, some v) ∈ r.given → Ident.isValid v = true

theorem namesValid_start : start.NamesValid := by
  simp [NamesValid, start]

theorem namesValid_of_given {r r' : Reading} (hr : r.NamesValid) (h : r'.given = r.given) :
    r'.NamesValid := by
  unfold NamesValid
  rw [h]
  exact hr

/-- Recording an option keeps what was read, drops it, or adds the option with no value or with a
value that passed its check. -/
theorem mem_given_take {r : Reading} {a : Arg} {vals : List String} {p : Arg × Option String}
    (hp : p ∈ (r.take a vals).1.given) :
    p ∈ r.given ∨ p = (a, none) ∨ ∃ v v', checkValue a v = .ok v' ∧ p = (a, some v') := by
  unfold take at hp
  split at hp
  · exact .inl hp
  · exact .inl hp
  · split at hp
    · exact .inl hp
    split at hp
    · exact .inl (List.mem_filter.1 hp).1
    split at hp
    · split at hp
      · rename_i v' hcheck
        rcases List.mem_append.1 hp with hp | hp
        · exact .inl hp
        · exact .inr (.inr ⟨_, v', hcheck, List.mem_singleton.1 hp⟩)
      · rcases List.mem_append.1 hp with hp | hp
        · exact .inl hp
        · exact .inr (.inl (List.mem_singleton.1 hp))
    · rcases List.mem_append.1 hp with hp | hp
      · exact .inl hp
      · exact .inr (.inl (List.mem_singleton.1 hp))

theorem NamesValid.take {r : Reading} (hr : r.NamesValid) (a : Arg) (vals : List String) :
    (r.take a vals).1.NamesValid := by
  intro v hv
  rcases mem_given_take hv with h | h | ⟨v₀, v', hcheck, h⟩
  · exact hr v h
  · cases h
  · simp only [Prod.mk.injEq, Option.some.injEq] at h
    obtain ⟨rfl, rfl⟩ := h
    obtain ⟨rfl, hvalid⟩ := checkValue_ok hcheck
    exact hvalid rfl

theorem NamesValid.settle {r : Reading} (hr : r.NamesValid) : r.settle.1.NamesValid := by
  unfold Reading.settle
  split
  · exact hr
  · exact @NamesValid.take { r with pending := none, awaiting := none } hr _ _

theorem NamesValid.react {r : Reading} (hr : r.NamesValid) (a : Arg) (vals : List String) :
    (r.react a vals).1.NamesValid := by
  have hs := hr.settle
  unfold Reading.react
  rcases hsettle : r.settle with ⟨r', _ | s⟩
  · rw [hsettle] at hs
    exact NamesValid.take hs a vals
  · rw [hsettle] at hs
    exact hs

theorem NamesValid.await {r : Reading} (hr : r.NamesValid) (a : Arg) :
    (r.await a).1.NamesValid := by
  have hs := hr.settle
  unfold Reading.await
  rcases hsettle : r.settle with ⟨r', _ | s⟩
  · rw [hsettle] at hs
    exact namesValid_of_given hs rfl
  · rw [hsettle] at hs
    exact hs

theorem NamesValid.unknown {r : Reading} (hr : r.NamesValid) (arg : String) :
    (r.unknown arg).1.NamesValid :=
  hr.settle

theorem NamesValid.shorts {r : Reading} (hr : r.NamesValid) (cs : List Char) :
    (r.shorts cs).1.NamesValid := by
  induction cs generalizing r with
  | nil => exact hr
  | cons c rest ih =>
    unfold Reading.shorts
    split
    · exact hr.unknown _
    · rename_i a _
      split
      · -- a flag: recorded, then the group goes on
        have hreact := hr.react a []
        rcases hrc : r.react a [] with ⟨r', _ | s⟩
        · rw [hrc] at hreact
          exact ih hreact
        · rw [hrc] at hreact
          exact hreact
      · split
        · exact hr.await a
        · exact hr.react a _
        · exact hr.react a _

theorem NamesValid.longFlag {r : Reading} (hr : r.NamesValid) (name : String)
    (value : Option String) : (r.longFlag name value).1.NamesValid := by
  unfold Reading.longFlag
  split
  · split
    · exact hr.react _ _
    · exact hr.settle
  · split
    · exact hr.await _
    · exact hr.react _ _
  · exact hr.settle

/-- **Reading one argument keeps every table name an identifier.** -/
theorem NamesValid.step {r : Reading} (hr : r.NamesValid) (arg : String) :
    (r.step arg).1.NamesValid := by
  unfold Reading.step
  split
  · exact hr.unknown arg
  split
  · exact namesValid_of_given hr rfl
  split
  · split
    · exact hr.longFlag _ _
    · exact hr.longFlag _ _
  split
  · exact hr.shorts _
  split
  · exact namesValid_of_given hr rfl
  · exact hr.unknown arg

theorem value?_mem {r : Reading} {a : Arg} {v : String} (h : r.value? a = some v) :
    (a, some v) ∈ r.given := by
  unfold value? at h
  obtain ⟨p, hp, hv⟩ := Option.bind_eq_some_iff.1 h
  have hmem := List.mem_of_find?_eq_some hp
  have ha : p.1 = a := by simpa using List.find?_some hp
  rw [show p = (a, some v) from Prod.ext ha hv] at hmem
  exact hmem

end Reading

/-- **Reading the arguments keeps every table name an identifier**, so a run is only ever asked
for a table name that is one. -/
theorem readArgs_namesValid {r : Reading} {args : List String} {o : Options}
    (hr : r.NamesValid) (h : readArgs r args = .run o) :
    ∀ n, o.tableName = some n → Ident.isValid n = true := by
  induction args generalizing r with
  | nil =>
    have hs := hr.settle
    unfold readArgs at h
    rcases hsettle : r.settle with ⟨r', _ | s⟩
    · rw [hsettle] at h hs
      cases h
      exact fun n hn => hs n (Reading.value?_mem hn)
    · rw [hsettle] at h
      cases s <;> cases h
  | cons arg rest ih =>
    have hs := hr.step arg
    unfold readArgs at h
    rcases hstep : r.step arg with ⟨r', _ | s⟩
    · rw [hstep] at h hs
      exact ih hs h
    · rw [hstep] at h
      cases s <;> cases h

/-! ## A table name is never the fault -/

/-- An entry is never refused for a table name. -/
theorem Entry.firstFault_ne_badTableName (code : String) (e : Entry) (n : String) :
    e.firstFault code ≠ some (.badTableName n) := by
  by_cases hpass : Ident.isValid e.mnemonic = true ∧ e.bytes ≠ 0 ∧ e.cycles.length ∈ [1, 2]
  · -- past the entry's own checks: an operand's fault or a flag's
    obtain ⟨hm, hb, hc⟩ := hpass
    rw [Entry.firstFault_of_passing hm hb hc]
    cases EntryOperand.firstBad? 0 e.operands with
    | some p => simp
    | none => cases e.flags.firstBad? <;> simp
  · obtain ⟨m, -, hff⟩ := Descriptor.ofEntry_of_not_passing code hpass
    simp [hff]

/-- The operand name table is never refused for a table name. -/
theorem nameTable_ne_badTableName (ds : List Descriptor) (n : String) :
    Descriptor.nameTable ds ≠ .error (.badTableName n) := by
  intro h
  rw [Descriptor.nameTable] at h
  obtain ⟨_, _, _, _, _, _, _, _, _, hf⟩ := (NameTable.foldlM_add_eq_error_iff _ _).1 h
  cases hf

/-- A dataset is never refused for a table name. -/
theorem ofDataset_ne_badTableName (d : Dataset) (n : String) :
    Descriptor.ofDataset d ≠ .error (.badTableName n) := by
  intro h
  rcases Except.bind_eq_error_iff.1 h with hentries | ⟨ds, -, hnames⟩
  · obtain ⟨-, code, e, -, -, -, hentry⟩ := Dataset.ofEntries_error_iff.1 hentries
    exact Entry.firstFault_ne_badTableName code e n
      ((Descriptor.ofEntry_eq_error_iff code e _).1 hentry)
  · rcases Except.bind_eq_error_iff.1 hnames with hclash | ⟨t, -, hpure⟩
    · exact nameTable_ne_badTableName ds n hclash
    · cases hpure

/-- Generating with a table name that is an identifier is never refused for the name. -/
theorem generate_ne_badTableName {o : Render.Options}
    (hname : ∀ n, o.tableName = some n → Ident.isValid n = true) (d : Dataset) (n : String) :
    Render.generate d o ≠ .error (.badTableName n) := by
  intro h
  rcases Except.bind_eq_error_iff.1 h with hds | ⟨ds, -, htable⟩
  · exact ofDataset_ne_badTableName d n hds
  · rcases (Render.table_fault_iff ds o _).1 htable with ⟨n', hn', hbad, -⟩ | ⟨-, -, hclash⟩
    · simp [hname n' hn'] at hbad
    · exact nameTable_ne_badTableName ds n hclash

/-! ## The end of a run -/

namespace Options

/-- What reading the input of a run in `w` gives. -/
def inputIn (o : Options) (w : Workspace) : Except FileError ByteArray :=
  (w.readAt (w.locate o.input)).map fun bytes => ByteArray.mk bytes.toArray

/-- The input of a run in `w` exists, its dataset loads, and its table is generated as `text`, with
the table name and the types the options ask for. -/
def Generates (o : Options) (w : Workspace) (text : String) : Prop :=
  w.existsAt (w.locate o.input) = true ∧
    ∃ d, Dataset.ofFile o.input (o.inputIn w) = .ok d ∧
      Render.generate d ⟨o.tableName, o.withTypes⟩ = .ok text

/-- Writing `text` at the end of a run in `w` succeeds and leaves `w'`: into the output file, or
onto standard output, which takes no text once it is full. -/
def Writes (o : Options) (w : Workspace) (stdoutFull : Bool) (text : String) (w' : Workspace) :
    Prop :=
  o.output.elim ((stdoutFull = false ∨ text = "") ∧ w' = w)
    fun out => w.writeAt (w.locate out) text.toUTF8.toList = .ok w'

theorem result_eq_ok_iff (o : Options) (w : Workspace) (text : String) :
    o.result (w.existsAt (w.locate o.input)) (o.inputIn w) = .ok text ↔ o.Generates w text := by
  unfold result Generates
  cases w.existsAt (w.locate o.input) with
  | false => simp
  | true =>
    simp only [Bool.not_true, Bool.false_eq_true, if_false, true_and]
    cases Dataset.ofFile o.input (o.inputIn w) with
    | error f => simp
    | ok d =>
      simp only [Except.ok.injEq, exists_eq_left']
      cases Render.generate d ⟨o.tableName, o.withTypes⟩ <;> simp [Except.mapError]

/-- A run generates one text at most. -/
theorem generates_unique {o : Options} {w : Workspace} {text text' : String}
    (h : o.Generates w text) (h' : o.Generates w text') : text' = text := by
  rw [← result_eq_ok_iff] at h h'
  rw [h] at h'
  cases h'
  rfl

end Options

/-- With no filter written in the environment, the log filter is always read. -/
theorem Filter.forRun_unset (o : Options) : ∃ f, Filter.forRun o none = .ok f := by
  unfold Filter.forRun
  split_ifs <;> simp

variable {args : List String} {o : Options} {w : Workspace} {logFilter : Option String}
  (stdoutFull : Bool)

/-- What a run does after reading its filter comes to the result of its steps, with the events
it logged on the way. -/
theorem produce_of_result {result : Except Report String}
    (hr : o.result (w.existsAt (w.locate o.input)) (o.inputIn w) = result) :
    ∃ events, produce o (w.existsAt (w.locate o.input))
      ((w.readAt (w.locate o.input)).map fun bytes => ByteArray.mk bytes.toArray) =
        (events, result) := by
  refine ⟨(produce o (w.existsAt (w.locate o.input)) (o.inputIn w)).1, ?_⟩
  rw [← hr, ← produce_snd]
  rfl

/-- A log filter that cannot be read stops the run before anything is read or written. -/
theorem runIn_stops (h : Request.ofArgs args = .run o) {c : Text.CharCut}
    (hc : Filter.forRun o logFilter = .error c) :
    runIn w args logFilter stdoutFull = (stoppedAt c, w) := by
  simp [runIn, h, hc]

/-- Once the log filter is read, a run that does not come to its text ends with status 1, nothing
on standard output, and the directory as it was. -/
theorem runIn_fails (h : Request.ofArgs args = .run o) {filter : Filter}
    (hf : Filter.forRun o logFilter = .ok filter) {report : Report}
    (hr : o.result (w.existsAt (w.locate o.input)) (o.inputIn w) = .error report) :
    (runIn w args logFilter stdoutFull).1.status = 1 ∧
      (runIn w args logFilter stdoutFull).1.stdout = "" ∧ (runIn w args logFilter stdoutFull).2 = w := by
  obtain ⟨events, hprod⟩ := produce_of_result hr
  simp [runIn, h, hf, hprod, failed]

/-- Once the log filter is read, a run that comes to its text ends with status 0 exactly when the
text is written, and then the text is in the output file, or on standard output. -/
theorem runIn_generates (h : Request.ofArgs args = .run o) {filter : Filter}
    (hf : Filter.forRun o logFilter = .ok filter) {text : String}
    (hr : o.result (w.existsAt (w.locate o.input)) (o.inputIn w) = .ok text) :
    ((runIn w args logFilter stdoutFull).1.status = 0 ↔ ∃ w', o.Writes w stdoutFull text w') ∧
    ∀ w', o.Writes w stdoutFull text w' →
      (runIn w args logFilter stdoutFull).1.stdout = (if o.output.isNone then text else "") ∧
      (runIn w args logFilter stdoutFull).2 = w' := by
  obtain ⟨events, hprod⟩ := produce_of_result hr
  -- the run now only writes: to the output file, or to standard output
  unfold Options.Writes
  cases hout : o.output with
  | some out =>
    cases hw : w.writeAt (w.locate out) text.toUTF8.toList with
    | error e =>
      simp only [String.toUTF8_eq_toByteArray] at hw
      simp [runIn, h, hf, hprod, hout, hw, conclude, failed]
    | ok w' =>
      simp only [String.toUTF8_eq_toByteArray] at hw
      simp [runIn, h, hf, hprod, hout, hw, conclude]
  | none =>
    by_cases hfull : stdoutFull = true ∧ text ≠ ""
    · obtain ⟨rfl, hne⟩ := hfull
      simp [runIn, h, hf, hprod, hout, conclude, failed, hne]
    · simp only [not_and, ne_eq, Decidable.not_not] at hfull
      cases stdoutFull <;> simp_all [runIn, conclude]

/-- A run whose log filter cannot be read, or that does not come to its text, ends with a status
other than 0, nothing on standard output, and the directory as it was. -/
theorem runIn_unfinished (h : Request.ofArgs args = .run o)
    (hno : (¬ ∃ f, Filter.forRun o logFilter = .ok f) ∨ ¬ ∃ text, o.Generates w text) :
    (runIn w args logFilter stdoutFull).1.status ≠ 0 ∧
      (runIn w args logFilter stdoutFull).1.stdout = "" ∧ (runIn w args logFilter stdoutFull).2 = w := by
  cases hf : Filter.forRun o logFilter with
  | error c => simp [runIn_stops stdoutFull h hf, stoppedAt]
  | ok f =>
    have hgen : ¬ ∃ text, o.Generates w text := hno.resolve_left (not_not.2 ⟨f, hf⟩)
    cases hr : o.result (w.existsAt (w.locate o.input)) (o.inputIn w) with
    | error report =>
      obtain ⟨hstatus, hout, hdir⟩ := runIn_fails stdoutFull h hf hr
      exact ⟨by simp [hstatus], hout, hdir⟩
    | ok text => exact absurd ⟨text, (Options.result_eq_ok_iff o w text).1 hr⟩ hgen

/-- **How a run ends.** Take arguments that the program reads as a run, any working directory,
any log filter in the environment, and standard output full or not. Once the log filter is read
(always, when none is written in the environment), the run ends with status 0 exactly when its
input exists, its dataset loads, its table is generated with the name and the types asked for,
and the text is written; the text is then in the output file, with nothing on standard output,
or on standard output. When the log filter cannot be read, or a step before the writing fails,
the status is not 0, nothing is on standard output, and the directory, output file included, is
as it was. The table name is never what fails: it was checked when the arguments were read. -/
theorem run_exit_status (h : Request.ofArgs args = .run o) (w : Workspace)
    (logFilter : Option String) (stdoutFull : Bool) :
    let r := runIn w args logFilter stdoutFull
    ((∃ f, Filter.forRun o logFilter = .ok f) →
      (r.1.status = 0 ↔ ∃ text w', o.Generates w text ∧ o.Writes w stdoutFull text w') ∧
      ∀ text w', o.Generates w text → o.Writes w stdoutFull text w' →
        r.1.stdout = (if o.output.isNone then text else "") ∧ r.2 = w') ∧
    ((¬ (∃ f, Filter.forRun o logFilter = .ok f) ∨ ¬ ∃ text, o.Generates w text) →
      r.1.status ≠ 0 ∧ r.1.stdout = "" ∧ r.2 = w) ∧
    (∃ f, Filter.forRun o none = .ok f) ∧
    ∀ d n, Render.generate d ⟨o.tableName, o.withTypes⟩ ≠ .error (.badTableName n) := by
  intro r
  have hname := readArgs_namesValid Reading.namesValid_start h
  refine ⟨fun ⟨f, hf⟩ => ?_, runIn_unfinished stdoutFull h, Filter.forRun_unset o,
    generate_ne_badTableName hname⟩
  -- the log filter is read: the run comes to its text, or not
  cases hr : o.result (w.existsAt (w.locate o.input)) (o.inputIn w) with
  | error report =>
    have hno : ¬ ∃ text, o.Generates w text := fun ⟨text, ht⟩ => by
      rw [← Options.result_eq_ok_iff, hr] at ht
      cases ht
    exact ⟨⟨fun h0 => absurd h0 (runIn_unfinished stdoutFull h (.inr hno)).1,
      fun ⟨text, _, ht, _⟩ => absurd ⟨text, ht⟩ hno⟩, fun text _ ht _ => absurd ⟨text, ht⟩ hno⟩
  | ok text =>
    have hgen := (Options.result_eq_ok_iff o w text).1 hr
    obtain ⟨hstatus, hwrite⟩ := runIn_generates stdoutFull h hf hr
    refine ⟨hstatus.trans ⟨fun ⟨w', hw⟩ => ⟨text, w', hgen, hw⟩, fun ⟨text', w', ht', hw⟩ => ?_⟩,
      fun text' w' ht' hw => ?_⟩
    · obtain rfl := Options.generates_unique hgen ht'
      exact ⟨w', hw⟩
    · obtain rfl := Options.generates_unique hgen ht'
      exact hwrite w' hw

/-- The arguments `-i d.json -o out.rs` are read as a run, and with no log filter in the
environment that run ends with status 0 exactly when its table is generated and written to
`out.rs`. -/
theorem run_exit_status_to_file :
    Request.ofArgs ["-i", "d.json", "-o", "out.rs"] =
        .run ⟨false, false, "d.json", some "out.rs", none, false⟩ ∧
      ((runIn Workspace.empty ["-i", "d.json", "-o", "out.rs"] none false).1.status = 0 ↔
        ∃ text w', Options.Generates ⟨false, false, "d.json", some "out.rs", none, false⟩
            Workspace.empty text ∧
          Options.Writes ⟨false, false, "d.json", some "out.rs", none, false⟩ Workspace.empty false
            text w') := by
  have hreq : Request.ofArgs ["-i", "d.json", "-o", "out.rs"] =
      .run ⟨false, false, "d.json", some "out.rs", none, false⟩ := by
    decide +kernel
  exact ⟨hreq, ((run_exit_status hreq Workspace.empty none false).1 (Filter.forRun_unset _)).1⟩

end OpcodeTable.Cli
