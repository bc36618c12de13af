import OpcodeTable.Cli.Arguments
import OpcodeTable.Cli.LogFilter
import OpcodeTable.Render.Table
import OpcodeTable.Workspace
/-!
# A run of the program

A run reads the dataset at the input path, turns it into source text and writes the text to
the output file, or to standard output. It stops at the first failure:

1. an input path that does not exist;
2. a dataset that cannot be read or loaded;
3. a dataset whose table cannot be generated;
4. text that cannot be written.

Each failure is reported as `Error: <what failed>`, then, under `Caused by:`, the causes from
the outermost in; two or more causes are numbered. Nothing is written after a failure.

Along the way the run reports events; the log filter picks those written before the report.
`produce` gives the events and the text from what reading the input gave, and `conclude` the
outcome from what writing the text gave, so the same steps serve a run on a real file system
and `runIn` on a `Workspace`.
-/

namespace OpcodeTable.Cli

/-- An error report: what failed, and the causes, outermost first. -/
structure Report where
  context : String
  causes : List String
deriving Repr, DecidableEq

/-- A text right-aligned in `width` columns. -/
def alignRight (width : Nat) (s : String) : String :=
  String.ofList (List.replicate (width - s.length) ' ') ++ s

/-- One cause under `Caused by:`, on a new line; the lines of a cause line up with its first. -/
def causeLine (numbered : Bool) (n : Nat) (cause : String) : String :=
  if numbered then "\n" ++ alignRight 5 (toString n) ++ ": " ++ cause.replace "\n" "\n       "
  else "\n    " ++ cause.replace "\n" "\n    "

/-- The text of a report. -/
def Report.text (r : Report) : String :=
  "Error: " ++ r.context ++
    (if r.causes.isEmpty then "" else
      "\n\nCaused by:" ++
        String.join (r.causes.zipIdx.map fun (c, n) => causeLine (r.causes.length > 1) n c)) ++
    "\n"

/-- The report of a fault, under the step that failed: the fault, then what it comes from. -/
def Report.ofFault (context : String) (f : Fault) : Report :=
  ⟨context, f.message :: (f.source?.map FileError.message).toList⟩

/-- What the program logs as. -/
def programTarget : String := "sm83_opgen"

/-- The module that loads datasets. -/
def datasetTarget : String := "opgen_core::dataset"

/-- The module that checks entries. -/
def transformTarget : String := "opgen_core::transform"

/-- The module that renders tables. -/
def renderTarget : String := "opgen_core::render"

/-- Loading a text of `len` bytes. -/
def loadSpan (len : Nat) : Span := ⟨"from_json", datasetTarget, .debug, [("len", len)]⟩

/-- Checking a table of `n` entries. -/
def transformSpan (n : Nat) : Span := ⟨"transform_table", transformTarget, .debug, [("entries", n)]⟩

/-- Rendering `n` descriptors. -/
def renderSpan (n : Nat) : Span := ⟨"render_table", renderTarget, .debug, [("count", n)]⟩

/-- Loads the dataset at `path` from what reading it gave, with the events of loading. -/
def loadEvents (path : String) (contents : Except FileError ByteArray) :
    List Event × Except Fault Dataset :=
  match contents with
  | .error e => ([], .error (.unreadableFile path e))
  | .ok bytes =>
    match String.fromUTF8? bytes with
    | none => ([], .error (.unreadableFile path .notText))
    | some text =>
      match Dataset.ofText text with
      | .ok d =>
        ([⟨.debug, datasetTarget, "Loaded opcode dataset", [("entries", .count d.size)],
          some (loadSpan text.utf8ByteSize)⟩], .ok d)
      | .error f => ([], .error f)

theorem loadEvents_snd (path : String) (contents : Except FileError ByteArray) :
    (loadEvents path contents).2 = Dataset.ofFile path contents := by
  unfold loadEvents Dataset.ofFile
  cases contents with
  | error e => rfl
  | ok bytes =>
    simp only
    cases String.fromUTF8? bytes with
    | none => rfl
    | some text =>
      simp only
      cases Dataset.ofText text <;> rfl

/-- The event of checking one entry. -/
def entryEvent (span : Span) (code : String) (e : Entry) : Event :=
  ⟨.trace, transformTarget, "Transforming entry",
    [("code", .quoted code), ("mnemonic", .plain e.mnemonic)], some span⟩

/-- Checks entries in order, with an event for each entry checked, up to the first that
fails. -/
def checkEntries (span : Span) : List (String × Entry) → List Event × Except Fault (List Descriptor)
  | [] => ([], .ok [])
  | (code, e) :: rest =>
    match Descriptor.ofEntry code e with
    | .error f => ([entryEvent span code e], .error f)
    | .ok d =>
      let (evs, r) := checkEntries span rest
      (entryEvent span code e :: evs, r.map (d :: ·))

theorem checkEntries_snd (span : Span) (entries : List (String × Entry)) :
    (checkEntries span entries).2 = Descriptor.ofEntries entries := by
  induction entries with
  | nil => rfl
  | cons head rest ih =>
    obtain ⟨code, e⟩ := head
    simp only [checkEntries, Descriptor.ofEntries, List.mapM_cons] at ih ⊢
    cases Descriptor.ofEntry code e with
    | error f => rfl
    | ok d =>
      simp only [ih]
      cases List.mapM (fun x => Descriptor.ofEntry x.1 x.2) rest <;> rfl

/-- Turns a dataset into descriptors, with the events of checking it. -/
def transformEvents (d : Dataset) : List Event × Except Fault (List Descriptor) :=
  let span := transformSpan d.size
  let (evs, r) := checkEntries span d.entries
  match r with
  | .error f => (evs, .error f)
  | .ok ds =>
    match Descriptor.nameTable ds with
    | .error f => (evs, .error f)
    | .ok _ =>
      (evs ++ [⟨.debug, transformTarget, "Transformed opcode table",
        [("count", .count ds.length)], some span⟩], .ok ds)

theorem transformEvents_snd (d : Dataset) :
    (transformEvents d).2 = Descriptor.ofDataset d := by
  have h := checkEntries_snd (transformSpan d.size) d.entries
  unfold transformEvents Descriptor.ofDataset
  dsimp only
  rcases hc : checkEntries (transformSpan d.size) d.entries with ⟨evs, r⟩
  rw [hc] at h
  dsimp only at h
  subst h
  cases Descriptor.ofEntries d.entries with
  | error f => rfl
  | ok ds =>
    dsimp only [bind, Except.bind]
    cases Descriptor.nameTable ds <;> rfl

/-- Renders descriptors, with the event of rendering them. -/
def renderEvents (ds : List Descriptor) (o : Render.Options) : List Event × Except Fault String :=
  match Render.table ds o with
  | .ok text =>
    ([⟨.debug, renderTarget, "Rendered opcode table", [("bytes", .count text.utf8ByteSize)],
      some (renderSpan ds.length)⟩], .ok text)
  | .error f => ([], .error f)

theorem renderEvents_snd (ds : List Descriptor) (o : Render.Options) :
    (renderEvents ds o).2 = Render.table ds o := by
  unfold renderEvents
  cases Render.table ds o <;> rfl

/-- The events and the source text of a run, from whether the input exists and what reading
it gave. -/
def produce (o : Options) (found : Bool) (contents : Except FileError ByteArray) :
    List Event × Except Report String :=
  if !found then ([], .error ⟨"dataset not found: " ++ o.input, []⟩) else
  let (loadEvs, loaded) := loadEvents o.input contents
  match loaded with
  | .error f => (loadEvs, .error (.ofFault ("Failed to load dataset from " ++ o.input) f))
  | .ok d =>
    let evs := loadEvs ++ [⟨.debug, programTarget, "Dataset loaded",
      [("entries", .count d.size), ("path", .plain o.input)], none⟩]
    let generateFailed := Report.ofFault ("Failed to generate opcode table from " ++ o.input)
    let (checkEvs, checked) := transformEvents d
    match checked with
    | .error f => (evs ++ checkEvs, .error (generateFailed f))
    | .ok ds =>
      let (renderEvs, rendered) := renderEvents ds ⟨o.tableName, o.withTypes⟩
      match rendered with
      | .error f => (evs ++ checkEvs ++ renderEvs, .error (generateFailed f))
      | .ok text =>
        (evs ++ checkEvs ++ renderEvs ++ [⟨.info, programTarget, "Generated opcode table",
          [("entries", .count d.size)], none⟩], .ok text)

/-- The source text of a run, or its report, from the library alone: a missing input, then
loading, then generating. -/
def Options.result (o : Options) (found : Bool) (contents : Except FileError ByteArray) :
    Except Report String :=
  if !found then .error ⟨"dataset not found: " ++ o.input, []⟩ else
  match Dataset.ofFile o.input contents with
  | .error f => .error (.ofFault ("Failed to load dataset from " ++ o.input) f)
  | .ok d =>
    (Render.generate d ⟨o.tableName, o.withTypes⟩).mapError
      (Report.ofFault ("Failed to generate opcode table from " ++ o.input))

theorem produce_snd (o : Options) (found : Bool) (contents : Except FileError ByteArray) :
    (produce o found contents).2 = o.result found contents := by
  unfold produce Options.result
  cases found with
  | false => rfl
  | true =>
    simp only [Bool.not_true, Bool.false_eq_true, if_false]
    have hl := loadEvents_snd o.input contents
    rcases hle : loadEvents o.input contents with ⟨loadEvs, loaded⟩
    rw [hle] at hl
    dsimp only at hl
    subst hl
    cases Dataset.ofFile o.input contents with
    | error f => rfl
    | ok d =>
      dsimp only
      have ht := transformEvents_snd d
      rcases hte : transformEvents d with ⟨checkEvs, checked⟩
      rw [hte] at ht
      dsimp only at ht
      subst ht
      unfold Render.generate
      cases Descriptor.ofDataset d with
      | error f => rfl
      | ok ds =>
        simp only [bind, Except.bind]
        have hr := renderEvents_snd ds ⟨o.tableName, o.withTypes⟩
        rcases hre : renderEvents ds ⟨o.tableName, o.withTypes⟩ with ⟨renderEvs, rendered⟩
        rw [hre] at hr
        dsimp only at hr
        subst hr
        cases Render.table ds ⟨o.tableName, o.withTypes⟩ <;> rfl

/-- The filter of a run: `--verbose` lets everything through, `--debug` all but trace, and
otherwise the filter written in the environment, or warnings and errors when it is missing or
malformed. Reading the written filter may stop at a cut inside a character. -/
def Filter.forRun (o : Options) (written : Option String) : Except Text.CharCut Filter :=
  if o.verbose then .ok (.upTo .trace)
  else if o.debug then .ok (.upTo .debug)
  else match written.map Filter.read with
    | some (.ok f) => .ok f
    | some (.error (.charCut c)) => .error c
    | _ => .ok (.upTo .warn)

/-- What a run prints and how it ends. -/
structure Outcome where
  status : Nat
  stdout : String
  stderr : String
deriving Repr, DecidableEq

/-- The outcome of a run that stopped before writing. -/
def failed (log : String) (r : Report) : Outcome := ⟨1, "", log ++ r.text⟩

/-- The outcome of a run that wrote its text to `output` (standard output when none), from
the failure writing met, if any. -/
def conclude (log : String) (output : Option String) (text : String)
    (failure : Option FileError) : Outcome :=
  let place := output.getD "stdout"
  match failure with
  | some e => failed log ⟨"Failed to write output to " ++ place, [e.message]⟩
  | none => ⟨0, if output.isNone then text else "", log⟩

/-- The outcome of printing help or version on standard output: the text is lost when standard
output is full, and the run still succeeds. -/
def shown (text : String) (stdoutFull : Bool) : Outcome := ⟨0, if stdoutFull then "" else text, ""⟩

/-- The place in its sources that the program names when it stops at a cut inside a
character of its log filter. -/
def cutStopPlace : String :=
  "/usr/local/cargo/registry/src/index.crates.io-1949cf8c6b5b557f/" ++
    "tracing-subscriber-0.3.23/src/filter/env/directive.rs:274:33"

/-- The outcome of a run that stops while reading its log filter, at a cut inside a character:
nothing is read or written, and the run ends with status 101. -/
def stoppedAt (c : Text.CharCut) : Outcome :=
  ⟨101, "", "thread \x27main\x27 panicked at " ++ cutStopPlace ++ ":\n" ++ c.message ++
    "\nnote: run with `RUST_BACKTRACE=1` environment variable to display a backtrace\n"⟩

/-- The outcome of a usage error. -/
def UsageError.outcome (e : UsageError) : Outcome := ⟨2, "", e.message⟩

/-- A run in a working directory: the arguments, the log filter written in the environment,
and whether standard output is full. It gives the outcome and the directory afterwards. -/
def runIn (w : Workspace) (args : List String) (logFilter : Option String) (stdoutFull : Bool) :
    Outcome × Workspace :=
  match Request.ofArgs args with
  | .help => (shown helpText stdoutFull, w)
  | .version => (shown versionText stdoutFull, w)
  | .usage e => (e.outcome, w)
  | .run o =>
    match Filter.forRun o logFilter with
    | .error c => (stoppedAt c, w)
    | .ok filter =>
      let input := w.locate o.input
      let contents := (w.readAt input).map fun bytes => ByteArray.mk bytes.toArray
      let (events, result) := produce o (w.existsAt input) contents
      let log := filter.lines events
      match result with
      | .error report => (failed log report, w)
      | .ok text =>
        match o.output with
        | some out =>
          match w.writeAt (w.locate out) text.toUTF8.toList with
          | .ok w' => (conclude log o.output text none, w')
          | .error e => (conclude log o.output text (some e), w)
        | none =>
          let failure := if stdoutFull && !text.isEmpty then some .noSpace else none
          (conclude log none text failure, w)

end OpcodeTable.Cli
