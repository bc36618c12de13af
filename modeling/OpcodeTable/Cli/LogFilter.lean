import OpcodeTable.Cli.Directive
/-!
# Log filters

A filter is a comma-separated list of directives (`Cli.Directive`); empty items are skipped.
The directives are read from left to right, and the first that does not read stops the
reading with its fault: a malformed directive makes the whole filter malformed.

Directives that name no span and ask for no field value are *static*: for an event or a span,
the most specific static directive whose target is a prefix of its target (and, for an event,
whose field names the event has) decides, by its level alone. More specific means a longer
target, then more field names; of two directives alike in both, the later is kept.

The other directives are *dynamic*: they apply to the spans they name (and whose field values
they match), and inside such a span the most verbose of their levels lets events through.

An event is shown only when its level is within the most verbose level that any directive
allows (every level, when some directive asks for a field value), and a static directive or
the level of the span it is in lets it through.
-/

namespace OpcodeTable.Cli

namespace Directive

/-- Whether the directive names a span or fields. -/
def isDynamic (d : Directive) : Bool := d.span.isSome || !d.fields.isEmpty

/-- Whether the directive names no span and asks for no field value. -/
def isStatic (d : Directive) : Bool := d.span.isNone && d.fields.all (·.value.isNone)

/-- Whether the directive asks for a field value. -/
def hasValues (d : Directive) : Bool := d.fields.any (·.value.isSome)

/-- Whether the directive applies to a span: the target is a prefix of the span's, the name is
the span's, and the span has every field named. -/
def appliesTo (d : Directive) (s : Span) : Bool :=
  (d.target.all fun t => s.target.startsWith t) &&
    (d.span.all (· == s.name)) &&
    d.fields.all fun r => s.fields.any (·.1 == r.name)

/-- Whether the span's fields have the values asked for; of rules for one field the last
counts. -/
def matchesValues (d : Directive) (s : Span) : Bool :=
  let valued := d.fields.filter (·.value.isSome)
  valued.all fun r =>
    match valued.reverse.find? (·.name == r.name), s.fields.lookup r.name with
    | some last, some n => last.allowsCount n
    | _, _ => false

/-- Whether two directives differ only in their level. -/
def sameScope (d e : Directive) : Bool :=
  d.target == e.target && d.span == e.span && d.fields == e.fields

end Directive

/-- A directive that applies wherever its target and field names fit. -/
structure StaticRule where
  target : Option String
  fieldNames : List String
  level : LevelFilter
deriving Repr, DecidableEq

namespace StaticRule

/-- Compares texts in byte order. -/
def compareText (s t : String) : Ordering := compare s t

/-- Compares lists of texts lexicographically. -/
def compareTexts : List String → List String → Ordering
  | [], [] => .eq
  | [], _ :: _ => .lt
  | _ :: _, [] => .gt
  | s :: ss, t :: ts => (compareText s t).then (compareTexts ss ts)

/-- Compares optional texts, the missing one first. -/
def compareTarget : Option String → Option String → Ordering
  | none, none => .eq
  | none, some _ => .lt
  | some _, none => .gt
  | some s, some t => compareText s t

/-- The order rules are tried in: the more specific first (a longer target, then more field
names), and otherwise by target and field names, later in byte order first. -/
def order (a b : StaticRule) : Ordering :=
  ((compare (a.target.map String.length) (b.target.map String.length)).then
    ((compare a.fieldNames.length b.fieldNames.length).then
      ((compareTarget a.target b.target).then (compareTexts a.fieldNames b.fieldNames)))).swap

/-- Puts a rule in its place; a rule alike in target and field names is replaced. -/
def insert (r : StaticRule) : List StaticRule → List StaticRule
  | [] => [r]
  | x :: xs =>
    match order x r with
    | .lt => x :: insert r xs
    | .eq => r :: xs
    | .gt => r :: x :: xs

/-- Whether the rule applies to a target with these field names; fields count for events
only. -/
def appliesTo (r : StaticRule) (target : String) (fieldNames : Option (List String)) : Bool :=
  (r.target.all fun t => target.startsWith t) &&
    match fieldNames with
    | some names => r.fieldNames.all (names.contains ·)
    | none => true

end StaticRule

/-- The static form of a directive. -/
def Directive.toStatic (d : Directive) : StaticRule := ⟨d.target, d.fields.map (·.name), d.level⟩

/-- A filter, ready to decide. -/
structure Filter where
  /-- Static rules, the most specific first. -/
  statics : List StaticRule
  /-- The most verbose level any static directive had. -/
  staticMax : LevelFilter
  /-- Dynamic directives, none two alike but in level. -/
  dynamics : List Directive
  /-- The most verbose level any dynamic directive had. -/
  dynamicMax : LevelFilter

namespace Filter

/-- Adds a dynamic directive; one alike but in level is replaced. -/
def addDynamic (ds : List Directive) (d : Directive) : List Directive :=
  if ds.any (·.sameScope d) then ds.map fun e => if e.sameScope d then d else e else ds ++ [d]

/-- The filter of a list of directives. -/
def ofDirectives (ds : List Directive) : Filter :=
  let dyns := ds.filter Directive.isDynamic
  let rules := (ds.filter (!·.isDynamic) ++ dyns.filter Directive.isStatic).map Directive.toStatic
  { statics := rules.foldl (fun acc r => StaticRule.insert r acc) []
    staticMax := rules.foldl (fun m r => m.max r.level) .off
    dynamics := dyns.foldl addDynamic []
    dynamicMax := dyns.foldl (fun m d => m.max d.level) .off }

/-- The filter written in a text, or the fault of its first directive that does not read. -/
def read (s : String) : Except Directive.Fault Filter :=
  (((s.splitOn ",").filter (· != "")).mapM Directive.read).map ofDirectives

/-- The filter that lets through every level up to `l`. -/
def upTo (l : Level) : Filter := ofDirectives [⟨.upTo l, none, none, []⟩]

/-- The most verbose level the filter can let through anywhere. -/
def ceiling (f : Filter) : LevelFilter :=
  if f.dynamics.any Directive.hasValues then .upTo .trace else f.staticMax.max f.dynamicMax

/-- Whether the first static rule that applies lets the level through. -/
def staticAllows (f : Filter) (target : String) (fieldNames : Option (List String))
    (l : Level) : Bool :=
  match f.statics.find? (·.appliesTo target fieldNames) with
  | some r => r.level.allows l
  | none => false

/-- Whether some dynamic directive applies to a span. -/
def tracksSpan (f : Filter) (s : Span) : Bool := f.dynamics.any (·.appliesTo s)

/-- Whether a span is recorded. -/
def spanEnabled (f : Filter) (s : Span) : Bool :=
  f.ceiling.allows s.level && (f.tracksSpan s || f.staticAllows s.target none s.level)

/-- The level a span lets through inside it: the most verbose of the dynamic directives that
apply to it and whose values it matches. -/
def spanLevel (f : Filter) (s : Span) : LevelFilter :=
  (f.dynamics.filter fun d => d.appliesTo s && d.matchesValues s).foldl
    (fun m d => m.max d.level) .off

/-- Whether an event is shown. -/
def eventEnabled (f : Filter) (e : Event) : Bool :=
  let inScope := match e.span with
    | some s => f.spanEnabled s && f.tracksSpan s && (f.spanLevel s).allows e.level
    | none => false
  f.ceiling.allows e.level &&
    (f.staticAllows e.target (some e.fieldNames) e.level ||
      (!f.dynamics.isEmpty && f.dynamicMax.allows e.level && inScope))

/-- The lines of the events the filter shows, each with its span when that was recorded. -/
def lines (f : Filter) (es : List Event) : String :=
  String.join ((es.filter f.eventEnabled).map fun e =>
    e.line (e.span.any f.spanEnabled))

end Filter

example : (Filter.ofDirectives [⟨.upTo .debug, none, none, []⟩, ⟨.off, some "core", none, []⟩,
    ⟨.upTo .info, none, none, []⟩]).statics.map (·.level) = [.off, .upTo .info] := by
  decide +kernel

end OpcodeTable.Cli
