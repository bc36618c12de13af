import OpcodeTable.Text.Quoted
/-!
# Log events and their lines

A run reports its progress as events: a level, a target (the module that speaks), a message
and named fields. An event may happen inside a span, a named stretch of work with fields of its
own. A line reads `LEVEL span{fields}: target: message key=value ...`; the span part is there
only when the span was recorded, and its braces only when it has fields.

A level filter is `off` or lets through every level up to a most verbose one; levels are
ordered from `error`, the least verbose, to `trace`.
-/

namespace OpcodeTable.Cli

/-- How important an event is. -/
inductive Level where
  | error
  | warn
  | info
  | debug
  | trace
deriving Repr, DecidableEq

namespace Level

/-- Levels by verbosity: `error` is 1, `trace` is 5. -/
def rank : Level → Nat
  | error => 1
  | warn => 2
  | info => 3
  | debug => 4
  | trace => 5

/-- The name of a level in log lines. -/
def name : Level → String
  | error => "ERROR"
  | warn => "WARN"
  | info => "INFO"
  | debug => "DEBUG"
  | trace => "TRACE"

end Level

/-- How verbose a filter is: nothing, or every level up to a most verbose one. -/
inductive LevelFilter where
  | off
  | upTo (l : Level)
deriving Repr, DecidableEq

namespace LevelFilter

/-- Filters by verbosity: `off` is 0. -/
def rank : LevelFilter → Nat
  | off => 0
  | upTo l => l.rank

/-- Whether the filter lets a level through. -/
def allows (f : LevelFilter) (l : Level) : Bool := l.rank ≤ f.rank

/-- The more verbose of two filters. -/
def max (f g : LevelFilter) : LevelFilter := if f.rank < g.rank then g else f

/-- The filter of a verbosity rank; ranks above 5 are none. -/
def ofRank? : Nat → Option LevelFilter
  | 0 => some off
  | 1 => some (upTo .error)
  | 2 => some (upTo .warn)
  | 3 => some (upTo .info)
  | 4 => some (upTo .debug)
  | 5 => some (upTo .trace)
  | _ => none

theorem rank_ofRank? (f : LevelFilter) : ofRank? f.rank = some f := by
  cases f with
  | off => rfl
  | upTo l => cases l <;> rfl

end LevelFilter

/-- The value of an event's field, with how it is written. -/
inductive FieldValue where
  /-- A count, in decimal. -/
  | count (n : Nat)
  /-- Text written quoted, with escapes. -/
  | quoted (s : String)
  /-- Text written as it is. -/
  | plain (s : String)
deriving Repr, DecidableEq

/-- How a field value is written. -/
def FieldValue.text : FieldValue → String
  | .count n => toString n
  | .quoted s => Text.quote s
  | .plain s => s

/-- A named stretch of work. Its fields are counts. -/
structure Span where
  name : String
  target : String
  level : Level
  fields : List (String × Nat)
deriving Repr, DecidableEq

/-- Something a run reports. -/
structure Event where
  level : Level
  target : String
  message : String
  fields : List (String × FieldValue)
  /-- The span the event happens in, if any. -/
  span : Option Span
deriving Repr, DecidableEq

/-- The names of an event's fields; the message is a field too. -/
def Event.fieldNames (e : Event) : List String := "message" :: e.fields.map (·.1)

/-- Fields as `key=value`, separated by spaces. -/
def fieldsText (fs : List (String × String)) : String :=
  " ".intercalate (fs.map fun (k, v) => k ++ "=" ++ v)

/-- The span part of a line: the name, the fields in braces if any, and a colon. -/
def Span.prefix (s : Span) : String :=
  s.name ++ (if s.fields.isEmpty then "" else
    "\x7b" ++ fieldsText (s.fields.map fun (k, n) => (k, toString n)) ++ "\x7d") ++ ": "

/-- The line of an event; `spanShown` says whether its span was recorded. -/
def Event.line (e : Event) (spanShown : Bool) : String :=
  let spanPart := match e.span with
    | some s => if spanShown then s.prefix else ""
    | none => ""
  let fields := e.fields.map fun (k, v) => " " ++ k ++ "=" ++ v.text
  e.level.name ++ " " ++ spanPart ++ e.target ++ ": " ++ e.message ++ String.join fields ++ "\n"

example : Event.line ⟨.debug, "core", "Loaded", [("entries", .count 2)],
    some ⟨"load", "core", .debug, [("len", 5)]⟩⟩ true =
    "DEBUG load\x7blen=5\x7d: core: Loaded entries=2\n" := by decide

end OpcodeTable.Cli
