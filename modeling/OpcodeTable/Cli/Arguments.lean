import OpcodeTable.Ident
import OpcodeTable.Text.Similarity
/-!
# The command line

The program takes only options: `--debug`, `--verbose`, `--input <DATASET>` (short `-i`),
`--output <OUT_PATH>` (short `-o`), `--table-name <NAME>`, `--with-types`, `--help` (short `-h`)
and `--version` (short `-V`). `Request.ofArgs` reads the arguments in order:

* `--name value`, `--name=value`, `-i value`, `-ivalue` and `-i=value` give an option its value;
  short flags may be grouped (`-hV`);
* an option takes the next argument as its value unless it looks like a flag; its value is
  checked when the next flag is read or the arguments end: an empty path, or a table name that
  is no identifier, is refused;
* an argument given twice, a flag given a value, an unknown flag, and any argument that is not
  an option (also everything after `--`) stop the reading with a usage error;
* help and version stop the reading as soon as they are read.

An unknown long flag that is close to a known one (Jaro similarity above 0.7) is met with a
suggestion. A usage line lists the options read so far, or `[OPTIONS]`.
-/

namespace OpcodeTable.Cli

/-- The name of the program in usage lines. -/
def programName : String := "sm83-opgen"

/-- The name and version the program reports. -/
def versionText : String := "opgen-cli 0.1.0\n"

/-- What the program is, first line of its help. -/
def about : String := "Command line interface for the sm83-opgen project"

/-- The dataset read when no input is given. -/
def defaultInput : String := "data/sm83-opcodes.json"

/-- An option of the command line. -/
inductive Arg where
  | debug
  | verbose
  | input
  | output
  | tableName
  | withTypes
  | help
  | version
deriving Repr, DecidableEq

namespace Arg

/-- The options, in the order help lists them. -/
def all : List Arg := [debug, verbose, input, output, tableName, withTypes, help, version]

/-- The long name. -/
def long : Arg → String
  | debug => "debug"
  | verbose => "verbose"
  | input => "input"
  | output => "output"
  | tableName => "table-name"
  | withTypes => "with-types"
  | help => "help"
  | version => "version"

/-- The short name, if any. -/
def short? : Arg → Option Char
  | input => some 'i'
  | output => some 'o'
  | help => some 'h'
  | version => some 'V'
  | _ => none

/-- The name of the value an option takes, if it takes one. -/
def valueName? : Arg → Option String
  | input => some "DATASET"
  | output => some "OUT_PATH"
  | tableName => some "NAME"
  | _ => none

/-- The help line of an option. -/
def helpText : Arg → String
  | debug => "Enable debug output (for troubleshooting and development)"
  | verbose => "Enable verbose output (traces every opcode entry)"
  | input => "Path to the opcode dataset (JSON) [default: " ++ defaultInput ++ "]"
  | output => "Write the generated source here instead of stdout"
  | tableName => "Wrap the literals in `pub const <NAME>: &[Opcode] = &[ .. ];`"
  | withTypes => "Prepend the type definitions the literals refer to"
  | help => "Print help"
  | version => "Print version"

/-- Whether the option takes a value. -/
def takesValue (a : Arg) : Bool := a.valueName?.isSome

/-- Whether the option is one of the program's own settings, which form one group; help and
version are not. -/
def inGroup : Arg → Bool
  | help | version => false
  | _ => true

/-- How messages name an option: its long name and its value. -/
def display (a : Arg) : String :=
  "--" ++ a.long ++ match a.valueName? with
    | some v => " <" ++ v ++ ">"
    | none => ""

/-- The option with a long name. -/
def ofLong? (name : String) : Option Arg := all.find? (·.long == name)

/-- The option with a short name. -/
def ofShort? (c : Char) : Option Arg := all.find? (·.short? == some c)

theorem ofLong?_long (a : Arg) : ofLong? a.long = some a := by
  cases a <;> decide

theorem ofShort?_short (a : Arg) (c : Char) (h : a.short? = some c) : ofShort? c = some a := by
  cases a <;> simp only [short?, reduceCtorEq, Option.some.injEq] at h <;> subst h <;> decide

end Arg

/-- The help text: what the program is, its usage, and a line per option, the descriptions
aligned two spaces after the longest option. -/
def helpText : String :=
  let spec (a : Arg) : String :=
    (match a.short? with
     | some c => "-" ++ String.singleton c ++ ", "
     | none => "    ") ++ a.display
  let width := (Arg.all.map fun a => (spec a).length).foldl max 0
  let line (a : Arg) : String :=
    "  " ++ spec a ++ String.ofList (List.replicate (width - (spec a).length + 2) ' ') ++
      a.helpText ++ "\n"
  about ++ "\n\nUsage: " ++ programName ++ " [OPTIONS]\n\nOptions:\n" ++
    String.join (Arg.all.map line)

/-- The settings of a run. -/
structure Options where
  debug : Bool
  verbose : Bool
  input : String
  output : Option String
  tableName : Option String
  withTypes : Bool
deriving Repr, DecidableEq

/-- Why the command line cannot be used. -/
inductive UsageError where
  /-- An argument that is no option; `similar` is a known option close to it. -/
  | unknownArgument (arg : String) (similar : Option Arg) (used : List Arg)
  /-- An option without its value. -/
  | missingValue (arg : Arg)
  /-- An option given twice. -/
  | repeated (arg : Arg)
  /-- A flag given a value, after the options `given` were recorded. -/
  | unexpectedValue (value : String) (arg : Arg) (given : List Arg)
  /-- A value the option refuses. -/
  | invalidValue (value : String) (arg : Arg) (reason : String)
deriving Repr, DecidableEq

/-- The usage line, listing the options read so far. -/
def usageLine (used : List Arg) : String :=
  "Usage: " ++ programName ++ " " ++
    (if used.isEmpty then "[OPTIONS]" else " ".intercalate (used.eraseDups.map Arg.display))

/-- The group of the program's own settings, as a usage line names it. -/
def groupText : String :=
  "<" ++ "|".intercalate ((Arg.all.filter Arg.inGroup).map Arg.display) ++ ">"

/-- The usage line after a flag given a value: once an option of the group is recorded, the
group stands for its members, after the other options named. -/
def groupedUsageLine (given : List Arg) (flag : Arg) : String :=
  let grouped := !given.isEmpty
  let shown := (given ++ [flag]).eraseDups.filter fun a => !(grouped && a.inGroup)
  "Usage: " ++ programName ++ " " ++
    " ".intercalate (shown.map Arg.display ++ if grouped then [groupText] else [])

/-- The closing line of every usage error. -/
def moreInformation : String := "\n\nFor more information, try '--help'.\n"

/-- The text of a usage error. -/
def UsageError.message : UsageError → String
  | .unknownArgument arg similar used =>
    "error: unexpected argument '" ++ arg ++ "' found\n\n" ++
      (match similar with
       | some a => "  tip: a similar argument exists: '--" ++ a.long ++ "'\n\n"
       | none => "") ++
      usageLine used ++ moreInformation
  | .missingValue a =>
    "error: a value is required for '" ++ a.display ++ "' but none was supplied" ++ moreInformation
  | .repeated a =>
    "error: the argument '" ++ a.display ++ "' cannot be used multiple times\n\n" ++
      usageLine [] ++ moreInformation
  | .unexpectedValue v a given =>
    "error: unexpected value '" ++ v ++ "' for '" ++ a.display ++
      "' found; no more were expected\n\n" ++ groupedUsageLine given a ++ moreInformation
  | .invalidValue v a reason =>
    "error: invalid value '" ++ v ++ "' for '" ++ a.display ++ "': " ++ reason ++ moreInformation

/-- The known option closest to an unknown long name, if one is close enough: the greatest
similarity above 0.7, the later option on a tie. -/
def suggest (name : String) : Option Arg :=
  let score (a : Arg) := Text.jaro name.toList a.long.toList
  Arg.all.foldl (fun best a =>
    if score a > 0.7 then
      match best with
      | some b => if score a < score b then some b else some a
      | none => some a
    else best) none

/-- Checks the value of an option. -/
def checkValue (a : Arg) (v : String) : Except UsageError String :=
  match a with
  | .tableName =>
    if Ident.isValid v then .ok v
    else .error (.invalidValue v a ("`" ++ v ++ "` is not a valid Rust identifier"))
  | .input | .output => if v.isEmpty then .error (.missingValue a) else .ok v
  | _ => .ok v

/-- Why reading the arguments stops early. -/
inductive Stop where
  | help
  | version
  | usage (e : UsageError)
deriving Repr

/-- The state of reading the arguments. -/
structure Reading where
  /-- The options read so far, in the order first read, with their values. -/
  given : List (Arg × Option String)
  /-- An option whose value is still to be checked, with the values collected for it. -/
  pending : Option (Arg × List String)
  /-- An option that takes the next argument as its value. -/
  awaiting : Option Arg
  /-- Whether `--` has been read. -/
  trailing : Bool
deriving Repr

namespace Reading

/-- Nothing read yet. -/
def start : Reading := ⟨[], none, none, false⟩

/-- Whether an option has been read. -/
def has (r : Reading) (a : Arg) : Bool := r.given.any (·.1 == a)

/-- The options read so far, in order. -/
def used (r : Reading) : List Arg := r.given.map (·.1)

/-- The value of an option, if it has one. -/
def value? (r : Reading) (a : Arg) : Option String :=
  (r.given.find? (·.1 == a)).bind (·.2)

/-- Records an option with its values. An option read before is forgotten and refused. -/
def take (r : Reading) (a : Arg) (vals : List String) : Reading × Option Stop :=
  match a with
  | .help => (r, some .help)
  | .version => (r, some .version)
  | _ =>
    if a.takesValue && vals.isEmpty then (r, some (.usage (.missingValue a)))
    else if r.has a then
      ({ r with given := r.given.filter (·.1 != a) }, some (.usage (.repeated a)))
    else
      match vals with
      | v :: _ =>
        match checkValue a v with
        | .ok v => ({ r with given := r.given ++ [(a, some v)] }, none)
        | .error e => ({ r with given := r.given ++ [(a, none)] }, some (.usage e))
      | [] => ({ r with given := r.given ++ [(a, none)] }, none)

/-- Checks the option waiting for its value, if any. -/
def settle (r : Reading) : Reading × Option Stop :=
  match r.pending with
  | none => (r, none)
  | some (a, vals) => { r with pending := none, awaiting := none }.take a vals

/-- Records an option after checking the one waiting for its value. -/
def react (r : Reading) (a : Arg) (vals : List String) : Reading × Option Stop :=
  match r.settle with
  | (r, some s) => (r, some s)
  | (r, none) => r.take a vals

/-- Starts an option whose value is the next argument. -/
def await (r : Reading) (a : Arg) : Reading × Option Stop :=
  match r.settle with
  | (r, some s) => (r, some s)
  | (r, none) => ({ r with pending := some (a, []), awaiting := some a }, none)

/-- Stops at an argument that is no option. -/
def unknown (r : Reading) (arg : String) : Reading × Option Stop :=
  let r := r.settle.1
  (r, some (.usage (.unknownArgument arg none [])))

/-- Reads a group of short flags. -/
def shorts (r : Reading) : List Char → Reading × Option Stop
  | [] => (r, none)
  | c :: rest =>
    match Arg.ofShort? c with
    | none => r.unknown ("-" ++ String.singleton c)
    | some a =>
      if !a.takesValue then
        match r.react a [] with
        | (r, some s) => (r, some s)
        | (r, none) => r.shorts rest
      else
        match rest with
        | [] => r.await a
        | '=' :: v => r.react a [String.ofList v]
        | v => r.react a [String.ofList v]

/-- Reads a long flag, with the value written after `=` if any. -/
def longFlag (r : Reading) (name : String) (value : Option String) : Reading × Option Stop :=
  match Arg.ofLong? name, value with
  | some a, some v =>
    if a.takesValue then r.react a [v]
    else (r.settle.1, some (.usage (.unexpectedValue v a r.used)))
  | some a, none => if a.takesValue then r.await a else r.react a []
  | none, _ =>
    let r := r.settle.1
    let similar := suggest name
    let used := r.used ++ (similar.filter (!r.has ·)).toList
    (r, some (.usage (.unknownArgument ("--" ++ name) similar used)))

/-- Reads one argument. -/
def step (r : Reading) (arg : String) : Reading × Option Stop :=
  if r.trailing then r.unknown arg
  else if arg == "--" then ({ r with trailing := true }, none)
  else if arg.startsWith "--" then
    match (arg.drop 2).toString.splitOn "=" with
    | name :: value :: more => r.longFlag name (some ("=".intercalate (value :: more)))
    | _ => r.longFlag (arg.drop 2).toString none
  else if arg.startsWith "-" && arg.length > 1 then r.shorts (arg.drop 1).toString.toList
  else
    match r.awaiting, r.pending with
    | some _, some (a, vals) => ({ r with pending := some (a, vals ++ [arg]), awaiting := none }, none)
    | _, _ => r.unknown arg

/-- The options read, with the defaults for those not given. -/
def options (r : Reading) : Options :=
  { debug := r.has .debug, verbose := r.has .verbose,
    input := (r.value? .input).getD defaultInput, output := r.value? .output,
    tableName := r.value? .tableName, withTypes := r.has .withTypes }

end Reading

/-- What the command line asks for. -/
inductive Request where
  | help
  | version
  | usage (e : UsageError)
  | run (o : Options)
deriving Repr, DecidableEq

/-- Reads the remaining arguments. -/
def readArgs (r : Reading) : List String → Request
  | [] =>
    match r.settle with
    | (_, some .help) => .help
    | (_, some .version) => .version
    | (_, some (.usage e)) => .usage e
    | (r, none) => .run r.options
  | arg :: rest =>
    match r.step arg with
    | (_, some .help) => .help
    | (_, some .version) => .version
    | (_, some (.usage e)) => .usage e
    | (r, none) => readArgs r rest

/-- What the arguments (without the program name) ask for. -/
def Request.ofArgs (args : List String) : Request :=
  readArgs Reading.start args

end OpcodeTable.Cli
