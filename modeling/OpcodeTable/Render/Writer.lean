/-!
# Writing indented lines

Source is written as a list of steps. Each step writes one line: at the current depth (`line`),
then going one level deeper (`opening`), or after coming back one level (`closing`, which never
goes below the top). A line is indented by four spaces per level, but only when it has text:
an empty line, like the one `blank` writes, stays empty.
-/

namespace OpcodeTable.Render

/-- One step of writing. -/
inductive Step where
  /-- A line at the current depth. -/
  | line (text : String)
  /-- A line at the current depth, after which the depth goes up by one. -/
  | opening (text : String)
  /-- The depth goes down by one (not below zero), then a line at the new depth. -/
  | closing (text : String)
  /-- An empty line. -/
  | blank
deriving Repr, DecidableEq

/-- The text written so far, and the current depth. -/
structure Writer where
  out : String
  depth : Nat
deriving Repr, DecidableEq

/-- The indentation of one level. -/
def indentUnit : String := "    "

/-- The indentation of `depth` levels. -/
def indent (depth : Nat) : String :=
  String.join (List.replicate depth indentUnit)

/-- A line of text at `depth`, with its line feed; indented only when it has text. -/
def indentedLine (depth : Nat) (text : String) : String :=
  (if text.isEmpty then "" else indent depth) ++ text ++ "\n"

namespace Writer

/-- A writer with nothing written yet, at `depth`. -/
def start (depth : Nat) : Writer := ⟨"", depth⟩

/-- Takes one step. -/
def step (w : Writer) : Step → Writer
  | .line text => ⟨w.out ++ indentedLine w.depth text, w.depth⟩
  | .opening text => ⟨w.out ++ indentedLine w.depth text, w.depth + 1⟩
  | .closing text => ⟨w.out ++ indentedLine (w.depth - 1) text, w.depth - 1⟩
  | .blank => ⟨w.out ++ "\n", w.depth⟩

/-- Takes the steps in order. -/
def run (w : Writer) (steps : List Step) : Writer :=
  steps.foldl step w

/-- The text the steps write, starting at `depth`. -/
def text (depth : Nat) (steps : List Step) : String :=
  ((start depth).run steps).out

@[simp] theorem run_nil (w : Writer) : w.run [] = w := rfl

@[simp] theorem run_cons (w : Writer) (s : Step) (ss : List Step) :
    w.run (s :: ss) = (w.step s).run ss := rfl

theorem run_append (w : Writer) (ss ts : List Step) : w.run (ss ++ ts) = (w.run ss).run ts := by
  simp [run, List.foldl_append]

end Writer

end OpcodeTable.Render
