import Mathlib.Data.List.Basic
import OpcodeTable.Render.Writer
/-!
# Written text as a list of lines

The writer keeps a string and a depth. Here the same run is read as a list of lines: each step
writes one line (`Step.lineAt`, without its line feed) and moves the depth (`Step.next`), and
`Writer.run_eq` says a run appends exactly `unlines (Writer.lines depth steps)`. Text built this
way has one line per step as long as no step's text holds a line feed (`IsLine`); then the text
determines its lines (`unlines_injective`).
-/

namespace List

/-- Two lists cut at the first element of a kind that neither prefix holds. -/
theorem append_cons_inj_of_forall_not {α : Type} {p : α → Prop} {a b r s : List α} {x y : α}
    (ha : ∀ z ∈ a, ¬ p z) (hb : ∀ z ∈ b, ¬ p z) (hx : p x) (hy : p y)
    (h : a ++ x :: r = b ++ y :: s) : a = b ∧ x = y ∧ r = s := by
  induction a generalizing b with
  | nil =>
    cases b with
    | nil => simpa using h
    | cons z b =>
      simp only [nil_append, cons_append, cons.injEq] at h
      exact absurd (h.1 ▸ hx) (hb z mem_cons_self)
  | cons z a ih =>
    cases b with
    | nil =>
      simp only [nil_append, cons_append, cons.injEq] at h
      exact absurd (h.1 ▸ hy) (ha z mem_cons_self)
    | cons w b =>
      simp only [cons_append, cons.injEq] at h
      obtain ⟨rfl, h⟩ := h
      obtain ⟨rfl, rfl, rfl⟩ := ih (fun u hu => ha u (mem_cons_of_mem _ hu))
        (fun u hu => hb u (mem_cons_of_mem _ hu)) h
      exact ⟨rfl, rfl, rfl⟩

/-- Cutting two lists at the first occurrence of a mark that neither prefix holds. -/
theorem append_cons_inj_of_not_mem {α : Type} {x : α} {a b r s : List α} (ha : x ∉ a)
    (hb : x ∉ b) (h : a ++ x :: r = b ++ x :: s) : a = b ∧ r = s := by
  obtain ⟨hab, -, hrs⟩ := append_cons_inj_of_forall_not (p := (· = x))
    (fun z hz hzx => ha (hzx ▸ hz)) (fun z hz hzx => hb (hzx ▸ hz)) rfl rfl h
  exact ⟨hab, hrs⟩

end List

namespace OpcodeTable.Render

/-- Lines, each ended by a line feed. -/
def unlines (ls : List String) : String :=
  String.join (ls.map (· ++ "\n"))

/-- A line holds no line feed. -/
def IsLine (s : String) : Prop :=
  '\n' ∉ s.toList

instance : DecidablePred IsLine :=
  fun s => inferInstanceAs (Decidable ('\n' ∉ s.toList))

@[simp] theorem unlines_nil : unlines [] = "" := rfl

@[simp] theorem unlines_cons (l : String) (ls : List String) :
    unlines (l :: ls) = l ++ "\n" ++ unlines ls := by
  simp [unlines, String.append_assoc]

theorem unlines_append (ls ls' : List String) : unlines (ls ++ ls') = unlines ls ++ unlines ls' := by
  simp [unlines, String.join_append]

@[simp] theorem isLine_append {s t : String} : IsLine (s ++ t) ↔ IsLine s ∧ IsLine t := by
  simp [IsLine, not_or]

@[simp] theorem isLine_empty : IsLine "" := by
  simp [IsLine]

/-- Text made of lines determines them. -/
theorem unlines_injective {ls ls' : List String} (h : ∀ l ∈ ls, IsLine l)
    (h' : ∀ l ∈ ls', IsLine l) (he : unlines ls = unlines ls') : ls = ls' := by
  induction ls generalizing ls' with
  | nil =>
    cases ls' with
    | nil => rfl
    | cons l' ls' =>
      have := congrArg (fun s => s.toList.length) he
      simp at this
  | cons l ls ih =>
    cases ls' with
    | nil =>
      have := congrArg (fun s => s.toList.length) he
      simp at this
    | cons l' ls' =>
      have hl := congrArg String.toList he
      simp only [unlines_cons, String.toList_append] at hl
      simp only [List.append_assoc, show "\n".toList = ['\n'] from rfl, List.singleton_append] at hl
      obtain ⟨hll, hrest⟩ := List.append_cons_inj_of_not_mem (h l (by simp)) (h' l' (by simp)) hl
      rw [String.toList_injective hll,
        ih (fun x hx => h x (by simp [hx])) (fun x hx => h' x (by simp [hx]))
          (String.toList_injective hrest)]

/-! ## Indentation -/

theorem indent_zero : indent 0 = "" := rfl

theorem indent_succ (k : Nat) : indent (k + 1) = indent k ++ indentUnit := by
  simp [indent, List.replicate_succ']

@[simp] theorem toList_indent (k : Nat) : (indent k).toList = List.replicate (4 * k) ' ' := by
  induction k with
  | zero => rfl
  | succ k ih =>
    rw [indent_succ, String.toList_append, ih, Nat.mul_succ, List.replicate_add]
    rfl

theorem isLine_indent (k : Nat) : IsLine (indent k) := by
  simp [IsLine]

/-- A line of text at `depth`, without its line feed; indented only when it has text. -/
def indented (depth : Nat) (text : String) : String :=
  (if text.isEmpty then "" else indent depth) ++ text

theorem indented_zero (text : String) : indented 0 text = text := by
  simp [indented, indent_zero]

theorem indented_of_ne {text : String} (h : text ≠ "") (d : Nat) :
    indented d text = indent d ++ text := by
  simp [indented, h]

@[simp] theorem isLine_indented {depth : Nat} {text : String} :
    IsLine (indented depth text) ↔ IsLine text := by
  unfold indented
  split <;> simp [isLine_indent]

/-! ## A run as lines -/

namespace Step

/-- The depth after the step, taken at depth `d`. -/
def next (d : Nat) : Step → Nat
  | .opening _ => d + 1
  | .closing _ => d - 1
  | _ => d

/-- The line the step writes at depth `d`, without its line feed. -/
def lineAt (d : Nat) : Step → String
  | .line text | .opening text => indented d text
  | .closing text => indented (d - 1) text
  | .blank => ""

end Step

namespace Writer

/-- The lines the steps write, starting at depth `d`. -/
def lines : Nat → List Step → List String
  | _, [] => []
  | d, s :: ss => s.lineAt d :: lines (s.next d) ss

/-- The depth after the steps, starting at depth `d`. -/
def depthAfter (d : Nat) (ss : List Step) : Nat :=
  ss.foldl Step.next d

@[simp] theorem lines_nil (d : Nat) : lines d [] = [] := rfl

@[simp] theorem lines_cons (d : Nat) (s : Step) (ss : List Step) :
    lines d (s :: ss) = s.lineAt d :: lines (s.next d) ss := rfl

@[simp] theorem depthAfter_nil (d : Nat) : depthAfter d [] = d := rfl

@[simp] theorem depthAfter_cons (d : Nat) (s : Step) (ss : List Step) :
    depthAfter d (s :: ss) = depthAfter (s.next d) ss := rfl

theorem depthAfter_append (d : Nat) (ss ts : List Step) :
    depthAfter d (ss ++ ts) = depthAfter (depthAfter d ss) ts := by
  simp [depthAfter, List.foldl_append]

theorem lines_append (d : Nat) (ss ts : List Step) :
    lines d (ss ++ ts) = lines d ss ++ lines (depthAfter d ss) ts := by
  induction ss generalizing d with
  | nil => rfl
  | cons s ss ih => simp [ih]

theorem step_eq (w : Writer) (s : Step) :
    w.step s = ⟨w.out ++ (s.lineAt w.depth ++ "\n"), s.next w.depth⟩ := by
  cases s <;> simp [step, Step.lineAt, Step.next, indentedLine, indented, String.append_assoc]

/-- **A run appends its lines.** -/
theorem run_eq (w : Writer) (ss : List Step) :
    w.run ss = ⟨w.out ++ unlines (lines w.depth ss), depthAfter w.depth ss⟩ := by
  induction ss generalizing w with
  | nil => simp [unlines]
  | cons s ss ih =>
    rw [run_cons, ih, step_eq]
    simp [String.append_assoc]

theorem text_eq (d : Nat) (ss : List Step) : text d ss = unlines (lines d ss) := by
  simp [text, run_eq, start]

/-- Steps that each write one line of text keep the depth. -/
theorem lines_map_line (d : Nat) (texts : List String) :
    lines d (texts.map .line) = texts.map (indented d) ∧ depthAfter d (texts.map .line) = d := by
  induction texts with
  | nil => simp
  | cons t ts ih => simpa [Step.lineAt, Step.next] using ih

end Writer

end OpcodeTable.Render
