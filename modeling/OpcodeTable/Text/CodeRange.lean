/-!
# Ranges of code points

A character class taken from the Unicode data is a list of closed ranges of code points, in
ascending order and apart from each other. Membership is a scan of that list.
-/

namespace OpcodeTable.Text

/-- A closed range `lo ..= hi` of code points. -/
structure CodeRange where
  lo : Nat
  hi : Nat
deriving Repr, DecidableEq

namespace CodeRange

/-- Whether the code point of `c` lies in the range. -/
def contains (r : CodeRange) (c : Char) : Bool :=
  r.lo ≤ c.toNat && c.toNat ≤ r.hi

/-- Whether the code point of `c` lies in one of the ranges. -/
def anyContains (rs : List CodeRange) (c : Char) : Bool :=
  rs.any fun r => r.contains c

/-- Ranges are ascending and apart: each starts after the one before has ended, with a gap. -/
def Sorted : List CodeRange → Prop
  | [] => True
  | [r] => r.lo ≤ r.hi
  | r :: s :: rest => r.lo ≤ r.hi ∧ r.hi + 1 < s.lo ∧ Sorted (s :: rest)

/-- A checker for `Sorted`, so that a table's shape can be confirmed by evaluation. -/
def sorted : List CodeRange → Bool
  | [] => true
  | [r] => r.lo ≤ r.hi
  | r :: s :: rest => r.lo ≤ r.hi && r.hi + 1 < s.lo && sorted (s :: rest)

theorem sorted_iff (rs : List CodeRange) : sorted rs = true ↔ Sorted rs := by
  induction rs with
  | nil => simp [sorted, Sorted]
  | cons r rest ih =>
    cases rest with
    | nil => simp [sorted, Sorted]
    | cons s rest => simp [sorted, Sorted, ih, and_assoc]

@[simp] theorem anyContains_nil (c : Char) : anyContains [] c = false := rfl

theorem anyContains_cons (r : CodeRange) (rs : List CodeRange) (c : Char) :
    anyContains (r :: rs) c = (r.contains c || anyContains rs c) := rfl

end CodeRange

end OpcodeTable.Text
