/-!
# Sets of code points

A class in a pattern stands for a set of characters, or of bytes when the pattern is read
without Unicode. The set is kept as a list of closed ranges. The list need not be sorted, and
its ranges may overlap: the checks made on a class only ask whether the set is empty and
whether it stays within ASCII, and both questions read the same from any list of ranges that
covers the set. Every operation keeps only non-empty ranges, so a set is empty exactly when
its list is.
-/

namespace OpcodeTable.Pattern

/-- A set of code points, as closed ranges `(lo, hi)` with `lo ≤ hi`. -/
abbrev Ranges := List (Nat × Nat)

namespace Ranges

/-- The code points of characters: all of Unicode but the surrogates. -/
def chars : Ranges := [(0, 0xD7FF), (0xE000, 0x10FFFF)]

/-- All bytes. -/
def bytes : Ranges := [(0, 0xFF)]

/-- The one code point `n`. -/
def single (n : Nat) : Ranges := [(n, n)]

/-- The common part of two ranges, if they meet. -/
def meet (r s : Nat × Nat) : Ranges :=
  if max r.1 s.1 ≤ min r.2 s.2 then [(max r.1 s.1, min r.2 s.2)] else []

/-- The parts of the range `r` outside the range `s`: none, one or two ranges. -/
def cut (r s : Nat × Nat) : Ranges :=
  if s.2 < r.1 || r.2 < s.1 then [r]
  else (if r.1 < s.1 then [(r.1, s.1 - 1)] else []) ++ (if s.2 < r.2 then [(s.2 + 1, r.2)] else [])

/-- The code points in both sets. -/
def inter (a b : Ranges) : Ranges :=
  a.flatMap fun r => b.flatMap (meet r)

/-- The code points of `a` that are not in `b`: each range of `b` is cut out in turn. -/
def diff (a b : Ranges) : Ranges :=
  b.foldl (fun acc s => acc.flatMap fun r => cut r s) a

/-- The code points in exactly one of the sets. -/
def symmDiff (a b : Ranges) : Ranges :=
  diff a b ++ diff b a

/-- Whether every code point of the set is ASCII. -/
def isAscii (a : Ranges) : Bool :=
  a.all fun r => r.2 ≤ 0x7F

@[simp] theorem inter_nil (a : Ranges) : inter a [] = [] := by
  simp [inter]

@[simp] theorem nil_inter (b : Ranges) : inter [] b = [] := rfl

@[simp] theorem diff_nil (a : Ranges) : diff a [] = a := rfl

@[simp] theorem nil_diff (b : Ranges) : diff [] b = [] := by
  unfold diff
  induction b with
  | nil => rfl
  | cons s rest ih => simpa using ih

example : diff bytes (single 0x41) = [(0, 0x40), (0x42, 0xFF)] := by decide

example : isAscii (diff bytes [(0x80, 0xFF)]) = true := by decide

example : inter [(0x61, 0x7A)] [(0x41, 0x5A)] = [] := by decide

end Ranges

end OpcodeTable.Pattern
