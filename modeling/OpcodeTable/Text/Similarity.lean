/-!
# Jaro similarity

The Jaro similarity of two strings counts the characters they share within a window and how
many of the shared characters stand in a different order. A character of the first string
matches the first unmatched equal character of the second whose position differs by at most
`max(|a|, |b|) / 2 - 1`. With `m` matches and `t` half the number of matched pairs out of
order, the similarity is `(m / |a| + m / |b| + (m - t) / m) / 3`, and 0 when nothing matches.
Two empty strings are fully similar. The counts are exact; the score is a double.
-/

namespace OpcodeTable.Text

/-- What the similarity is computed from: the lengths of the two strings, how many characters
match, and half the number of matched pairs out of order. -/
structure JaroCounts where
  left : Nat
  right : Nat
  matched : Nat
  transpositions : Nat
deriving Repr, DecidableEq

/-- Marks, for each character of `a` in turn, the first unmatched equal character of `b`
within the window, and returns the matched characters of `a` in order. -/
def jaroMatch (b : List Char) (window : Nat) :
    List (Nat × Char) → List Bool → List Char → List Bool × List Char
  | [], used, acc => (used, acc.reverse)
  | (i, ca) :: rest, used, acc =>
    let lo := i - window
    let hi := min b.length (i + window + 1)
    let hit := (List.range hi).find? fun j => lo ≤ j && b[j]? == some ca && used[j]? == some false
    match hit with
    | some j => jaroMatch b window rest (used.set j true) (ca :: acc)
    | none => jaroMatch b window rest used acc

/-- The counts behind the Jaro similarity of two non-empty strings. -/
def jaroCounts (a b : List Char) : JaroCounts :=
  let window := max a.length b.length / 2 - 1
  let (used, fromA) := jaroMatch b window (a.zipIdx.map fun (c, i) => (i, c))
    (List.replicate b.length false) []
  let fromB := (b.zip used).filterMap fun (c, u) => if u then some c else none
  let t := ((fromA.zip fromB).countP fun (x, y) => x != y) / 2
  ⟨a.length, b.length, fromA.length, t⟩

/-- The similarity as a double, summed and divided in the order of the formula, so that a
comparison with a bound comes out as it does in double arithmetic. -/
def JaroCounts.score (k : JaroCounts) : Float :=
  if k.matched = 0 then 0
  else
    let m := k.matched.toFloat
    (m / k.left.toFloat + m / k.right.toFloat + (k.matched - k.transpositions).toFloat / m) / 3

/-- The Jaro similarity of `a` and `b`. -/
def jaro (a b : List Char) : Float :=
  if a.isEmpty && b.isEmpty then 1
  else if a.isEmpty || b.isEmpty then 0
  else (jaroCounts a b).score

example : jaroCounts "inpt".toList "input".toList = ⟨4, 5, 4, 0⟩ := by decide
example : jaroCounts "martha".toList "marhta".toList = ⟨6, 6, 6, 1⟩ := by decide

end OpcodeTable.Text
