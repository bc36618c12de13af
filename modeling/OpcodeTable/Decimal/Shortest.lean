/-!
# Shortest decimal digits of a binary64 value

A finite binary64 value `m * 2 ^ q` stands for every real that rounds to it: the reals from
halfway to the value below to halfway to the value above, both ends included exactly when `m`
is even. `Binary.shortest` picks, among the decimals in that interval, one with the fewest
significant digits, and of those the nearest to the value; an exact tie between two nearest
decimals goes to the one with an even last digit.

The search tries one digit, then two, and so on: with `n` digits the decimal grid has spacing
`10 ^ (k - n)`, where `10 ^ k` is the least power of ten above the value, and the value's two
neighbours on that grid are tested. All comparisons are exact products of naturals.
-/

namespace OpcodeTable.Decimal

/-- A finite non-negative binary64 value, `mantissa * 2 ^ exponent`. -/
structure Binary where
  mantissa : Nat
  exponent : Int
  /-- The value below is half as far away as the value above: the mantissa is the least of
  its binade, and the binade is not the lowest. -/
  narrowBelow : Bool
deriving Repr, DecidableEq

/-- A decimal `digits * 10 ^ exponent`. -/
structure Scientific where
  digits : Nat
  exponent : Int
deriving Repr, DecidableEq

/-- The magnitude of a finite value from its bits; the sign bit is ignored. -/
def Binary.ofBits (b : UInt64) : Binary :=
  let e := ((b >>> 52) &&& 0x7FF).toNat
  let f := (b &&& 0xFFFFFFFFFFFFF).toNat
  if e = 0 then ⟨f, -1074, false⟩ else ⟨Nat.pow 2 52 + f, (e : Int) - 1075, f = 0 && e > 1⟩

/-- Compares `a * 10 ^ i` with `n * 2 ^ j`, exactly. -/
def cmpScaled (a : Nat) (i : Int) (n : Nat) (j : Int) : Ordering :=
  compare (a * Nat.pow 10 i.toNat * Nat.pow 2 (-j).toNat)
    (n * Nat.pow 2 j.toNat * Nat.pow 10 (-i).toNat)

namespace Binary

/-- Whether the decimal `d` lies among the reals that round to `x` (to nearest, ties to even). -/
def readsBack (x : Binary) (d : Scientific) : Bool :=
  let lo := if x.narrowBelow then 4 * x.mantissa - 1 else 4 * x.mantissa - 2
  let hi := 4 * x.mantissa + 2
  let incl := x.mantissa % 2 == 0
  let cl := cmpScaled d.digits d.exponent lo (x.exponent - 2)
  let ch := cmpScaled d.digits d.exponent hi (x.exponent - 2)
  (cl == .gt || (incl && cl == .eq)) && (ch == .lt || (incl && ch == .eq))

/-- Whether `x < 10 ^ k`. -/
def below (x : Binary) (k : Int) : Bool :=
  cmpScaled 1 k x.mantissa x.exponent == .gt

/-- Moves a guess of the scale to the least `k` with `x < 10 ^ k`, by single steps. Two steps
in either direction always suffice for the guess of `scale`. -/
def settle (x : Binary) (k : Int) : Nat → Int
  | 0 => k
  | n + 1 =>
    if x.below k then
      if x.below (k - 1) then settle x (k - 1) n else k
    else settle x (k + 1) n

/-- The least `k` with `x < 10 ^ k`, for a non-zero `x`: guessed from the binary logarithm
(`log10 2 ≈ 0.30103`), then settled. -/
def scale (x : Binary) : Int :=
  let b : Int := (Nat.log2 x.mantissa : Int) + x.exponent
  settle x (b * 30103 / 100000 + 1) 4

/-- `⌊x / 10 ^ g⌋`. -/
def floorOnGrid (x : Binary) (g : Int) : Nat :=
  (x.mantissa * Nat.pow 2 x.exponent.toNat * Nat.pow 10 (-g).toNat) /
    (Nat.pow 2 (-x.exponent).toNat * Nat.pow 10 g.toNat)

/-- Of the two neighbours `lo * 10 ^ g` and `(lo + 1) * 10 ^ g` of `x`, the one that reads
back, the nearer if both do, the even one on a tie. -/
def pickOnGrid (x : Binary) (g : Int) : Option Scientific :=
  let lo := x.floorOnGrid g
  let below : Scientific := ⟨lo, g⟩
  let above : Scientific := ⟨lo + 1, g⟩
  match x.readsBack below, x.readsBack above with
  | true, true =>
    -- compare the value with the midpoint `(2 lo + 1) * 10 ^ g / 2`
    match cmpScaled (2 * lo + 1) g (2 * x.mantissa) x.exponent with
    | .gt => some below
    | .lt => some above
    | .eq => if lo % 2 = 0 then some below else some above
  | true, false => some below
  | false, true => some above
  | false, false => none

/-- Tries grids of `n`, `n + 1`, … significant digits, up to `n + fuel - 1`. -/
def search (x : Binary) (k : Int) (n : Nat) : Nat → Option Scientific
  | 0 => none
  | fuel + 1 =>
    match x.pickOnGrid (k - n) with
    | some d => some d
    | none => search x k (n + 1) fuel

/-- The exact decimal value of `x`. -/
def exact (x : Binary) : Scientific :=
  if x.exponent ≥ 0 then ⟨x.mantissa * Nat.pow 2 x.exponent.toNat, 0⟩
  else ⟨x.mantissa * Nat.pow 5 (-x.exponent).toNat, x.exponent⟩

end Binary

/-- Moves trailing zeros of the digits into the exponent; zero stays as it is. -/
def Scientific.trim (d : Scientific) : Scientific :=
  if h : d.digits ≠ 0 ∧ d.digits % 10 = 0 then
    Scientific.trim ⟨d.digits / 10, d.exponent + 1⟩
  else d
termination_by d.digits
decreasing_by exact Nat.div_lt_self (Nat.pos_of_ne_zero h.1) (by decide)

/-- The shortest nearest decimal that reads back as `x`, without trailing zeros. Zero is
`0 * 10 ^ 0`. Seventeen digits always read back; should the search find nothing, the exact
value is returned. -/
def Binary.shortest (x : Binary) : Scientific :=
  if x.mantissa = 0 then ⟨0, 0⟩
  else (match x.search x.scale 1 17 with
    | some d => d
    | none => x.exact).trim

example : (Binary.ofBits 0x3FF0000000000000).shortest = ⟨1, 0⟩ := by decide +kernel
example : (Binary.ofBits 0x43F0000000000000).shortest = ⟨18446744073709552, 3⟩ := by decide +kernel
example : (Binary.ofBits 0x3FB999999999999A).shortest = ⟨1, -1⟩ := by decide +kernel
example : (Binary.ofBits 0x0000000000000001).shortest = ⟨5, -324⟩ := by decide +kernel

end OpcodeTable.Decimal
