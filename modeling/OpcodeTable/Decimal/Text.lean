import OpcodeTable.Decimal.Shortest
/-!
# Writing a decimal

A decimal `digits * 10 ^ exponent` is written either positionally (`1234.5`, `0.001`,
`120.0`) or with an exponent (`1.2345e+30`). `Layout` holds the choices a format makes: how
far the decimal point may stand from the first digit before the exponent form takes over,
the exponent mark, and whether a non-negative exponent carries a plus sign. A positional
integer keeps a `.0`, so that the text reads as a fraction.
-/

namespace OpcodeTable.Decimal

/-- The choices a format makes when writing a decimal. -/
structure Layout where
  /-- The point position must exceed this for positional writing. -/
  leastPoint : Int
  /-- The point position may be at most this for positional writing. -/
  greatestPoint : Int
  /-- The mark before the exponent. -/
  exponentMark : String
  /-- Whether a non-negative exponent is written with `+`. -/
  plusSign : Bool
deriving Repr

/-- `n` zeros. -/
def zeros (n : Nat) : String :=
  String.ofList (List.replicate n '0')

/-- The decimal digits of a natural number. -/
def digitText (n : Nat) : String :=
  String.ofList (Nat.toDigits 10 n)

/-- Writes `d` (without sign) in layout `l`. The point position `p` is the number of digits
before the decimal point when the value is written positionally: `10 ^ (p - 1) ≤ d < 10 ^ p`.
-/
def Layout.render (l : Layout) (d : Scientific) : String :=
  if d.digits = 0 then "0.0" else
  let ds := Nat.toDigits 10 d.digits
  let n : Int := ds.length
  let p := n + d.exponent
  if 0 ≤ d.exponent ∧ p ≤ l.greatestPoint then
    String.ofList ds ++ zeros d.exponent.toNat ++ ".0"
  else if 0 < p ∧ p ≤ l.greatestPoint then
    String.ofList (ds.take p.toNat) ++ "." ++ String.ofList (ds.drop p.toNat)
  else if l.leastPoint < p ∧ p ≤ 0 then
    "0." ++ zeros (-p).toNat ++ String.ofList ds
  else
    let e := p - 1
    let mantissa := match ds with
      | [c] => String.singleton c
      | c :: rest => String.singleton c ++ "." ++ String.ofList rest
      | [] => ""
    let sign := if e < 0 then "-" else if l.plusSign then "+" else ""
    mantissa ++ l.exponentMark ++ sign ++ digitText e.natAbs

/-- Writes a finite binary64 value: the sign, then the shortest digits in layout `l`. -/
def Layout.renderFloat (l : Layout) (x : Float) : String :=
  let bits := x.toBits
  let sign := if bits >>> 63 = 1 then "-" else ""
  sign ++ l.render (Binary.ofBits bits).shortest

end OpcodeTable.Decimal
